import Wordweave.Proofs.Sound.Rime
import Wordweave.Proofs.Term.Halves
import Wordweave.Proofs.Vocabulary.Answer

/-!
# Wordweave — places within their lists

A table is *shapely* if it declares subtypes and each of its entries has a term for every one of
them. `Vocabulary.add` refuses all others, so a vocabulary holds shapely tables only, whatever it was
offered (`Vocabulary.shapely_offerAll`).

In such a vocabulary no place lies outside its list. A subtype that is found is a column of every
entry of its table; an anchor has a last term to fall back on; the vowels of a word lie within it;
and a term is cut between two of its characters. So the partial tests of a candidate are total, and
`Vocabulary.answer?` always has an answer. What the memory holds is of no account: it may name tables
and places that do not exist, or hold used entries where an anchor belongs.

Main result:

* `Vocabulary.answer_in_range` — no lookup goes outside a list, in any memory and with any words.
-/

namespace Wordweave

/-! ## Partial results that are all there -/

section Partial

variable {α β : Type}

theorem exists_mapM {f : α → Option β} {l : List α} (h : ∀ a ∈ l, ∃ b, f a = some b) :
    ∃ made, l.mapM f = some made := by
  induction l with
  | nil => exact ⟨[], rfl⟩
  | cons a l ih =>
    obtain ⟨ha, hl⟩ := List.forall_mem_cons.mp h
    obtain ⟨b, hb⟩ := ha
    obtain ⟨made, hmade⟩ := ih hl
    exact ⟨b :: made, by rw [List.mapM_cons, hb, hmade]; rfl⟩

theorem filterAuxM_eq_some {p : α → Option Bool} {test : α → Bool} {l : List α}
    (h : ∀ a ∈ l, p a = some (test a)) (before : List α) :
    l.filterAuxM p before = some ((l.filter test).reverse ++ before) := by
  induction l generalizing before with
  | nil => rfl
  | cons a l ih =>
    obtain ⟨ha, hl⟩ := List.forall_mem_cons.mp h
    rw [List.filterAuxM, ha, Option.bind_eq_bind, Option.bind_some, ih hl, List.filter_cons]
    cases test a <;> simp

/-- A partial test that has a result for every member keeps what passes. -/
theorem filterM_eq_some {p : α → Option Bool} {test : α → Bool} {l : List α}
    (h : ∀ a ∈ l, p a = some (test a)) : l.filterM p = some (l.filter test) := by
  rw [List.filterM, filterAuxM_eq_some h, List.append_nil, Option.bind_eq_bind, Option.bind_some,
    List.reverse_reverse]
  rfl

theorem allM_eq_some {p : α → Option Bool} {test : α → Bool} {l : List α}
    (h : ∀ a ∈ l, p a = some (test a)) : l.allM p = some (l.all test) := by
  induction l with
  | nil => rfl
  | cons a l ih =>
    obtain ⟨ha, hl⟩ := List.forall_mem_cons.mp h
    rw [List.allM_cons, ha, ih hl, List.all_cons]
    cases test a <;> rfl

end Partial

/-! ## Choices -/

namespace Keystream

theorem scaled_lt (word n : UInt32) : (scaled word n).1 < max 1 n.toNat := by
  have hword : word.toNat < 0x100000000 := word.toNat_lt
  show word.toNat * n.toNat / 0x100000000 < _
  rcases Nat.eq_zero_or_pos n.toNat with hzero | hpos
  · simp [hzero]
  · have hless : word.toNat * n.toNat < 0x100000000 * n.toNat :=
      Nat.mul_lt_mul_of_pos_right hword hpos
    have hquotient := Nat.div_lt_of_lt_mul hless
    omega

theorem below_lt (n : UInt32) (tries : Nat) (s : Keystream) :
    (below n tries s).1 < max 1 n.toNat := by
  induction tries generalizing s with
  | zero => exact scaled_lt ..
  | succ tries ih =>
    rw [below]
    simp only
    split
    · exact scaled_lt ..
    · exact ih _

/-- A list that has members is chosen from. -/
theorem exists_choose {α : Type} (s : Keystream) {l : List α} (hl : l ≠ []) :
    ∃ a, (s.choose l).1 = some a := by
  cases l with
  | nil => exact absurd rfl hl
  | cons a l =>
    rw [choose]
    · have hbelow := below_lt (UInt32.ofNat (a :: l).length) choiceTries s
      -- a length that does not fit a word leaves a smaller number
      have hfit : (UInt32.ofNat (a :: l).length).toNat ≤ (a :: l).length := by
        rw [UInt32.toNat_ofNat']
        exact Nat.mod_le ..
      have hpos : 0 < (a :: l).length := Nat.succ_pos _
      have hlt : (below (UInt32.ofNat (a :: l).length) choiceTries s).1 < (a :: l).length := by
        omega
      exact ⟨_, List.getElem?_eq_getElem hlt⟩
    · exact List.cons_ne_nil a l

end Keystream

/-! ## Shapely tables -/

/-- A table declares subtypes, and its entries have a term for each of them. -/
structure Table.Shapely (t : Table) : Prop where
  subtypes_ne_nil : t.subtypes ≠ []
  length_terms : ∀ e ∈ t.entries, e.terms.length = t.subtypes.length

/-- A vocabulary of shapely tables. -/
def Vocabulary.Shapely (v : Vocabulary) : Prop := ∀ t ∈ v.tables, t.Shapely

namespace Table

theorem firstMisfit?_eq_none_iff {expected index : Nat} {entries : List Entry} :
    firstMisfit? expected index entries = none ↔ ∀ e ∈ entries, e.terms.length = expected := by
  induction entries generalizing index with
  | nil => simp [firstMisfit?]
  | cons e entries ih =>
    rw [firstMisfit?, List.forall_mem_cons]
    by_cases he : e.terms.length = expected
    · rw [if_pos he, ih]
      simp [he]
    · rw [if_neg he]
      simp [he]

/-- A table has no fault of its own just when it is shapely. -/
theorem ownFault?_eq_none_iff {t : Table} : t.ownFault? = none ↔ t.Shapely := by
  rw [ownFault?]
  by_cases hnone : t.subtypes = []
  · have hnot : ¬ t.Shapely := fun h => h.subtypes_ne_nil hnone
    simp [hnone, hnot]
  · rw [if_neg (by simpa using hnone), Option.map_eq_none_iff, firstMisfit?_eq_none_iff]
    exact ⟨fun h => ⟨hnone, h⟩, fun h => h.length_terms⟩

theorem lt_of_subtypeIndex? {t : Table} {subtype : Option String} {column : Nat}
    (h : t.subtypeIndex? subtype = some column) : column < t.subtypes.length := by
  unfold subtypeIndex? at h
  cases subtype with
  | none =>
    obtain ⟨hne, h⟩ := Option.ite_none_left_eq_some.mp h
    rw [← Option.some.inj h]
    exact List.length_pos_iff.mpr (by simpa using hne)
  | some name => exact (List.findIdx?_eq_some_iff_getElem.mp h).choose

theorem lt_of_pinned? {t : Table} {q : Lookup} {m : Memory} {index : Nat}
    (h : t.pinned? q m = some index) : index < t.entries.length := by
  obtain ⟨name, -, hname⟩ := List.exists_of_findSome?_eq_some h
  split at hname
  · obtain ⟨⟨-, hlt⟩, hname⟩ := Option.ite_none_right_eq_some.mp hname
    rwa [← Option.some.inj hname]
  · exact nomatch hname

end Table

theorem Entry.isSome_term? {e : Entry} {column : Nat} :
    (e.term? column).isSome ↔ column < e.terms.length := by
  rw [term?, Option.isSome_map, isSome_getElem?]

/-- An entry of a shapely table has a term in each of its columns. -/
theorem Table.Shapely.exists_term? {t : Table} (h : t.Shapely) {e : Entry} (he : e ∈ t.entries)
    {subtype : Option String} {column : Nat} (hcolumn : t.subtypeIndex? subtype = some column) :
    ∃ term, e.term? column = some term := by
  refine Option.isSome_iff_exists.mp (Entry.isSome_term?.mpr ?_)
  rw [h.length_terms e he]
  exact lt_of_subtypeIndex? hcolumn

/-! ## Vocabularies that are built -/

namespace Vocabulary

/-- A vocabulary after a table has been offered: with the table, or as it was if that is refused. -/
def offer (v : Vocabulary) (t : Table) : Vocabulary :=
  match v.add t with
  | .ok v => v
  | .error _ => v

/-- A vocabulary after some tables have been offered in order. -/
def offerAll (v : Vocabulary) (tables : List Table) : Vocabulary := tables.foldl offer v

theorem Shapely.offer {v : Vocabulary} (h : v.Shapely) (t : Table) : (v.offer t).Shapely := by
  unfold Vocabulary.offer add
  cases hfault : t.ownFault? with
  | some fault => exact h
  | none =>
    by_cases htaken : (v.table? t.name).isSome
    · simp only [if_pos htaken]
      exact h
    · simp only [if_neg htaken]
      -- the new table has just been found to have no fault
      intro t' ht'
      rcases List.mem_append.mp ht' with hold | hnew
      · exact h t' hold
      · rw [List.mem_singleton.mp hnew]
        exact Table.ownFault?_eq_none_iff.mp hfault

/-- A vocabulary that is built by offering tables holds shapely tables. -/
theorem shapely_offerAll (tables : List Table) : (empty.offerAll tables).Shapely := by
  -- from any vocabulary that does
  have hkeep : ∀ {v : Vocabulary}, v.Shapely → (v.offerAll tables).Shapely := by
    induction tables with
    | nil => exact id
    | cons t tables ih => exact fun h => ih (h.offer t)
  exact hkeep fun _ h => nomatch h

theorem mem_of_table? {v : Vocabulary} {name : String} {t : Table} (h : v.table? name = some t) :
    t ∈ v.tables :=
  List.mem_of_find?_eq_some h

/-! ## Lookups -/

section Lookups

variable {v : Vocabulary} (h : v.Shapely) (m : Memory) (q : Lookup)

include h

/-- An entry of the vocabulary has a last term. -/
theorem Shapely.exists_last {ref : EntryRef} {e : Entry} (he : v.entry? ref = some e)
    (column : Nat) : ∃ term, e.term? (min column (e.terms.length - 1)) = some term := by
  obtain ⟨t, ht, hentry⟩ := Option.bind_eq_some_iff.mp he
  have hshapely := h t (mem_of_table? ht)
  have hlength := hshapely.length_terms e (List.mem_of_getElem? hentry)
  have hpos := List.length_pos_iff.mpr hshapely.subtypes_ne_nil
  exact Option.isSome_iff_exists.mp (Entry.isSome_term?.mpr (by omega))

theorem Shapely.exists_admits? (table : String) (column : Nat) (c : Candidate) (tie : Tie) :
    ∃ admitted, v.admits? m table column c tie = some admitted := by
  unfold admits?
  split
  · exact ⟨_, rfl⟩
  · cases hanchor : (m.anchor? tie).bind v.entry? with
    | none => exact ⟨true, rfl⟩
    | some anchor =>
      obtain ⟨ref, -, hentry⟩ := Option.bind_eq_some_iff.mp hanchor
      obtain ⟨term, hterm⟩ := h.exists_last hentry column
      -- a rhyme is the one kind that looks for a term of the anchor
      cases hkind : tie.kind with
      | rhyme =>
        simp only [TieKind.relates?, hterm, Sound.rime?_eq]
        exact ⟨_, rfl⟩
      | _ => exact ⟨_, rfl⟩

end Lookups

/-- Whether a tie admits a candidate; a tie that could not tell would not. -/
def admits (v : Vocabulary) (m : Memory) (table : String) (column : Nat) (c : Candidate)
    (tie : Tie) : Bool :=
  (v.admits? m table column c tie).getD false

/-- Whether a candidate passes the filters of a lookup and is admitted by all of its ties. -/
def admissible (v : Vocabulary) (m : Memory) (q : Lookup) (table : String) (column : Nat)
    (c : Candidate) : Bool :=
  q.passes c && q.allowsClasses c && q.ties.all (v.admits m table column c)

namespace Shapely

variable {v : Vocabulary} (h : v.Shapely) {m : Memory} {q : Lookup}

include h

theorem admits?_eq (table : String) (column : Nat) (c : Candidate) (tie : Tie) :
    v.admits? m table column c tie = some (v.admits m table column c tie) := by
  obtain ⟨admitted, hadmitted⟩ := h.exists_admits? m table column c tie
  rw [admits, hadmitted, Option.getD_some]

/-- **Tests.** In a vocabulary of shapely tables every candidate is admissible or is not. -/
theorem admissible?_eq (table : String) (column : Nat) (c : Candidate) :
    v.admissible? m q table column c = some (v.admissible m q table column c) := by
  unfold admissible? admissible
  rw [allM_eq_some fun tie _ => h.admits?_eq table column c tie]
  cases q.passes c && q.allowsClasses c <;> rfl

/-- The candidates of a table are all there. -/
theorem exists_candidates? {t : Table} (ht : t ∈ v.tables) {column : Nat}
    (hcolumn : t.subtypeIndex? q.subtype = some column) :
    ∃ candidates, t.candidates? column = some candidates := by
  refine exists_mapM ?_
  rintro ⟨e, index⟩ hmem
  have he : e ∈ t.entries := List.mem_of_getElem? (List.mem_zipIdx_iff_getElem?.mp hmem)
  obtain ⟨term, hterm⟩ := (h t ht).exists_term? he hcolumn
  exact ⟨⟨index, e, term⟩, Option.map_eq_some_iff.mpr ⟨term, hterm, rfl⟩⟩

/-- **Picks.** What is picked is the pin, or else chosen from the candidates that are admissible. -/
theorem pick?_eq {t : Table} {column : Nat} {candidates : List Candidate}
    (hcandidates : t.candidates? column = some candidates) (s : Keystream) :
    v.pick? q t column s m =
      match t.pinned? q m with
      | some index => some (some index, s)
      | none =>
        let chosen := s.choose (candidates.filter (v.admissible m q t.name column))
        some (chosen.1.map (·.index), chosen.2) := by
  unfold pick?
  cases t.pinned? q m with
  | some index => rfl
  | none =>
    simp only
    rw [hcandidates, Option.bind_eq_bind, Option.bind_some,
      filterM_eq_some fun c _ => h.admissible?_eq t.name column c]
    rfl

/-- **Answers.** A lookup is answered, or there is no term for it. -/
theorem answer?_eq (s : Keystream) : v.answer? q s m = some (v.answer q s m) := by
  have hanswer : ∃ a, v.answer? q s m = some a := by
    unfold answer?
    -- without a table or a column there is no term, which is an answer
    cases htable : q.name.bind v.table? with
    | none => exact ⟨_, rfl⟩
    | some t =>
      obtain ⟨name, -, ht⟩ := Option.bind_eq_some_iff.mp htable
      simp only
      cases hcolumn : t.subtypeIndex? q.subtype with
      | none => exact ⟨_, rfl⟩
      | some column =>
        obtain ⟨candidates, hcandidates⟩ := h.exists_candidates? (mem_of_table? ht) hcolumn
        simp only
        rcases hpick : v.pick? q t column s m with _ | ⟨_ | index, s'⟩
        · -- a pick comes to an end
          rw [h.pick?_eq hcandidates] at hpick
          split at hpick <;> exact nomatch hpick
        · exact ⟨_, rfl⟩
        · -- the entry is the pin or that of a candidate, so the table has it
          have hlt : index < t.entries.length := by
            rcases of_pick? hpick with hpinned | ⟨-, c, -, hentry, -⟩
            · exact Table.lt_of_pinned? hpinned
            · exact (List.getElem?_eq_some_iff.mp hentry).choose
          obtain ⟨term, hterm⟩ :=
            (h t (mem_of_table? ht)).exists_term? (List.getElem_mem hlt) hcolumn
          simp only [List.getElem?_eq_getElem hlt, Option.bind_eq_bind, Option.bind_some, hterm]
          exact ⟨_, rfl⟩
  obtain ⟨a, ha⟩ := hanswer
  rw [answer, ha, Option.getD_some]

end Shapely

/-- **Places.** Offer any tables to an empty vocabulary, of which some may be refused. Whatever is
asked of it then, with any random words and in any memory, the answer is not cut short: no place that
is looked at lies outside its list. That is, a pin and a candidate are entries of the table, an entry
has a term in each column of its table and a last one to fall back on as an anchor, a choice falls on
a member, the rime of a word begins within it, and a term is cut between two characters. -/
theorem answer_in_range (tables : List Table) (q : Lookup) (s : Keystream) (m : Memory) :
    let v := empty.offerAll tables
    v.answer? q s m = some (v.answer q s m) ∧
    (∀ name t, v.table? name = some t →
      (∀ index, t.pinned? q m = some index → index < t.entries.length) ∧
      ∀ subtype column, t.subtypeIndex? subtype = some column →
        (∀ e ∈ t.entries, column < e.terms.length) ∧
        ∃ candidates, t.candidates? column = some candidates ∧
          ∀ c ∈ candidates, t.entries[c.index]? = some c.entry) ∧
    (∀ ref anchor column, v.entry? ref = some anchor →
      min column (anchor.terms.length - 1) < anchor.terms.length) ∧
    (∀ candidates : List Candidate, candidates ≠ [] → ∃ c, (s.choose candidates).1 = some c) ∧
    (∀ word, Sound.rime? word = some (Sound.rime word).toList) ∧
    ∀ term : Term, term.halves? = some term.halves ∧ term.left ++ term.right = term.value := by
  intro v
  have hv : v.Shapely := shapely_offerAll tables
  refine ⟨hv.answer?_eq s, ?_, ?_, fun _ => s.exists_choose, Sound.rime?_eq, ?_⟩
  · intro name t ht
    refine ⟨fun _ => Table.lt_of_pinned?, fun subtype column hcolumn => ⟨?_, ?_⟩⟩
    · intro e he
      rw [(hv t (mem_of_table? ht)).length_terms e he]
      exact Table.lt_of_subtypeIndex? hcolumn
    · -- the candidates of a column are the same for every lookup that asks for it
      obtain ⟨candidates, hcandidates⟩ :=
        hv.exists_candidates? (q := { q with subtype }) (mem_of_table? ht) hcolumn
      exact ⟨candidates, hcandidates, fun c hc => (Table.of_mem_candidates? hcandidates hc).1⟩
  · intro ref anchor column hanchor
    obtain ⟨term, hterm⟩ := hv.exists_last hanchor column
    exact Entry.isSome_term?.mp (Option.isSome_of_eq_some hterm)
  · intro term
    have hhalves := term.halves?_eq
    refine ⟨by rw [Term.halves, hhalves, Option.getD_some], ?_⟩
    rw [Term.left, Term.right, Term.halves, hhalves, Option.getD_some]
    cases term.seam with
    | none => exact String.append_empty
    | some seam =>
      simp only [Option.elim_some]
      rw [← String.ofList_append, List.take_append_drop, String.ofList_toList]

/-- An entry without a term for the subtype of its table would cut a lookup short. -/
example : (⟨[⟨"noun", Table.standardSubtypes, [⟨[], []⟩]⟩]⟩ : Vocabulary).answer?
    { Lookup.blank with name := some "noun" } (.ofSeed 0) .empty = none := by decide

end Vocabulary

end Wordweave
