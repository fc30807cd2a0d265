import Wordweave.Vocabulary.Pick

/-!
# Wordweave — what an answer tells

An answer with a term is owed to a *pick*: an entry of the table that the lookup names, which was
either pinned by a matching name or drawn from the candidates. `Vocabulary.picked?` is the pick of a
lookup, and an answer is its pick and nothing else: it has the term of the picked entry, and the
memory after it is the memory before with the pick recorded (`term_answer`, `memory_answer`).

What makes a pick right is told by `Pick.Fits`, with the table, the place of the subtype and the
entry that are meant. Whatever is proved of answers is proved from it.

Main result:

* `Vocabulary.fits_of_picked?` — a pick is right in the memory in which it is made.
-/

namespace Wordweave

/-! ## Lists of partial results -/

section Partial

variable {α β : Type}

/-- What a partial function makes of a list comes from members of the list. -/
theorem exists_of_mem_mapM {f : α → Option β} {l : List α} {made : List β}
    (h : l.mapM f = some made) {b : β} (hb : b ∈ made) : ∃ a ∈ l, f a = some b := by
  induction l generalizing made with
  | nil =>
    obtain rfl : [] = made := by simpa using h
    exact nomatch hb
  | cons a l ih =>
    rw [List.mapM_cons] at h
    obtain ⟨first, hfirst, h⟩ := Option.bind_eq_some_iff.mp h
    obtain ⟨others, hothers, h⟩ := Option.bind_eq_some_iff.mp h
    obtain rfl : first :: others = made := by simpa using h
    rcases List.mem_cons.mp hb with rfl | hb
    · exact ⟨a, List.mem_cons_self .., hfirst⟩
    · obtain ⟨c, hc, hmade⟩ := ih hothers hb
      exact ⟨c, List.mem_cons_of_mem _ hc, hmade⟩

/-- A partial test keeps members that were there before, or that pass. -/
theorem of_mem_filterAuxM {p : α → Option Bool} {l before kept : List α}
    (h : l.filterAuxM p before = some kept) {a : α} (ha : a ∈ kept) :
    a ∈ before ∨ a ∈ l ∧ p a = some true := by
  induction l generalizing before with
  | nil =>
    obtain rfl : before = kept := by simpa [List.filterAuxM] using h
    exact .inl ha
  | cons b l ih =>
    rw [List.filterAuxM] at h
    obtain ⟨passed, hpassed, h⟩ := Option.bind_eq_some_iff.mp h
    rcases ih h with hbefore | ⟨hl, hp⟩
    · cases passed with
      | false => exact .inl hbefore
      | true =>
        rcases List.mem_cons.mp hbefore with rfl | hbefore
        · exact .inr ⟨List.mem_cons_self .., hpassed⟩
        · exact .inl hbefore
    · exact .inr ⟨List.mem_cons_of_mem _ hl, hp⟩

/-- What a partial test keeps of a list are members that pass. -/
theorem of_mem_filterM {p : α → Option Bool} {l kept : List α} (h : l.filterM p = some kept)
    {a : α} (ha : a ∈ kept) : a ∈ l ∧ p a = some true := by
  unfold List.filterM at h
  obtain ⟨reversed, hreversed, h⟩ := Option.bind_eq_some_iff.mp h
  obtain rfl : reversed.reverse = kept := by simpa using h
  rcases of_mem_filterAuxM hreversed (List.mem_reverse.mp ha) with hnone | hkept
  · exact nomatch hnone
  · exact hkept

/-- A partial test that a list passes is passed by its members. -/
theorem of_allM {p : α → Option Bool} {l : List α} (h : l.allM p = some true) {a : α}
    (ha : a ∈ l) : p a = some true := by
  induction l with
  | nil => exact nomatch ha
  | cons b l ih =>
    rw [List.allM_cons] at h
    obtain ⟨passed, hpassed, h⟩ := Option.bind_eq_some_iff.mp h
    cases passed with
    | false => exact nomatch h
    | true =>
      rcases List.mem_cons.mp ha with rfl | ha
      · exact hpassed
      · exact ih h ha

end Partial

theorem Keystream.mem_of_choose {α : Type} {s : Keystream} {l : List α} {a : α}
    (h : (s.choose l).1 = some a) : a ∈ l := by
  unfold choose at h
  split at h
  · exact nomatch h
  · exact List.mem_of_getElem? h

/-! ## Picks -/

/-- The names of kind `matching` in a lookup. -/
def Lookup.matchingNames (q : Lookup) : List String := q.carrier.elim [] (·.names .matching)

/-- The names of kind `matching` in a lookup are those of its ties of this kind. -/
theorem Lookup.mem_matchingNames {q : Lookup} {name : String} :
    name ∈ q.matchingNames ↔ ⟨.matching, name⟩ ∈ q.ties := by
  unfold matchingNames ties Carrier.ties TieKind.all
  cases q.carrier <;> simp

/-- An entry that answers a lookup, with its term and whether a matching name pinned it. -/
structure Pick where
  lookup : Lookup
  entry : EntryRef
  term : Term
  pinned : Bool
deriving DecidableEq

/-- The pick that answers a lookup. -/
def Vocabulary.picked? (v : Vocabulary) (q : Lookup) (s : Keystream) (m : Memory) : Option Pick := do
  let t ← q.name.bind v.table?
  let subtype ← t.subtypeIndex? q.subtype
  let (place, _) ← v.pick? q t subtype s m
  let index ← place
  let entry ← t.entries[index]?
  let term ← entry.term? subtype
  return ⟨q, ⟨t.name, index⟩, term, (t.pinned? q m).isSome⟩

/-- A pick is right in a memory: it is an entry of a table, with its term in a subtype, and it is the
entry that the lookup is pinned to, or, if there is none, a candidate that the lookup admits. -/
structure Pick.Fits (p : Pick) (v : Vocabulary) (m : Memory) (t : Table) (subtype : Nat)
    (e : Entry) : Prop where
  named : p.lookup.name.bind v.table? = some t
  column : t.subtypeIndex? p.lookup.subtype = some subtype
  table_eq : p.entry.table = t.name
  entry_eq : t.entries[p.entry.index]? = some e
  term_eq : e.term? subtype = some p.term
  pinned_eq : p.pinned = true → t.pinned? p.lookup m = some p.entry.index
  drawn : p.pinned = false → t.pinned? p.lookup m = none ∧
    v.admissible? m p.lookup t.name subtype ⟨p.entry.index, e, p.term⟩ = some true

/-- A candidate is an entry at its place, with its term. -/
theorem Table.of_mem_candidates? {t : Table} {subtype : Nat} {candidates : List Candidate}
    (h : t.candidates? subtype = some candidates) {c : Candidate} (hc : c ∈ candidates) :
    t.entries[c.index]? = some c.entry ∧ c.entry.term? subtype = some c.term := by
  obtain ⟨⟨entry, index⟩, hmem, hmade⟩ := exists_of_mem_mapM h hc
  obtain ⟨term, hterm, rfl⟩ := Option.map_eq_some_iff.mp hmade
  exact ⟨List.mem_zipIdx_iff_getElem?.mp hmem, hterm⟩

theorem Vocabulary.name_of_table? {v : Vocabulary} {name : String} {t : Table}
    (h : v.table? name = some t) : t.name = name := by
  simpa using List.find?_some h

namespace Vocabulary

variable {v : Vocabulary} {q : Lookup} {s : Keystream} {m : Memory}

/-- A place that is picked is the one that is pinned, or that of a candidate that is admitted. -/
theorem of_pick? {t : Table} {subtype index : Nat} {s' : Keystream}
    (h : v.pick? q t subtype s m = some (some index, s')) :
    t.pinned? q m = some index ∨ t.pinned? q m = none ∧ ∃ c : Candidate, c.index = index ∧
      t.entries[index]? = some c.entry ∧ c.entry.term? subtype = some c.term ∧
      v.admissible? m q t.name subtype c = some true := by
  unfold pick? at h
  -- a pin is the end of it; without one the place is that of a candidate that was chosen
  cases hpinned : t.pinned? q m with
  | some place =>
    rw [hpinned] at h
    obtain ⟨rfl, -⟩ : place = index ∧ s = s' := by simpa using h
    exact .inl rfl
  | none =>
    rw [hpinned] at h
    obtain ⟨candidates, hcandidates, h⟩ := Option.bind_eq_some_iff.mp h
    obtain ⟨admitted, hadmitted, h⟩ := Option.bind_eq_some_iff.mp h
    obtain ⟨hchosen, -⟩ : (s.choose admitted).1.map (·.index) = some index ∧ _ := by simpa using h
    obtain ⟨c, hc, rfl⟩ := Option.map_eq_some_iff.mp hchosen
    obtain ⟨hmem, hadmits⟩ := of_mem_filterM hadmitted (Keystream.mem_of_choose hc)
    obtain ⟨hentry, hterm⟩ := Table.of_mem_candidates? hcandidates hmem
    exact .inr ⟨rfl, c, rfl, hentry, hterm, hadmits⟩

/-- **Picks.** A pick is right in the memory in which it is made. -/
theorem fits_of_picked? {p : Pick} (h : v.picked? q s m = some p) :
    p.lookup = q ∧ ∃ t subtype e, p.Fits v m t subtype e := by
  obtain ⟨t, htable, h⟩ := Option.bind_eq_some_iff.mp h
  obtain ⟨subtype, hsubtype, h⟩ := Option.bind_eq_some_iff.mp h
  obtain ⟨⟨place, s'⟩, hpick, h⟩ := Option.bind_eq_some_iff.mp h
  obtain ⟨index, hindex, h⟩ := Option.bind_eq_some_iff.mp h
  obtain ⟨e, hentry, h⟩ := Option.bind_eq_some_iff.mp h
  obtain ⟨term, hterm, h⟩ := Option.bind_eq_some_iff.mp h
  obtain rfl := Option.some.inj h
  replace hpick : v.pick? q t subtype s m = some (some index, s') := by rw [hpick, ← hindex]
  refine ⟨rfl, t, subtype, e, htable, hsubtype, rfl, hentry, hterm, ?_, ?_⟩
  · intro hpinned
    rcases of_pick? hpick with hplace | ⟨hnone, -⟩
    · exact hplace
    · simp [hnone] at hpinned
  · intro hdrawn
    rcases of_pick? hpick with hplace | ⟨hnone, c, rfl, hcentry, hcterm, hadmits⟩
    · simp [hplace] at hdrawn
    · -- the candidate is the entry with its term
      obtain rfl : c.entry = e := Option.some.inj (hcentry.symm.trans hentry)
      obtain rfl : c.term = term := Option.some.inj (hcterm.symm.trans hterm)
      exact ⟨hnone, hadmits⟩

/-- An answer has the term of the pick, if there is one, and the memory in which it is recorded. -/
theorem answer_eq : ∃ s', v.answer q s m = ⟨(v.picked? q s m).map (·.term), s',
    (v.picked? q s m).elim m fun p => m.recordAll p.entry q.ties⟩ := by
  unfold answer answer? picked?
  -- the pick and the answer go astray at the same places, and then nothing is recorded
  cases htable : q.name.bind v.table? with
  | none => exact ⟨s, rfl⟩
  | some t =>
    cases hsubtype : t.subtypeIndex? q.subtype with
    | none => exact ⟨s, by simp [hsubtype]⟩
    | some subtype =>
      cases hpick : v.pick? q t subtype s m with
      | none => exact ⟨s, by simp [hsubtype, hpick]⟩
      | some result =>
        obtain ⟨place, s'⟩ := result
        cases place with
        | none => exact ⟨s', by simp [hsubtype, hpick]⟩
        | some index =>
          cases hentry : t.entries[index]? with
          | none => exact ⟨s, by simp [hsubtype, hpick, hentry]⟩
          | some e =>
            cases hterm : e.term? subtype with
            | none => exact ⟨s, by simp [hsubtype, hpick, hentry, hterm]⟩
            | some term => exact ⟨s', by simp [hsubtype, hpick, hentry, hterm]⟩

theorem term_answer : (v.answer q s m).term = (v.picked? q s m).map (·.term) := by
  obtain ⟨s', h⟩ := @answer_eq v q s m
  rw [h]

theorem memory_answer : (v.answer q s m).memory =
    (v.picked? q s m).elim m fun p => m.recordAll p.entry q.ties := by
  obtain ⟨s', h⟩ := @answer_eq v q s m
  rw [h]

end Vocabulary

namespace Pick.Fits

variable {p : Pick} {v : Vocabulary} {m : Memory} {t : Table} {subtype : Nat} {e : Entry}

theorem table?_eq (h : p.Fits v m t subtype e) : v.table? p.entry.table = some t := by
  obtain ⟨name, -, htable⟩ := Option.bind_eq_some_iff.mp h.named
  rw [h.table_eq, Vocabulary.name_of_table? htable, htable]

theorem entry?_eq (h : p.Fits v m t subtype e) : v.entry? p.entry = some e := by
  rw [Vocabulary.entry?, h.table?_eq, Option.bind_some, h.entry_eq]

/-- An entry that was pinned was pinned by a name. -/
theorem matchingNames_ne_nil (h : p.Fits v m t subtype e) (hpinned : p.pinned = true) :
    p.lookup.matchingNames ≠ [] := by
  intro hnone
  have hplace : p.lookup.matchingNames.findSome? _ = some p.entry.index := h.pinned_eq hpinned
  rw [hnone] at hplace
  exact nomatch hplace

/-- An entry that was drawn is admitted by all ties of its lookup. -/
theorem admits?_eq (h : p.Fits v m t subtype e) (hdrawn : p.pinned = false) {tie : Tie}
    (htie : tie ∈ p.lookup.ties) :
    v.admits? m t.name subtype ⟨p.entry.index, e, p.term⟩ tie = some true := by
  obtain ⟨-, hadmissible⟩ := h.drawn hdrawn
  unfold Vocabulary.admissible? at hadmissible
  -- a candidate that fails a filter is not admissible, so the ties were asked
  split at hadmissible
  · exact of_allM hadmissible htie
  · exact nomatch hadmissible

end Pick.Fits

end Wordweave
