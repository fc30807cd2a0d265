import Mathlib.Data.List.Perm.Subperm
import Wordweave.Proofs.Run.Erasure
import Wordweave.Proofs.Vocabulary.Selection

/-!
# Wordweave — tables that are used up

Lookups that follow one another under one name of kind `unique`, with no other ties, no filters and
no demand on classes, are handed out the entries of their table, each entry once. As long as an
entry is left a lookup is answered, by an entry that was not handed out before. As soon as none is
left a lookup has no answer, and memory and random words stay as they are. Which entries go first
is up to the random words; that they all go is not.

What is used under the name is the only thing that counts, and a lookup that is answered uses one
more entry (`Shapely.answer_fresh`). From this the lookups are gone through one by one
(`Shapely.exists_handsOut`). To forget the name is to begin again.

Main result:

* `Vocabulary.unique_exhausts` — the entries of a table are handed out, from any memory in which
  nothing has been used under the name.
-/

namespace Wordweave

/-- A lookup under a single name of kind `unique`. -/
def Lookup.fresh (table name : String) (subtype : Option String) : Lookup :=
  { tied table [⟨.unique, name⟩] with subtype }

/-- A query that erases forgets its ties. Its complement is not run. -/
theorem Node.memory_run_erase {v : Vocabulary} {e : Lookup} (he : e.isErase) (location : Location)
    (complement : Option Node) (catalog : Catalog) (s : RunState) :
    ((Node.query location e complement).run (.ofVocabulary (some v) catalog) s).memory =
      s.memory.removeAll e.ties := by
  have hscene : (Scene.ofVocabulary (some v) catalog).hasVocabulary := rfl
  rw [Node.run_erase hscene he, RunState.forget]

namespace Vocabulary

/-- Lookups that follow one another are answered by the entries of a table at some places, in this
order, each by the term in the column that it asks for. Those that are left have no answer, and
leave memory and random words as they are. -/
inductive HandsOut (v : Vocabulary) (t : Table) :
    List Lookup → Keystream → Memory → (places : List Nat) → Prop
  | done (s : Keystream) (m : Memory) : HandsOut v t [] s m []
  | found {q : Lookup} {qs : List Lookup} {s s' : Keystream} {m : Memory} {place column : Nat}
      {places : List Nat} {e : Entry} {term : Term} (hentry : t.entries[place]? = some e)
      (hcolumn : t.subtypeIndex? q.subtype = some column) (hterm : e.term? column = some term)
      (hanswer : v.answer q s m = ⟨some term, s', m.recordAll ⟨t.name, place⟩ q.ties⟩)
      (hrest : HandsOut v t qs s' (m.recordAll ⟨t.name, place⟩ q.ties) places) :
      HandsOut v t (q :: qs) s m (place :: places)
  | spent {q : Lookup} {qs : List Lookup} {s : Keystream} {m : Memory}
      (hanswer : v.answer q s m = ⟨none, s, m⟩) (hrest : HandsOut v t qs s m []) :
      HandsOut v t (q :: qs) s m []

/-- Lookups are handed out the entries of a table, each entry once, until none is left. -/
structure Exhausts (v : Vocabulary) (t : Table) (qs : List Lookup) (s : Keystream) (m : Memory)
    (places : List Nat) : Prop where
  handsOut : v.HandsOut t qs s m places
  nodup : places.Nodup
  lt : ∀ place ∈ places, place < t.entries.length
  length_eq : places.length = min qs.length t.entries.length
  perm : t.entries.length ≤ qs.length → places.Perm (List.range t.entries.length)

/-! ## What is left of a table -/

section Left

variable {n : Nat} {used : List Nat}

/-- There are no more different places in a table than entries. -/
theorem length_le_of_nodup (hused : used.Nodup) (hlt : ∀ place ∈ used, place < n) :
    used.length ≤ n := by
  have hsub : used ⊆ List.range n := fun place hplace => List.mem_range.mpr (hlt place hplace)
  have hle := (List.subperm_of_subset hused hsub).length_le
  rwa [List.length_range] at hle

/-- If no place of a table is left, as many are used as there are entries. -/
theorem le_length_of_spent (hspent : ∀ place < n, place ∈ used) : n ≤ used.length := by
  have hsub : List.range n ⊆ used := fun place hplace => hspent place (List.mem_range.mp hplace)
  have hle := (List.subperm_of_subset List.nodup_range hsub).length_le
  rwa [List.length_range] at hle

/-- As many different places as there are entries are all the places there are. -/
theorem perm_range_of_nodup (hused : used.Nodup) (hlt : ∀ place ∈ used, place < n)
    (hlength : n ≤ used.length) : used.Perm (List.range n) := by
  have hsub : used ⊆ List.range n := fun place hplace => List.mem_range.mpr (hlt place hplace)
  refine (List.subperm_of_subset hused hsub).perm_of_length_le ?_
  rwa [List.length_range]

end Left

/-! ## One lookup -/

section Step

variable {v : Vocabulary} {m : Memory} {t : Table} {column : Nat} {c : Candidate} {name : String}

/-- A memory knows of a name of kind `unique` that the entries at some places of a table have been
picked under it, and nothing more. -/
def Uses (m : Memory) (t : Table) (name : String) (used : List Nat) : Prop :=
  m.get? ⟨.unique, name⟩ = TieKind.unique.remembered? (used.map (EntryRef.mk t.name))

/-- A name of kind `unique` allows the entries that are not used under it. -/
theorem Uses.allows_iff {used : List Nat} (h : Uses m t name used) :
    v.Allows m t column c ⟨.unique, name⟩ ↔ c.index ∉ used := by
  have hmem : ⟨t.name, c.index⟩ ∈ used.map (EntryRef.mk t.name) ↔ c.index ∈ used := by simp
  rw [Allows, if_pos rfl, h, ← hmem]
  -- nothing is remembered before the first entry
  cases used.map (EntryRef.mk t.name) with
  | nil => simp [TieKind.remembered?]
  | cons first others => simp [TieKind.remembered?]

/-- An entry that is picked is used from then on. -/
theorem Uses.concat {used : List Nat} (h : Uses m t name used) (place : Nat) :
    Uses (m.recordAll ⟨t.name, place⟩ [⟨.unique, name⟩]) t name (used ++ [place]) := by
  have hpicked := Memory.get?_recordAll m ⟨t.name, place⟩ [⟨.unique, name⟩] ⟨.unique, name⟩
  rw [if_pos (List.mem_singleton_self _)] at hpicked
  rw [Uses, hpicked, h, List.map_append, List.map_singleton, TieKind.remembered?_concat]

/-- A lookup under a name of kind `unique` is answered by an entry that is not used under it, or, if
there is none, not at all. -/
theorem Shapely.answer_fresh (hv : v.Shapely) (hfound : v.table? t.name = some t)
    {subtype : Option String} (hcolumn : t.subtypeIndex? subtype = some column) {used : List Nat}
    (hused : Uses m t name used) (s : Keystream) :
    let q := Lookup.fresh t.name name subtype
    (v.answer q s m = ⟨none, s, m⟩ ∧ ∀ place < t.entries.length, place ∈ used) ∨
      ∃ (c : Candidate) (s' : Keystream), t.entries[c.index]? = some c.entry ∧
        c.entry.term? column = some c.term ∧ c.index ∉ used ∧
        v.answer q s m = ⟨some c.term, s', m.recordAll ⟨t.name, c.index⟩ q.ties⟩ := by
  intro q
  have hties : q.ties = [⟨.unique, name⟩] := rfl
  -- nothing but a name of kind `matching` pins an entry
  have hpinned : t.pinned? q m = none := rfl
  obtain ⟨hanswer, hnone⟩ | ⟨c, s', hsuits, hanswer⟩ :=
    hv.answer_of_drawn hfound rfl hcolumn hpinned s
  · refine .inl ⟨hanswer, fun place hplace => ?_⟩
    -- an entry that is not used would suit the lookup
    by_contra hnew
    obtain ⟨term, hterm⟩ :=
      (hv t (mem_of_table? hfound)).exists_term? (List.getElem_mem hplace) hcolumn
    let c : Candidate := ⟨place, t.entries[place], term⟩
    have hallows : ∀ tie ∈ q.ties, v.Allows m t column c tie := by
      intro tie htie
      rw [hties] at htie
      obtain rfl := List.mem_singleton.mp htie
      exact hused.allows_iff.mpr hnew
    have hfilters : ∀ f ∈ q.filters, f.MetBy c.term.value c.entry.classes := List.forall_mem_nil _
    exact hnone c ⟨List.getElem?_eq_getElem hplace, hterm, hfilters, nofun, hallows⟩
  · have hallows : v.Allows m t column c ⟨.unique, name⟩ :=
      hsuits.ties _ (hties ▸ List.mem_singleton_self _)
    exact .inr ⟨c, s', hsuits.entry, hsuits.term, hused.allows_iff.mp hallows, hanswer⟩

end Step

/-! ## Lookups that follow one another -/

section Sequence

variable {v : Vocabulary} {t : Table} {name : String} {subtypes : List (Option String)}

/-- Lookups under a name of kind `unique` are handed out entries that are not used under it, as many
as there are of the lookups or of the entries. -/
theorem Shapely.exists_handsOut (hv : v.Shapely) (hfound : v.table? t.name = some t)
    (hcolumns : ∀ subtype ∈ subtypes, ∃ column, t.subtypeIndex? subtype = some column)
    {used : List Nat} {m : Memory} (hused : Uses m t name used) (hnodup : used.Nodup)
    (hlt : ∀ place ∈ used, place < t.entries.length) (s : Keystream) :
    ∃ places, v.HandsOut t (subtypes.map (Lookup.fresh t.name name)) s m places ∧
      (used ++ places).Nodup ∧ (∀ place ∈ places, place < t.entries.length) ∧
      places.length = min subtypes.length (t.entries.length - used.length) := by
  -- on the lookups; what is used grows by one entry for each that is answered
  induction subtypes generalizing used s m with
  | nil => exact ⟨[], .done s m, by simpa using hnodup, by simp, by simp⟩
  | cons subtype subtypes ih =>
    obtain ⟨⟨column, hcolumn⟩, hothers⟩ := List.forall_mem_cons.mp hcolumns
    obtain ⟨hanswer, hspent⟩ | ⟨c, s', hentry, hterm, hnew, hanswer⟩ :=
      hv.answer_fresh hfound hcolumn hused s
    · -- no entry is left, and so the other lookups are not answered either
      have hnone : t.entries.length - used.length = 0 :=
        Nat.sub_eq_zero_of_le (le_length_of_spent hspent)
      obtain ⟨places, hrest, -, -, hlength⟩ := ih hothers hused hnodup hlt s
      rw [hnone, Nat.min_zero] at hlength
      obtain rfl := List.eq_nil_of_length_eq_zero hlength
      refine ⟨[], .spent hanswer hrest, by simpa using hnodup, by simp, ?_⟩
      rw [hnone, Nat.min_zero, List.length_nil]
    · -- the other lookups find one more entry used
      obtain ⟨hplace, -⟩ := List.getElem?_eq_some_iff.mp hentry
      have hnodup' : (used ++ [c.index]).Nodup := by
        rw [← List.concat_eq_append]
        exact hnodup.concat hnew
      have hlt' : ∀ place ∈ used ++ [c.index], place < t.entries.length := by
        simpa [or_imp, forall_and] using ⟨hlt, hplace⟩
      have hroom := length_le_of_nodup hnodup' hlt'
      obtain ⟨places, hrest, hdistinct, hplaces, hlength⟩ :=
        ih hothers (hused.concat c.index) hnodup' hlt' s'
      refine ⟨c.index :: places, .found hentry hcolumn hterm hanswer hrest, ?_, ?_, ?_⟩
      · rwa [List.append_assoc] at hdistinct
      · exact List.forall_mem_cons.mpr ⟨hplace, hplaces⟩
      · simp only [List.length_append, List.length_singleton] at hroom hlength
        simp only [List.length_cons]
        omega

/-- Where nothing is remembered under the name, no entry is used, and so all are there to be handed
out. -/
theorem Shapely.exists_exhausts (hv : v.Shapely) (hfound : v.table? t.name = some t)
    (hcolumns : ∀ subtype ∈ subtypes, ∃ column, t.subtypeIndex? subtype = some column)
    {m : Memory} (hm : m.get? ⟨.unique, name⟩ = none) (s : Keystream) :
    ∃ places, v.Exhausts t (subtypes.map (Lookup.fresh t.name name)) s m places := by
  have hused : Uses m t name [] := hm
  obtain ⟨places, hhands, hnodup, hlt, hlength⟩ :=
    hv.exists_handsOut hfound hcolumns hused List.nodup_nil (by simp) s
  rw [List.nil_append] at hnodup
  refine ⟨places, hhands, hnodup, hlt, by simpa using hlength, fun hmany => ?_⟩
  refine perm_range_of_nodup hnodup hlt ?_
  rw [List.length_map] at hmany
  rw [hlength, List.length_nil]
  omega

end Sequence

/-- **Tables that are used up.** Let a vocabulary be built by offering tables, and let lookups follow
one another in one of its tables under one name of kind `unique`, each in a subtype that the table
declares or in none. If nothing is remembered under the name, they are handed out the entries of the
table, whatever the random words are: each entry once, and all of them if there are as many lookups.
A query that erases the name, in any state, makes it so. -/
theorem unique_exhausts (tables : List Table) (name : String) :
    let v := empty.offerAll tables
    ∀ t ∈ v.tables, ∀ subtypes : List (Option String),
      (∀ subtype ∈ subtypes, ∀ column, subtype = some column → column ∈ t.subtypes) →
        let qs := subtypes.map (Lookup.fresh t.name name)
        (∀ m : Memory, m.get? ⟨.unique, name⟩ = none →
          ∀ s, ∃ places, v.Exhausts t qs s m places) ∧
        ∀ e : Lookup, e.isErase → ⟨.unique, name⟩ ∈ e.ties →
          ∀ (location : Location) (complement : Option Node) (catalog : Catalog) (state : RunState),
            let erased :=
              (Node.query location e complement).run (.ofVocabulary (some v) catalog) state
            ∃ places, v.Exhausts t qs erased.stream erased.memory places := by
  intro v t ht subtypes hdeclared qs
  have hshapely : v.Shapely := shapely_offerAll tables
  have hfound : v.table? t.name = some t := (distinct_offerAll tables).table?_eq ht
  have hcolumns : ∀ subtype ∈ subtypes, ∃ column, t.subtypeIndex? subtype = some column := by
    intro subtype hsubtype
    obtain ⟨column, hcolumn⟩ := Table.exists_isColumn (hdeclared subtype hsubtype)
    exact ⟨column, (hshapely t ht).subtypeIndex?_eq hcolumn⟩
  refine ⟨fun m hm s => hshapely.exists_exhausts hfound hcolumns hm s, ?_⟩
  intro e herase htie location complement catalog state erased
  refine hshapely.exists_exhausts hfound hcolumns ?_ erased.stream
  rw [show erased.memory = _ from Node.memory_run_erase herase location complement catalog state,
    Memory.get?_removeAll, if_pos htie]

/-- Of five lookups among three nouns three are answered and two are not, also after all nouns have
been used and the name has been erased. -/
theorem unique_exhausts_nouns :
    let once : Tie := ⟨.unique, "once"⟩
    let nouns : Table := ⟨"noun", Table.standardSubtypes, [⟨["cat"], ["furry", "small"]⟩,
      ⟨["eel"], ["small"]⟩, ⟨["whale"], ["large"]⟩]⟩
    let qs := [none, some "default", none, none, none].map (Lookup.fresh "noun" "once")
    let erase : Lookup := { Lookup.tied "noun" [once] with name := none }
    let used : RunState := (Node.sequence .origin (qs.map (.query .origin · none))).run
      (.ofVocabulary (some menagerie) .english) (.start 0)
    let erased := (Node.query .origin erase none).run (.ofVocabulary (some menagerie) .english) used
    (∃ places, menagerie.Exhausts nouns qs (.ofSeed 0) .empty places) ∧
      (used.memory.get? once).isSome ∧ erased.memory.get? once = none ∧
      ∃ places, menagerie.Exhausts nouns qs erased.stream erased.memory places := by
  intro once nouns qs erase used erased
  have hmenagerie : empty.offerAll menagerie.tables = menagerie := by decide
  have hnouns : nouns ∈ (empty.offerAll menagerie.tables).tables := by decide
  have hdeclared : ∀ subtype ∈ [none, some "default", none, none, none],
      ∀ column, subtype = some column → column ∈ nouns.subtypes := by decide
  obtain ⟨hbegin, hagain⟩ := unique_exhausts menagerie.tables "once" nouns hnouns
    [none, some "default", none, none, none] hdeclared
  have hafter := hagain erase rfl (by decide) .origin none .english used
  rw [hmenagerie] at hbegin hafter
  have hused : (used.memory.get? once).isSome := by decide +kernel
  have hforgotten : erased.memory.get? once = none := by
    rw [show erased.memory = _ from Node.memory_run_erase rfl .origin none .english used,
      Memory.get?_removeAll, if_pos (by decide)]
  exact ⟨hbegin .empty rfl (.ofSeed 0), hused, hforgotten, hafter⟩

end Vocabulary

end Wordweave
