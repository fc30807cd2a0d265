import Wordweave.Proofs.Run.Classes
import Wordweave.Proofs.Run.Rhyme
import Wordweave.Proofs.Vocabulary.Order

/-!
# Wordweave — what is answered

What a lookup is answered can be said without telling how the answer is found. If a name of kind
`matching` is anchored to an entry of the table, the first such name decides (`Table.FirstPin`).
Otherwise the answer is an entry that *suits* the lookup (`Vocabulary.Suits`), and there is none
just if no entry does. The memory changes by the pick alone, and if there is none it stays as it was
(`Memory.Records`).

The tests that run are these conditions, one by one: those of the filters (`Filter.accepts_iff`), of
exclusiveness (`Lookup.allowsClasses_iff`), of the ties (`Vocabulary.admits?_iff`) and of the pins
(`Table.pinned?_eq_some_iff`). That no place lies outside its list is known already, since tables
that are added are shapely.

Main result:

* `Vocabulary.answer_spec` — the answer to any lookup, in any memory.
-/

namespace Wordweave

/-! ## Filters -/

/-- What a filter demands of a term and of the classes of its entry. -/
def Filter.MetBy (term : String) (classes : List String) : Filter → Prop
  | .byClass rules => ∀ rule ∈ rules, ∃ test ∈ rule,
      (test.className ∈ classes ↔ test.excluded = false)
  | .byPattern f => f.pattern.isMatch term = true ↔ f.outside = false
  | .bySyllables bounds =>
    (∀ least ∈ bounds.least, least.toNat ≤ Sound.countSyllables term) ∧
      ∀ most ∈ bounds.most, Sound.countSyllables term ≤ most.toNat

theorem Filter.accepts_iff {f : Filter} {term : String} {classes : List String} :
    f.accepts term classes = true ↔ f.MetBy term classes := by
  cases f with
  | byClass rules =>
    have htest (test : ClassTest) : test.accepts classes = true ↔
        (test.className ∈ classes ↔ test.excluded = false) := by
      unfold ClassTest.accepts
      cases test.excluded <;> simp
    simp only [accepts, MetBy, List.all_eq_true, List.any_eq_true, htest]
  | byPattern f =>
    simp only [accepts, PatternFilter.accepts, MetBy]
    cases f.outside <;> simp
  | bySyllables bounds =>
    simp only [accepts, SyllableBounds.accepts, MetBy, Bool.and_eq_true]
    cases bounds.least <;> cases bounds.most <;> simp

namespace Lookup

variable {q : Lookup} {c : Candidate}

theorem passes_iff :
    q.passes c = true ↔ ∀ f ∈ q.filters, f.MetBy c.term.value c.entry.classes := by
  simp only [passes, List.all_eq_true, Filter.accepts_iff]

/-- A class is asked for by the alternatives of class filters that do not exclude it. -/
theorem mem_wantedClasses {name : String} : name ∈ q.wantedClasses ↔
    ∃ rules, .byClass rules ∈ q.filters ∧ ∃ rule ∈ rules, ⟨name, false⟩ ∈ rule := by
  rw [wantedClasses, List.mem_flatMap]
  constructor
  · rintro ⟨f, hf, hname⟩
    cases f with
    | byClass rules => exact ⟨rules, hf, Filter.Alike.mem_wantedClasses.mp hname⟩
    | byPattern f => exact absurd hname List.not_mem_nil
    | bySyllables bounds => exact absurd hname List.not_mem_nil
  · rintro ⟨rules, hf, hrule⟩
    exact ⟨.byClass rules, hf, Filter.Alike.mem_wantedClasses.mpr hrule⟩

theorem allowsClasses_iff : q.allowsClasses c = true ↔
    (q.exclusive = true → ∀ name ∈ c.entry.classes, name ∈ q.wantedClasses) := by
  unfold allowsClasses
  cases q.exclusive <;> simp

end Lookup

/-! ## Ties -/

/-- How a candidate in a column stands to an anchor: it rhymes with what is heard of the anchor
there, or its classes relate to those of the anchor as the kind demands. -/
def TieKind.Accords (kind : TieKind) (column : Nat) (c : Candidate) (anchor : Entry) : Prop :=
  match kind with
  | .rhyme => ∃ heard, anchor.heard? column = some heard ∧
      Sound.rime c.term.value = Sound.rime heard.value
  | kind => kind.Relates c.entry anchor

theorem TieKind.relates?_iff {kind : TieKind} {column : Nat} {c : Candidate} {anchor : Entry} :
    kind.relates? column c anchor = some true ↔ kind.Accords column c anchor := by
  cases kind with
  | associative => exact ⟨relates_of_relates?, fun h => congrArg some (sameClasses_iff.mpr h)⟩
  | relational => exact ⟨relates_of_relates?, fun h => congrArg some (shareClass_iff.mpr h)⟩
  | dissociative =>
    refine ⟨relates_of_relates?, fun h => ?_⟩
    -- the test asks for a class that both have, and there is none
    have hshare : shareClass c.entry.classes anchor.classes ≠ true := by
      intro hshare
      obtain ⟨name, hours, htheirs⟩ := shareClass_iff.mp hshare
      exact h name hours htheirs
    simpa [relates?] using hshare
  | divergent =>
    refine ⟨relates_of_relates?, fun h => ?_⟩
    have hsame : sameClasses c.entry.classes anchor.classes ≠ true := fun hsame =>
      h (sameClasses_iff.mp hsame)
    simpa [relates?] using hsame
  | matching => exact ⟨fun _ => trivial, fun _ => rfl⟩
  | unique => exact ⟨fun _ => trivial, fun _ => rfl⟩
  | rhyme =>
    refine ⟨rime_of_relates?, ?_⟩
    rintro ⟨heard, hheard, hrime⟩
    rw [Entry.heard?] at hheard
    simp [relates?, hheard, Sound.rime?_eq, hrime]

namespace Vocabulary

variable {v : Vocabulary} {m : Memory} {t : Table} {column : Nat} {c : Candidate} {tie : Tie}

/-- A tie is anchored to an entry of the vocabulary. -/
def Anchored (v : Vocabulary) (m : Memory) (tie : Tie) (anchor : Entry) : Prop :=
  ∃ ref, m.get? tie = some (.anchor ref) ∧ v.entry? ref = some anchor

/-- What a tie demands of a candidate: that it has not been used under the tie, if this is of kind
`unique`, and otherwise that it stands to the anchor, if there is one, as the kind says. -/
def Allows (v : Vocabulary) (m : Memory) (t : Table) (column : Nat) (c : Candidate) (tie : Tie) :
    Prop :=
  if tie.kind = .unique then ∀ used, m.get? tie = some (.used used) → ⟨t.name, c.index⟩ ∉ used
  else ∀ anchor, v.Anchored m tie anchor → tie.kind.Accords column c anchor

/-- An entry of a table suits a lookup that asks for a column. -/
structure Suits (v : Vocabulary) (m : Memory) (q : Lookup) (t : Table) (column : Nat)
    (c : Candidate) : Prop where
  entry : t.entries[c.index]? = some c.entry
  term : c.entry.term? column = some c.term
  filters : ∀ f ∈ q.filters, f.MetBy c.term.value c.entry.classes
  exclusive : q.exclusive = true → ∀ name ∈ c.entry.classes,
    ∃ rules, .byClass rules ∈ q.filters ∧ ∃ rule ∈ rules, ⟨name, false⟩ ∈ rule
  ties : ∀ tie ∈ q.ties, v.Allows m t column c tie

theorem anchored_iff {anchor : Entry} :
    v.Anchored m tie anchor ↔ (m.anchor? tie).bind v.entry? = some anchor := by
  rw [Option.bind_eq_some_iff]
  unfold Anchored Memory.anchor?
  rcases m.get? tie with _ | ⟨ref | used⟩ <;> simp

theorem admits?_iff : v.admits? m t.name column c tie = some true ↔ v.Allows m t column c tie := by
  unfold admits? Allows
  by_cases hunique : tie.kind = .unique
  · -- an anchor under such a tie counts as nothing used
    rw [if_pos hunique, if_pos hunique, Memory.used?]
    rcases m.get? tie with _ | ⟨ref | used⟩ <;> simp
  · -- a tie without an entry for its anchor demands nothing
    rw [if_neg hunique, if_neg hunique]
    simp only [anchored_iff, ← TieKind.relates?_iff]
    cases (m.anchor? tie).bind v.entry? <;> simp

theorem admits_iff : v.admits m t.name column c tie = true ↔ v.Allows m t column c tie := by
  rw [← admits?_iff, admits]
  cases v.admits? m t.name column c tie <;> simp

end Vocabulary

/-! ## Candidates -/

/-- A member of which something is made is the reason that this is there. -/
theorem mem_of_mapM {α β : Type} {f : α → Option β} {l : List α} {made : List β}
    (h : l.mapM f = some made) {a : α} {b : β} (ha : a ∈ l) (hab : f a = some b) : b ∈ made := by
  induction l generalizing made with
  | nil => exact nomatch ha
  | cons first l ih =>
    rw [List.mapM_cons] at h
    obtain ⟨b', hfirst, h⟩ := Option.bind_eq_some_iff.mp h
    obtain ⟨others, hothers, h⟩ := Option.bind_eq_some_iff.mp h
    obtain rfl : b' :: others = made := by simpa using h
    rcases List.mem_cons.mp ha with rfl | ha
    · obtain rfl : b' = b := Option.some.inj (hfirst.symm.trans hab)
      exact List.mem_cons_self ..
    · exact List.mem_cons_of_mem _ (ih hothers ha)

/-- The candidates of a table are its entries at their places, with their terms. -/
theorem Table.mem_candidates?_iff {t : Table} {column : Nat} {candidates : List Candidate}
    (h : t.candidates? column = some candidates) {c : Candidate} :
    c ∈ candidates ↔ t.entries[c.index]? = some c.entry ∧ c.entry.term? column = some c.term := by
  refine ⟨of_mem_candidates? h, ?_⟩
  rintro ⟨hentry, hterm⟩
  have hmem : (c.entry, c.index) ∈ t.entries.zipIdx := List.mem_zipIdx_iff_getElem?.mpr hentry
  exact mem_of_mapM h hmem (Option.map_eq_some_iff.mpr ⟨c.term, hterm, rfl⟩)

/-- Of the candidates of a table just those are admissible that suit the lookup. -/
theorem Vocabulary.mem_admissible_iff {v : Vocabulary} {m : Memory} {q : Lookup} {t : Table}
    {column : Nat} {candidates : List Candidate} (h : t.candidates? column = some candidates)
    {c : Candidate} :
    c ∈ candidates.filter (v.admissible m q t.name column) ↔ v.Suits m q t column c := by
  rw [List.mem_filter, Table.mem_candidates?_iff h, admissible, Bool.and_eq_true, Bool.and_eq_true,
    Lookup.passes_iff, Lookup.allowsClasses_iff, List.all_eq_true]
  simp only [admits_iff, Lookup.mem_wantedClasses]
  constructor
  · rintro ⟨⟨hentry, hterm⟩, ⟨hfilters, hexclusive⟩, hties⟩
    exact ⟨hentry, hterm, hfilters, hexclusive, hties⟩
  · rintro ⟨hentry, hterm, hfilters, hexclusive, hties⟩
    exact ⟨⟨hentry, hterm⟩, ⟨hfilters, hexclusive⟩, hties⟩

/-! ## Tables, columns and pins -/

/-- A vocabulary holds one table of a name. -/
def Vocabulary.Distinct (v : Vocabulary) : Prop := (v.tables.map (·.name)).Nodup

namespace Vocabulary

theorem Distinct.offer {v : Vocabulary} (h : v.Distinct) (t : Table) : (v.offer t).Distinct := by
  unfold Vocabulary.offer add
  cases t.ownFault? with
  | some fault => exact h
  | none =>
    cases htaken : v.table? t.name with
    | some other => simpa using h
    | none =>
      -- no table has the name so far
      have hnew : ∀ other ∈ v.tables, other.name ≠ t.name := by
        simpa [table?] using htaken
      simpa [Distinct, List.nodup_append] using ⟨h, hnew⟩

/-- A vocabulary that is built by offering tables holds one of each name. -/
theorem distinct_offerAll (tables : List Table) : (empty.offerAll tables).Distinct := by
  -- from any vocabulary that does
  have hkeep : ∀ {v : Vocabulary}, v.Distinct → (v.offerAll tables).Distinct := by
    induction tables with
    | nil => exact id
    | cons t tables ih => exact fun h => ih (h.offer t)
  exact hkeep List.nodup_nil

/-- To make a vocabulary of tables is to offer them, if none is refused. -/
theorem eq_offerAll_of_ofTables {tables : List Table} {v : Vocabulary}
    (h : ofTables tables = .ok v) : v = empty.offerAll tables := by
  unfold ofTables at h
  generalize empty = before at h ⊢
  induction tables generalizing before with
  | nil => exact (Except.ok.inj h).symm
  | cons t tables ih =>
    rw [addAll, List.foldlM_cons] at h
    rw [offerAll, List.foldl_cons]
    cases hadd : before.add t with
    | error fault =>
      rw [hadd] at h
      exact nomatch h
    | ok after =>
      rw [hadd] at h
      rw [offer, hadd]
      exact ih after h

theorem Distinct.table?_eq {v : Vocabulary} (h : v.Distinct) {t : Table} (ht : t ∈ v.tables) :
    v.table? t.name = some t := by
  have hsome : (v.table? t.name).isSome :=
    List.find?_isSome.mpr ⟨t, ht, beq_self_eq_true t.name⟩
  obtain ⟨found, hfound⟩ := Option.isSome_iff_exists.mp hsome
  -- both have the name, and no two tables have
  have hsame : found = t :=
    List.inj_on_of_nodup_map h (mem_of_table? hfound) ht (name_of_table? hfound)
  rw [hfound, hsame]

end Vocabulary

namespace Table

variable {t : Table} {m : Memory} {q : Lookup}

/-- The column of a subtype is the first one of that name, or the first one of all if no subtype is
asked for. -/
def IsColumn (t : Table) (column : Nat) : (subtype : Option String) → Prop
  | none => column = 0
  | some subtype => t.subtypes[column]? = some subtype ∧ subtype ∉ t.subtypes.take column

/-- A table has a column for each subtype that it declares, and for none. -/
theorem exists_isColumn {subtype : Option String}
    (h : ∀ name, subtype = some name → name ∈ t.subtypes) :
    ∃ column, t.IsColumn column subtype := by
  cases subtype with
  | none => exact ⟨0, rfl⟩
  | some name =>
    obtain ⟨before, after, hsubtypes, hfirst⟩ := List.eq_append_cons_of_mem (h name rfl)
    refine ⟨before.length, ?_, ?_⟩
    · rw [hsubtypes, List.getElem?_append_right (Nat.le_refl _), Nat.sub_self,
        List.getElem?_cons_zero]
    · rwa [hsubtypes, List.take_left]

theorem Shapely.subtypeIndex?_eq (h : t.Shapely) {subtype : Option String} {column : Nat}
    (hcolumn : t.IsColumn column subtype) : t.subtypeIndex? subtype = some column := by
  cases subtype with
  | none =>
    obtain rfl : column = 0 := hcolumn
    exact if_neg (by simpa using h.subtypes_ne_nil)
  | some subtype =>
    obtain ⟨hplace, hfirst⟩ := hcolumn
    obtain ⟨hlt, hplace⟩ := List.getElem?_eq_some_iff.mp hplace
    refine List.findIdx?_eq_some_iff_getElem.mpr ⟨hlt, by simpa using hplace, fun j hj => ?_⟩
    -- an earlier column of the name would be among those taken
    intro hname
    have hname : t.subtypes[j] = subtype := by simpa using hname
    exact hfirst (List.mem_take_iff_getElem.mpr ⟨j, by omega, hname⟩)

theorem subtypeIndex?_eq_none {subtype : String} (h : subtype ∉ t.subtypes) :
    t.subtypeIndex? (some subtype) = none := by
  refine List.findIdx?_eq_none_iff.mpr fun other hother => ?_
  have hne : other ≠ subtype := fun hsame => h (hsame ▸ hother)
  simpa using hne

/-- A name of kind `matching` is anchored to an entry of the table. -/
def PinnedBy (t : Table) (m : Memory) (name : String) (index : Nat) : Prop :=
  m.get? ⟨.matching, name⟩ = some (.anchor ⟨t.name, index⟩) ∧ index < t.entries.length

/-- The entry to which the first name is anchored that is anchored to an entry of the table. -/
def FirstPin (t : Table) (m : Memory) (q : Lookup) (index : Nat) : Prop :=
  ∃ before name after, q.matchingNames = before ++ name :: after ∧
    t.PinnedBy m name index ∧ ∀ other ∈ before, ∀ index, ¬ t.PinnedBy m other index

/-- The entry to which a name of kind `matching` is anchored, if it is of the table. -/
def pin? (t : Table) (m : Memory) (name : String) : Option Nat :=
  match m.anchor? ⟨.matching, name⟩ with
  | some ref => if ref.table = t.name ∧ ref.index < t.entries.length then some ref.index else none
  | none => none

theorem pinned?_eq : t.pinned? q m = q.matchingNames.findSome? (t.pin? m) := rfl

theorem pin?_eq_some_iff {name : String} {index : Nat} :
    t.pin? m name = some index ↔ t.PinnedBy m name index := by
  unfold pin? PinnedBy Memory.anchor?
  rcases m.get? ⟨.matching, name⟩ with _ | ⟨⟨table, place⟩ | used⟩
  · simp
  · simp only [Option.ite_none_right_eq_some, Option.some.injEq, Recall.anchor.injEq,
      EntryRef.mk.injEq]
    constructor
    · rintro ⟨⟨rfl, hlt⟩, rfl⟩
      exact ⟨⟨rfl, rfl⟩, hlt⟩
    · rintro ⟨⟨rfl, rfl⟩, hlt⟩
      exact ⟨⟨rfl, hlt⟩, rfl⟩
  · simp

theorem pin?_eq_none_iff {name : String} :
    t.pin? m name = none ↔ ∀ index, ¬ t.PinnedBy m name index := by
  simp only [Option.eq_none_iff_forall_ne_some, ne_eq, pin?_eq_some_iff]

/-- A lookup is pinned by the first name that pins an entry of the table. -/
theorem pinned?_eq_some_iff {index : Nat} :
    t.pinned? q m = some index ↔ t.FirstPin m q index := by
  simp only [pinned?_eq, List.findSome?_eq_some_iff, pin?_eq_some_iff, pin?_eq_none_iff, FirstPin]

theorem pinned?_eq_none_iff :
    t.pinned? q m = none ↔ ∀ name ∈ q.matchingNames, ∀ index, ¬ t.PinnedBy m name index := by
  simp only [pinned?_eq, List.findSome?_eq_none_iff, pin?_eq_none_iff]

end Table

/-! ## What is remembered -/

/-- A memory after a pick: an entry is used under the ties of kind `unique`, also where an anchor
was, and becomes the anchor of the others if they remember nothing. Nothing else is changed. -/
structure Memory.Records (m : Memory) (ref : EntryRef) (ties : List Tie) (after : Memory) :
    Prop where
  used : ∀ tie ∈ ties, tie.kind = .unique → ∃ entries, after.get? tie = some (.used entries) ∧
    ∀ r, r ∈ entries ↔ r = ref ∨ ∃ before, m.get? tie = some (.used before) ∧ r ∈ before
  anchored : ∀ tie ∈ ties, tie.kind ≠ .unique →
    after.get? tie = some ((m.get? tie).getD (.anchor ref))
  others : ∀ tie, tie ∉ ties → after.get? tie = m.get? tie

theorem Memory.records_recordAll (m : Memory) (ref : EntryRef) (ties : List Tie) :
    m.Records ref ties (m.recordAll ref ties) where
  used tie htie hkind := by
    rw [get?_recordAll, if_pos htie]
    rcases m.get? tie with _ | ⟨ref' | before⟩
    · exact ⟨[ref], by simp [TieKind.picked, hkind], by simp⟩
    · exact ⟨[ref], by simp [TieKind.picked, hkind], by simp⟩
    · -- an entry that is used already is not listed twice
      by_cases hmem : ref ∈ before
      · refine ⟨before, by simp [TieKind.picked, hmem], fun r => ?_⟩
        have hold : r = ref → r ∈ before := fun hsame => hsame ▸ hmem
        simpa using hold
      · refine ⟨before ++ [ref], by simp [TieKind.picked, hkind, hmem], fun r => ?_⟩
        simp [or_comm]
  anchored tie htie hkind := by
    rw [get?_recordAll, if_pos htie]
    rcases m.get? tie with _ | ⟨_ | _⟩ <;> simp [TieKind.picked, hkind]
  others tie htie := by rw [get?_recordAll, if_neg htie]

/-! ## Answers -/

namespace Vocabulary

variable {v : Vocabulary} {q : Lookup} {m : Memory} {t : Table} {column : Nat}

/-- A lookup that names no table of the vocabulary has no answer. -/
theorem answer_of_unknown (h : ∀ t ∈ v.tables, q.name ≠ some t.name) (s : Keystream) (m : Memory) :
    v.answer q s m = ⟨none, s, m⟩ := by
  have htable : q.name.bind v.table? = none := by
    refine Option.bind_eq_none_iff.mpr fun name hname => ?_
    refine List.find?_eq_none.mpr fun t ht hsame => h t ht ?_
    rw [hname, ← beq_iff_eq.mp hsame]
  simp only [answer, answer?, htable]
  rfl

/-- A lookup that names no subtype of its table has no answer. -/
theorem answer_of_no_column (ht : v.table? t.name = some t) (hname : q.name = some t.name)
    (hcolumn : t.subtypeIndex? q.subtype = none) (s : Keystream) (m : Memory) :
    v.answer q s m = ⟨none, s, m⟩ := by
  simp only [answer, answer?, hname, Option.bind_some, ht, hcolumn]
  rfl

namespace Shapely

/-- A lookup that is pinned is answered by the pin, and nothing is drawn. -/
theorem answer_of_pinned (h : v.Shapely) (ht : v.table? t.name = some t)
    (hname : q.name = some t.name) (hcolumn : t.subtypeIndex? q.subtype = some column) {index : Nat}
    (hpinned : t.pinned? q m = some index) (s : Keystream) :
    ∃ e term, t.entries[index]? = some e ∧ e.term? column = some term ∧
      v.answer q s m = ⟨some term, s, m.recordAll ⟨t.name, index⟩ q.ties⟩ := by
  have hlt := Table.lt_of_pinned? hpinned
  obtain ⟨term, hterm⟩ := (h t (mem_of_table? ht)).exists_term? (List.getElem_mem hlt) hcolumn
  refine ⟨t.entries[index], term, List.getElem?_eq_getElem hlt, hterm, ?_⟩
  simp only [answer, answer?, hname, Option.bind_some, ht, hcolumn, pick?, hpinned,
    List.getElem?_eq_getElem hlt, hterm, Option.bind_eq_bind]
  rfl

/-- A lookup without a pin is answered by what is chosen of the candidates that suit it. -/
theorem answer_of_drawn (h : v.Shapely) (ht : v.table? t.name = some t)
    (hname : q.name = some t.name) (hcolumn : t.subtypeIndex? q.subtype = some column)
    (hpinned : t.pinned? q m = none) (s : Keystream) :
    (v.answer q s m = ⟨none, s, m⟩ ∧ ∀ c, ¬ v.Suits m q t column c) ∨
      ∃ c s', v.Suits m q t column c ∧
        v.answer q s m = ⟨some c.term, s', m.recordAll ⟨t.name, c.index⟩ q.ties⟩ := by
  obtain ⟨candidates, hcandidates⟩ := h.exists_candidates? (mem_of_table? ht) hcolumn
  have hpick : v.pick? q t column s m =
      (let chosen := s.choose (candidates.filter (v.admissible m q t.name column))
      some (chosen.1.map (·.index), chosen.2)) := by
    rw [h.pick?_eq hcandidates, hpinned]
  have hsuits (c : Candidate) := mem_admissible_iff (v := v) (m := m) (q := q) hcandidates (c := c)
  -- a choice from no candidates fails, and from some it succeeds
  cases hfitting : candidates.filter (v.admissible m q t.name column) with
  | nil =>
    rw [hfitting] at hpick hsuits
    refine .inl ⟨?_, fun c hc => nomatch (hsuits c).mpr hc⟩
    simp only [answer, answer?, hname, Option.bind_some, ht, hcolumn, hpick, Keystream.choose]
    rfl
  | cons first others =>
    obtain ⟨c, hc⟩ := s.exists_choose (List.cons_ne_nil first others)
    rw [hfitting] at hpick hsuits
    have hmem := (hsuits c).mp (Keystream.mem_of_choose hc)
    refine .inr ⟨c, (s.choose (first :: others)).2, hmem, ?_⟩
    simp only [answer, answer?, hname, Option.bind_some, ht, hcolumn, hpick, hc, Option.map_some,
      hmem.entry, hmem.term, Option.bind_eq_bind]
    rfl

end Shapely

/-- **Answers.** Offer any tables to an empty vocabulary, of which some may be refused, or make it
of tables at once, and ask it anything, with any random words and in any memory. A lookup that names
no table of the vocabulary, or no subtype of its table, has no answer. Otherwise, if one of its
names of kind `matching` is anchored to an entry of the table, the first such name decides, and
nothing is drawn. If there is no such name, there is no answer just if no entry suits the lookup,
and an answer is the term of an entry that does. The memory after an answer is the one before with
the pick; without an answer memory and random words are the same as before. -/
theorem answer_spec (tables : List Table) (q : Lookup) (s : Keystream) (m : Memory) :
    let v := empty.offerAll tables
    let answer := v.answer q s m
    (∀ made, ofTables tables = .ok made → made = v) ∧
    ((∀ t ∈ v.tables, q.name ≠ some t.name) → answer = ⟨none, s, m⟩) ∧
    ∀ t ∈ v.tables, q.name = some t.name →
      (∀ subtype, q.subtype = some subtype → subtype ∉ t.subtypes → answer = ⟨none, s, m⟩) ∧
      ((∀ subtype, q.subtype = some subtype → subtype ∈ t.subtypes) →
        ∃ column, t.IsColumn column q.subtype ∧
          (∀ index, t.FirstPin m q index →
            ∃ e term, t.entries[index]? = some e ∧ e.term? column = some term ∧
              answer.term = some term ∧ answer.stream = s ∧
              m.Records ⟨t.name, index⟩ q.ties answer.memory) ∧
          ((∀ name ∈ q.matchingNames, ∀ index, ¬ t.PinnedBy m name index) →
            (answer.term = none ↔ ∀ c, ¬ v.Suits m q t column c) ∧
            (answer.term = none → answer = ⟨none, s, m⟩) ∧
            ∀ term, answer.term = some term →
              ∃ c, v.Suits m q t column c ∧ c.term = term ∧
                m.Records ⟨t.name, c.index⟩ q.ties answer.memory)) := by
  intro v answer
  have hshapely : v.Shapely := shapely_offerAll tables
  have hdistinct : v.Distinct := distinct_offerAll tables
  refine ⟨fun _ => eq_offerAll_of_ofTables, ?_, ?_⟩
  · intro hunknown
    exact answer_of_unknown hunknown s m
  · intro t ht hname
    have hfound := hdistinct.table?_eq ht
    refine ⟨?_, ?_⟩
    · intro subtype hsubtype hunknown
      refine answer_of_no_column hfound hname ?_ s m
      rw [hsubtype, Table.subtypeIndex?_eq_none hunknown]
    · intro hdeclared
      obtain ⟨column, hcolumn⟩ := Table.exists_isColumn hdeclared
      have hindex := (hshapely t ht).subtypeIndex?_eq hcolumn
      refine ⟨column, hcolumn, ?_, ?_⟩
      · intro index hpin
        obtain ⟨e, term, hentry, hterm, hanswer⟩ := hshapely.answer_of_pinned hfound hname hindex
          (Table.pinned?_eq_some_iff.mpr hpin) s
        rw [show answer = _ from hanswer]
        exact ⟨e, term, hentry, hterm, rfl, rfl, m.records_recordAll _ _⟩
      · intro hnone
        obtain ⟨hanswer, hnosuit⟩ | ⟨c, s', hsuits, hanswer⟩ :=
          hshapely.answer_of_drawn hfound hname hindex (Table.pinned?_eq_none_iff.mpr hnone) s
        · rw [show answer = _ from hanswer]
          exact ⟨iff_of_true rfl hnosuit, fun _ => rfl, fun _ h => nomatch h⟩
        · rw [show answer = _ from hanswer]
          have hsome : ¬ (some c.term = none) := Option.some_ne_none _
          refine ⟨iff_of_false hsome fun h => h c hsuits, fun h => absurd h hsome, ?_⟩
          intro term hterm
          exact ⟨c, hsuits, Option.some.inj hterm, m.records_recordAll _ _⟩

end Vocabulary

end Wordweave
