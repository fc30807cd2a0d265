import Mathlib.Data.List.Forall2
import Wordweave.Proofs.Memory.Slots
import Wordweave.Proofs.Vocabulary.Range

/-!
# Wordweave — orders that are of no account

Most lists of a lookup are sets in disguise. It does not matter in which order its filters stand, in
which order a class filter has its rules and a rule its alternatives, or in which order the names of
a tie are listed, and neither does it matter whether one of them is listed twice. It is the same with
the classes of an entry. There is one exception: of the `matching` names the first that is anchored
pins the lookup, so they have to stay as they are.

Two lookups are *alike* if they differ in such orders only, and so are two vocabularies. They have
alike candidates at the same places, and admit the same of them; what is chosen from either list is
then chosen by the same random words. So alike lookups have the same answer and leave the same to be
remembered (`Vocabulary.Alike.answer_eq`).
-/

namespace Wordweave

/-! ## Lists with the same members -/

section Members

variable {α β : Type}

/-- Each member of one list has a counterpart in the other. -/
structure SameUpTo (R : α → β → Prop) (l : List α) (l' : List β) : Prop where
  left : ∀ a ∈ l, ∃ b ∈ l', R a b
  right : ∀ b ∈ l', ∃ a ∈ l, R a b

/-- Two lists have the same members, in any order and any number of times. -/
def SameMembers (l l' : List α) : Prop := ∀ a, a ∈ l ↔ a ∈ l'

theorem SameMembers.of_perm {l l' : List α} (h : l.Perm l') : SameMembers l l' := fun _ => h.mem_iff

theorem SameMembers.sameUpTo {l l' : List α} (h : SameMembers l l') {R : α → α → Prop}
    (hrefl : ∀ a, R a a) : SameUpTo R l l' :=
  ⟨fun a ha => ⟨a, (h a).mp ha, hrefl a⟩, fun a ha => ⟨a, (h a).mpr ha, hrefl a⟩⟩

/-- Lists whose members are related in pairs, of which one is put into another order. -/
theorem SameUpTo.of_perm {R : α → β → Prop} {l : List α} {ordered l' : List β}
    (h : List.Forall₂ R l ordered) (hperm : ordered.Perm l') : SameUpTo R l l' := by
  suffices hordered : SameUpTo R l ordered by
    refine ⟨fun a ha => ?_, fun b hb => hordered.right b (hperm.mem_iff.mpr hb)⟩
    obtain ⟨b, hb, hab⟩ := hordered.left a ha
    exact ⟨b, hperm.mem_iff.mp hb, hab⟩
  -- what is left is about the pairs alone
  clear hperm
  induction h with
  | nil => exact ⟨fun _ ha => (nomatch ha), fun _ hb => (nomatch hb)⟩
  | cons hab _ ih =>
    constructor
    · intro a ha
      rcases List.mem_cons.mp ha with rfl | ha
      · exact ⟨_, List.mem_cons_self .., hab⟩
      · obtain ⟨b, hb, h⟩ := ih.left a ha
        exact ⟨b, List.mem_cons_of_mem _ hb, h⟩
    · intro b hb
      rcases List.mem_cons.mp hb with rfl | hb
      · exact ⟨_, List.mem_cons_self .., hab⟩
      · obtain ⟨a, ha, h⟩ := ih.right b hb
        exact ⟨a, List.mem_cons_of_mem _ ha, h⟩

section Tests

variable {R : α → β → Prop} {l : List α} {l' : List β} {p : α → Bool} {p' : β → Bool}

theorem SameUpTo.all_eq (h : SameUpTo R l l') (hp : ∀ a b, R a b → p a = p' b) :
    l.all p = l'.all p' := by
  rw [Bool.eq_iff_iff, List.all_eq_true, List.all_eq_true]
  constructor
  · intro hall b hb
    obtain ⟨a, ha, hab⟩ := h.right b hb
    rw [← hp a b hab]
    exact hall a ha
  · intro hall a ha
    obtain ⟨b, hb, hab⟩ := h.left a ha
    rw [hp a b hab]
    exact hall b hb

theorem SameMembers.all_eq {l l' : List α} {p p' : α → Bool} (h : SameMembers l l')
    (hp : ∀ a, p a = p' a) : l.all p = l'.all p' :=
  (h.sameUpTo Eq.refl).all_eq fun a _ hab => hab ▸ hp a

theorem SameMembers.any_eq {l l' : List α} {p p' : α → Bool} (h : SameMembers l l')
    (hp : ∀ a, p a = p' a) : l.any p = l'.any p' := by
  rw [List.any_eq_not_all_not, List.any_eq_not_all_not, h.all_eq fun a => by rw [hp a]]

theorem SameMembers.contains_eq [BEq α] [LawfulBEq α] {l l' : List α} (h : SameMembers l l')
    (a : α) : l.contains a = l'.contains a := by
  rw [Bool.eq_iff_iff, List.contains_iff_mem, List.contains_iff_mem, h a]

end Tests

end Members

section Pairs

variable {α β γ δ : Type} {R : α → β → Prop} {S : γ → δ → Prop}

theorem rel_getElem? {l : List α} {l' : List β} (h : List.Forall₂ R l l') (place : Nat) :
    Option.Rel R l[place]? l'[place]? := by
  induction h generalizing place with
  | nil => exact .none
  | cons hab _ ih =>
    cases place with
    | zero => exact .some hab
    | succ place => exact ih place

theorem rel_mapM {f : α → Option γ} {g : β → Option δ}
    (hfg : ∀ a b, R a b → Option.Rel S (f a) (g b)) {l : List α} {l' : List β}
    (h : List.Forall₂ R l l') : Option.Rel (List.Forall₂ S) (l.mapM f) (l'.mapM g) := by
  induction h with
  | nil => exact .some .nil
  | @cons a b l l' hab _ ih =>
    have hfirst := hfg a b hab
    rw [List.mapM_cons, List.mapM_cons]
    -- both stop at the same member, if they stop
    generalize f a = first, g b = first' at hfirst
    generalize l.mapM f = others, l'.mapM g = others' at ih
    cases hfirst with
    | none => exact .none
    | some hfirst =>
      cases ih with
      | none => exact .none
      | some ih => exact .some (.cons hfirst ih)

theorem forall₂_zipIdx {l : List α} {l' : List β} (h : List.Forall₂ R l l') (first : Nat) :
    List.Forall₂ (fun a b => R a.1 b.1 ∧ a.2 = b.2) (l.zipIdx first) (l'.zipIdx first) := by
  induction h generalizing first with
  | nil => exact .nil
  | cons hab _ ih => exact .cons ⟨hab, rfl⟩ (ih (first + 1))

theorem forall₂_filter {p : α → Bool} {p' : β → Bool} (hp : ∀ a b, R a b → p a = p' b)
    {l : List α} {l' : List β} (h : List.Forall₂ R l l') :
    List.Forall₂ R (l.filter p) (l'.filter p') :=
  List.rel_filter (fun {a b} hab => by simp only [hp a b hab]) h

/-- A choice depends on the number of members alone. -/
theorem Keystream.rel_choose (s : Keystream) {l : List α} {l' : List β}
    (h : List.Forall₂ R l l') :
    Option.Rel R (s.choose l).1 (s.choose l').1 ∧ (s.choose l).2 = (s.choose l').2 := by
  cases h with
  | nil => exact ⟨.none, rfl⟩
  | cons hab hrest =>
    -- the number that is drawn is below the length, which both lists share
    have hlists := List.Forall₂.cons hab hrest
    rw [choose, choose, hlists.length_eq]
    · exact ⟨rel_getElem? hlists _, rfl⟩
    · exact List.cons_ne_nil _ _
    · exact List.cons_ne_nil _ _

end Pairs

/-! ## Classes -/

theorem sameClasses_congr {xs xs' ys ys' : List String} (hx : SameMembers xs xs')
    (hy : SameMembers ys ys') : sameClasses xs ys = sameClasses xs' ys' := by
  unfold sameClasses
  rw [hx.all_eq hy.contains_eq, hy.all_eq hx.contains_eq]

theorem shareClass_congr {xs xs' ys ys' : List String} (hx : SameMembers xs xs')
    (hy : SameMembers ys ys') : shareClass xs ys = shareClass xs' ys' :=
  hx.any_eq hy.contains_eq

/-! ## Filters -/

/-- Filters that differ in the order of rules and alternatives only. -/
inductive Filter.Alike : Filter → Filter → Prop
  | byClass {rules rules' : List (List ClassTest)} (h : SameUpTo SameMembers rules rules') :
      Alike (.byClass rules) (.byClass rules')
  | byPattern (f : PatternFilter) : Alike (.byPattern f) (.byPattern f)
  | bySyllables (bounds : SyllableBounds) : Alike (.bySyllables bounds) (.bySyllables bounds)

namespace Filter.Alike

variable {f f' : Filter}

theorem refl : ∀ f : Filter, f.Alike f
  | .byClass _ =>
    .byClass ⟨fun rule h => ⟨rule, h, fun _ => Iff.rfl⟩, fun rule h => ⟨rule, h, fun _ => Iff.rfl⟩⟩
  | .byPattern f => .byPattern f
  | .bySyllables bounds => .bySyllables bounds

theorem accepts_eq (h : f.Alike f') {classes classes' : List String}
    (hclasses : SameMembers classes classes') (term : String) :
    f.accepts term classes = f'.accepts term classes' := by
  cases h with
  | byClass hrules =>
    refine hrules.all_eq fun rule rule' hrule => hrule.any_eq fun test => ?_
    rw [ClassTest.accepts, ClassTest.accepts, hclasses.contains_eq]
  | byPattern f => rfl
  | bySyllables bounds => rfl

theorem mem_wantedClasses {rules : List (List ClassTest)} {name : String} :
    name ∈ (Filter.byClass rules).wantedClasses ↔ ∃ rule ∈ rules, ⟨name, false⟩ ∈ rule := by
  simp only [wantedClasses, List.mem_map, List.mem_filter, List.mem_flatten]
  constructor
  · rintro ⟨⟨_, excluded⟩, ⟨⟨rule, hrule, htest⟩, hwanted⟩, rfl⟩
    obtain rfl : excluded = false := by simpa using hwanted
    exact ⟨rule, hrule, htest⟩
  · rintro ⟨rule, hrule, htest⟩
    exact ⟨⟨name, false⟩, ⟨⟨rule, hrule, htest⟩, rfl⟩, rfl⟩

theorem wantedClasses_same (h : f.Alike f') : SameMembers f.wantedClasses f'.wantedClasses := by
  cases h with
  | byClass hrules =>
    intro name
    rw [mem_wantedClasses, mem_wantedClasses]
    constructor
    · rintro ⟨rule, hrule, htest⟩
      obtain ⟨rule', hrule', hsame⟩ := hrules.left rule hrule
      exact ⟨rule', hrule', (hsame _).mp htest⟩
    · rintro ⟨rule', hrule', htest⟩
      obtain ⟨rule, hrule, hsame⟩ := hrules.right rule' hrule'
      exact ⟨rule, hrule, (hsame _).mpr htest⟩
  | byPattern f => exact fun _ => Iff.rfl
  | bySyllables bounds => exact fun _ => Iff.rfl

end Filter.Alike

/-! ## Lookups -/

/-- Carriers that differ in the order of names only, and not in that of the `matching` ones. -/
structure Carrier.Alike (c c' : Carrier) : Prop where
  matching : c.names .matching = c'.names .matching
  others (kind : TieKind) : SameMembers (c.names kind) (c'.names kind)

/-- Lookups that differ in the order of filters and in those of carriers and filters only. -/
structure Lookup.Alike (q q' : Lookup) : Prop where
  name : q.name = q'.name
  subtype : q.subtype = q'.subtype
  exclusive : q.exclusive = q'.exclusive
  filters : SameUpTo Filter.Alike q.filters q'.filters
  carrier : Option.Rel Carrier.Alike q.carrier q'.carrier

theorem Carrier.mem_ties {c : Carrier} {tie : Tie} : tie ∈ c.ties ↔ tie.name ∈ c.names tie.kind := by
  obtain ⟨kind, name⟩ := tie
  have hkind : kind ∈ TieKind.all := by cases kind <;> decide
  rw [ties, List.mem_flatMap]
  constructor
  · rintro ⟨other, -, htie⟩
    obtain ⟨name', hname, heq⟩ := List.mem_map.mp htie
    cases heq
    exact hname
  · exact fun hname => ⟨kind, hkind, List.mem_map_of_mem hname⟩

namespace Lookup.Alike

variable {q q' : Lookup} (h : q.Alike q')

include h

theorem ties_same : SameMembers q.ties q'.ties := by
  intro tie
  have hcarrier := h.carrier
  unfold ties
  generalize q.carrier = c, q'.carrier = c' at hcarrier
  cases hcarrier with
  | none => rfl
  | some hcarrier =>
    simp only [Option.map_some, Option.getD_some]
    rw [Carrier.mem_ties, Carrier.mem_ties, hcarrier.others tie.kind tie.name]

theorem matchingNames_eq : q.matchingNames = q'.matchingNames := by
  have hcarrier := h.carrier
  unfold matchingNames
  generalize q.carrier = c, q'.carrier = c' at hcarrier
  cases hcarrier with
  | none => rfl
  | some hcarrier => exact hcarrier.matching

theorem wantedClasses_same : SameMembers q.wantedClasses q'.wantedClasses := by
  intro name
  rw [wantedClasses, wantedClasses, List.mem_flatMap, List.mem_flatMap]
  constructor
  · rintro ⟨f, hf, hname⟩
    obtain ⟨f', hf', halike⟩ := h.filters.left f hf
    exact ⟨f', hf', (halike.wantedClasses_same name).mp hname⟩
  · rintro ⟨f', hf', hname⟩
    obtain ⟨f, hf, halike⟩ := h.filters.right f' hf'
    exact ⟨f, hf, (halike.wantedClasses_same name).mpr hname⟩

end Lookup.Alike

/-! ## Vocabularies -/

/-- Entries that differ in the order of classes only. -/
structure Entry.Alike (e e' : Entry) : Prop where
  terms : e.terms = e'.terms
  classes : SameMembers e.classes e'.classes

/-- Tables of alike entries. -/
structure Table.Alike (t t' : Table) : Prop where
  name : t.name = t'.name
  subtypes : t.subtypes = t'.subtypes
  entries : List.Forall₂ Entry.Alike t.entries t'.entries

/-- Vocabularies of alike tables. -/
def Vocabulary.Alike (v v' : Vocabulary) : Prop := List.Forall₂ Table.Alike v.tables v'.tables

/-- Candidates whose entries are alike. -/
structure Candidate.Alike (c c' : Candidate) : Prop where
  index : c.index = c'.index
  entry : c.entry.Alike c'.entry
  term : c.term = c'.term

theorem Entry.Alike.term?_eq {e e' : Entry} (h : e.Alike e') (column : Nat) :
    e.term? column = e'.term? column := by
  rw [term?, term?, h.terms]

namespace Table.Alike

variable {t t' : Table} (h : t.Alike t')

include h

theorem subtypeIndex?_eq (subtype : Option String) :
    t.subtypeIndex? subtype = t'.subtypeIndex? subtype := by
  cases subtype <;> simp only [subtypeIndex?, h.subtypes]

theorem shapely (ht : t.Shapely) : t'.Shapely := by
  refine ⟨h.subtypes ▸ ht.subtypes_ne_nil, fun e' he' => ?_⟩
  obtain ⟨place, hplace⟩ := List.getElem?_of_mem he'
  have hentry := rel_getElem? h.entries place
  rw [hplace] at hentry
  generalize hget : t.entries[place]? = e at hentry
  cases hentry with
  | some hentry =>
    rw [← hentry.terms, ← h.subtypes]
    exact ht.length_terms _ (List.mem_of_getElem? hget)

theorem rel_candidates? (column : Nat) :
    Option.Rel (List.Forall₂ Candidate.Alike) (t.candidates? column) (t'.candidates? column) := by
  refine rel_mapM ?_ (forall₂_zipIdx h.entries 0)
  rintro ⟨e, index⟩ ⟨e', _⟩ ⟨hentry, rfl⟩
  simp only [hentry.term?_eq column]
  cases e'.term? column with
  | none => exact .none
  | some term => exact .some ⟨rfl, hentry, rfl⟩

end Table.Alike

namespace Vocabulary.Alike

variable {v v' : Vocabulary} (h : v.Alike v')

include h

theorem shapely (hv : v.Shapely) : v'.Shapely := by
  intro t' ht'
  obtain ⟨t, ht, halike⟩ := (SameUpTo.of_perm h (.refl _)).right t' ht'
  exact halike.shapely (hv t ht)

theorem rel_table? (name : String) :
    Option.Rel Table.Alike (v.table? name) (v'.table? name) := by
  obtain ⟨tables⟩ := v
  obtain ⟨tables'⟩ := v'
  replace h : List.Forall₂ Table.Alike tables tables' := h
  unfold table?
  induction h with
  | nil => exact .none
  | cons htable _ ih =>
    rw [List.find?_cons, List.find?_cons, htable.name]
    split
    · exact .some htable
    · exact ih

theorem rel_entry? (ref : EntryRef) : Option.Rel Entry.Alike (v.entry? ref) (v'.entry? ref) := by
  have htable := h.rel_table? ref.table
  unfold entry?
  generalize v.table? ref.table = t, v'.table? ref.table = t' at htable
  cases htable with
  | none => exact .none
  | some htable => exact rel_getElem? htable.entries ref.index

end Vocabulary.Alike

/-! ## Answers -/

/-- The same is remembered under every tie. -/
def Memory.Same (m m' : Memory) : Prop := ∀ tie, m.get? tie = m'.get? tie

namespace Memory.Same

variable {m m' : Memory} (h : m.Same m')

include h

theorem anchor?_eq (tie : Tie) : m.anchor? tie = m'.anchor? tie := by rw [anchor?, anchor?, h tie]

theorem used?_eq (tie : Tie) : m.used? tie = m'.used? tie := by rw [used?, used?, h tie]

/-- A pick is recorded under some ties, whatever their order. -/
theorem recordAll (ref : EntryRef) {ties ties' : List Tie} (hties : SameMembers ties ties') :
    (m.recordAll ref ties).Same (m'.recordAll ref ties') := by
  intro tie
  rw [get?_recordAll, get?_recordAll, h tie]
  simp only [hties tie]

/-- Some ties are forgotten, whatever their order. -/
theorem removeAll {ties ties' : List Tie} (hties : SameMembers ties ties') :
    (m.removeAll ties).Same (m'.removeAll ties') := by
  intro tie
  rw [get?_removeAll, get?_removeAll, h tie]
  simp only [hties tie]

end Memory.Same

theorem TieKind.relates?_eq (kind : TieKind) (column : Nat) {c c' : Candidate} (hc : c.Alike c')
    {anchor anchor' : Entry} (hanchor : anchor.Alike anchor') :
    kind.relates? column c anchor = kind.relates? column c' anchor' := by
  have hclasses := hc.entry.classes
  cases kind with
  | matching => rfl
  | associative =>
    exact congrArg some (sameClasses_congr hclasses hanchor.classes)
  | dissociative =>
    exact congrArg (some !·) (shareClass_congr hclasses hanchor.classes)
  | divergent =>
    exact congrArg (some !·) (sameClasses_congr hclasses hanchor.classes)
  | relational => exact congrArg some (shareClass_congr hclasses hanchor.classes)
  | unique => rfl
  | rhyme =>
    rw [relates?, relates?, hanchor.terms, hanchor.term?_eq, hc.term]

section Lookups

variable {v v' : Vocabulary} {q q' : Lookup} {m m' : Memory} (h : v.Alike v') (hv : v.Shapely)
  (hq : q.Alike q') (hm : m.Same m')

include hq in
theorem Lookup.Alike.passes_eq {c c' : Candidate} (hc : c.Alike c') : q.passes c = q'.passes c' :=
  hq.filters.all_eq fun f f' hf => by rw [hc.term, hf.accepts_eq hc.entry.classes]

include hq in
theorem Lookup.Alike.allowsClasses_eq {c c' : Candidate} (hc : c.Alike c') :
    q.allowsClasses c = q'.allowsClasses c' := by
  rw [allowsClasses, allowsClasses, hq.exclusive,
    hc.entry.classes.all_eq hq.wantedClasses_same.contains_eq]

include hq hm in
/-- Alike lookups are pinned to the same place. -/
theorem Table.Alike.pinned?_eq {t t' : Table} (ht : t.Alike t') :
    t.pinned? q m = t'.pinned? q' m' := by
  -- the first name that is anchored decides, so the names must be the same list
  have hnames : q.carrier.elim [] (·.names .matching) = q'.carrier.elim [] (·.names .matching) :=
    hq.matchingNames_eq
  unfold pinned?
  rw [hnames, ht.name, ht.entries.length_eq]
  simp only [hm.anchor?_eq]

namespace Vocabulary.Alike

include h hm in
theorem admits?_eq (table : String) (column : Nat) {c c' : Candidate} (hc : c.Alike c') (tie : Tie) :
    v.admits? m table column c tie = v'.admits? m' table column c' tie := by
  unfold admits?
  rw [hm.used?_eq, hm.anchor?_eq, hc.index]
  cases m'.anchor? tie with
  | none => rfl
  | some ref =>
    have hanchor := h.rel_entry? ref
    simp only [Option.bind_some]
    generalize v.entry? ref = anchor, v'.entry? ref = anchor' at hanchor
    cases hanchor with
    | none => rfl
    | some hanchor => simp only [tie.kind.relates?_eq column hc hanchor]

include h hq hm in
/-- Alike candidates are admissible together. -/
theorem admissible_eq (table : String) (column : Nat) {c c' : Candidate} (hc : c.Alike c') :
    v.admissible m q table column c = v'.admissible m' q' table column c' := by
  have hadmits (tie : Tie) : v.admits m table column c tie = v'.admits m' table column c' tie := by
    rw [admits, admits, h.admits?_eq hm table column hc tie]
  unfold admissible
  rw [hq.passes_eq hc, hq.allowsClasses_eq hc, hq.ties_same.all_eq hadmits]

include h hv hq hm

/-- **Picks.** Alike lookups pick the same place from alike tables. -/
theorem pick?_eq {t t' : Table} (hmem : t ∈ v.tables) (ht : t.Alike t') {column : Nat}
    (hcolumn : t.subtypeIndex? q.subtype = some column) (s : Keystream) :
    v.pick? q t column s m = v'.pick? q' t' column s m' := by
  obtain ⟨candidates, hcandidates⟩ := hv.exists_candidates? hmem hcolumn
  have hrel := ht.rel_candidates? column
  rw [hcandidates] at hrel
  generalize hcandidates' : t'.candidates? column = found at hrel
  cases hrel with
  | @some _ candidates' hlists =>
    rw [hv.pick?_eq hcandidates, (h.shapely hv).pick?_eq hcandidates', ht.pinned?_eq hq hm, ht.name]
    cases t'.pinned? q' m' with
    | some index => rfl
    | none =>
      -- the candidates that are admitted stand in pairs, and the choice falls on a pair
      have hadmitted : List.Forall₂ Candidate.Alike
          (candidates.filter (v.admissible m q t'.name column))
          (candidates'.filter (v'.admissible m' q' t'.name column)) :=
        forall₂_filter (fun c c' hc => h.admissible_eq hq hm t'.name column hc) hlists
      obtain ⟨hchosen, hstream⟩ := s.rel_choose hadmitted
      simp only [hstream]
      generalize (s.choose (candidates.filter _)).1 = chosen,
        (s.choose (candidates'.filter _)).1 = chosen' at hchosen
      cases hchosen with
      | none => rfl
      | some hc => rw [Option.map_some, Option.map_some, hc.index]

/-- **Answers.** Alike lookups have the same answer in alike vocabularies, and the same is remembered
after it. -/
theorem answer_eq (s : Keystream) :
    (v.answer q s m).term = (v'.answer q' s m').term ∧
      (v.answer q s m).stream = (v'.answer q' s m').stream ∧
      (v.answer q s m).memory.Same (v'.answer q' s m').memory := by
  have htable : Option.Rel Table.Alike (q.name.bind v.table?) (q'.name.bind v'.table?) := by
    rw [hq.name]
    cases q'.name with
    | none => exact .none
    | some name => exact h.rel_table? name
  -- the two lookups are followed side by side: table, column, pick, entry, term
  unfold answer answer?
  generalize hfound : q.name.bind v.table? = found, q'.name.bind v'.table? = found' at htable
  cases htable with
  | none => exact ⟨rfl, rfl, hm⟩
  | @some t t' ht =>
    obtain ⟨name, -, hname⟩ := Option.bind_eq_some_iff.mp hfound
    simp only
    rw [← hq.subtype, ← ht.subtypeIndex?_eq]
    cases hcolumn : t.subtypeIndex? q.subtype with
    | none => exact ⟨rfl, rfl, hm⟩
    | some column =>
      simp only
      rw [h.pick?_eq hv hq hm (mem_of_table? hname) ht hcolumn s]
      rcases v'.pick? q' t' column s m' with _ | ⟨_ | index, s'⟩
      · exact ⟨rfl, rfl, hm⟩
      · exact ⟨rfl, rfl, hm⟩
      · have hentry := rel_getElem? ht.entries index
        simp only
        generalize t.entries[index]? = e, t'.entries[index]? = e' at hentry
        cases hentry with
        | none => exact ⟨rfl, rfl, hm⟩
        | @some e e' hentry =>
          simp only [Option.bind_eq_bind, Option.bind_some]
          rw [hentry.term?_eq column, ht.name]
          cases e'.term? column with
          | none => exact ⟨rfl, rfl, hm⟩
          | some term => exact ⟨rfl, rfl, hm.recordAll _ hq.ties_same⟩

end Vocabulary.Alike

end Lookups

end Wordweave
