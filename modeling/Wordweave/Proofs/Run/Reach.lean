import Wordweave.Proofs.Memory.Slots
import Wordweave.Proofs.Run.Journal
import Wordweave.Proofs.Run.Simulation
import Wordweave.Proofs.Vocabulary.Construction

/-!
# Wordweave — tables within reach

A run looks at a table for one of two reasons: a lookup names it, or an entry of it is the anchor of
a tie, and what is drawn has to stand to that entry as the tie demands. The anchors are of tables
that the memory referred to at the beginning, or they have been picked since, and then a lookup has
named their table. So the tables that the tree names and those that the memory refers to are all that
a run can reach. This is kept by every lookup (`Lookup.keeps_within`): what it records is of the
table that it names.

Two vocabularies that have the same tables within reach are therefore one and the same to a run.

Main result:

* `Node.run_within_reach` — a run depends on the tables within its reach and on no others.
-/

namespace Wordweave

/-! ## What is within reach -/

mutual

/-- The lookups of a tree, those of its complements included. -/
def Node.lookups : Node → List Lookup
  | .text _ _ => []
  | .sequence _ children => Node.lookupsAll children
  | .query _ lookup none => [lookup]
  | .query _ lookup (some complement) => lookup :: complement.lookups

def Node.lookupsAll : List Node → List Lookup
  | [] => []
  | child :: rest => child.lookups ++ Node.lookupsAll rest

end

/-- The names of the tables that the lookups of a tree ask for. -/
def Node.tables (root : Node) : List String := root.lookups.filterMap (·.name)

def Recall.entries : Recall → List EntryRef
  | .anchor entry => [entry]
  | .used entries => entries

/-- The names of the tables that a memory refers to. -/
def Memory.tables (m : Memory) : List String :=
  m.slots.flatMap fun slot => slot.2.entries.map (·.table)

def Recall.Within (names : List String) (memo : Recall) : Prop :=
  ∀ ref ∈ memo.entries, ref.table ∈ names

/-- All entries that a memory refers to are of some tables. -/
def Memory.Within (names : List String) (m : Memory) : Prop :=
  ∀ tie memo, m.get? tie = some memo → memo.Within names

theorem TieKind.mem_entries_picked {kind : TieKind} {ref other : EntryRef} {before : Option Recall}
    (h : other ∈ (kind.picked ref before).entries) :
    other = ref ∨ ∃ memo, before = some memo ∧ other ∈ memo.entries := by
  cases before with
  | none =>
    rw [picked] at h
    split at h <;> exact .inl (List.mem_singleton.mp h)
  | some memo =>
    cases memo with
    | anchor entry =>
      rw [picked] at h
      split at h
      · exact .inl (List.mem_singleton.mp h)
      · exact .inr ⟨_, rfl, h⟩
    | used entries =>
      rw [picked] at h
      split at h
      · -- the entry that was picked comes after those that were used
        rcases List.mem_append.mp h with hold | hnew
        · exact .inr ⟨_, rfl, hold⟩
        · exact .inl (List.mem_singleton.mp hnew)
      · exact .inr ⟨_, rfl, h⟩

namespace Memory

theorem within_tables (m : Memory) : m.Within m.tables := by
  intro tie memo hget ref href
  have hslot : (tie, memo) ∈ m.slots := get?_eq_some_iff.mp hget
  exact List.mem_flatMap.mpr ⟨(tie, memo), hslot, List.mem_map_of_mem href⟩

namespace Within

variable {names : List String} {m : Memory} (h : m.Within names)

include h

theorem mono {others : List String} (hsub : ∀ name ∈ names, name ∈ others) : m.Within others :=
  fun tie memo hget ref href => hsub ref.table (h tie memo hget ref href)

theorem table_of_anchor? {tie : Tie} {ref : EntryRef} (hanchor : m.anchor? tie = some ref) :
    ref.table ∈ names := by
  unfold anchor? at hanchor
  split at hanchor
  · next entry hget =>
    obtain rfl : entry = ref := Option.some.inj hanchor
    exact h tie _ hget entry (List.mem_singleton_self _)
  · exact nomatch hanchor

theorem recordAll {ref : EntryRef} (href : ref.table ∈ names) (ties : List Tie) :
    (m.recordAll ref ties).Within names := by
  refine forall_recordAll (P := fun _ => Recall.Within names) h ?_ ties
  intro kind before hbefore other hother
  rcases TieKind.mem_entries_picked hother with rfl | ⟨memo, hmemo, hother⟩
  · exact href
  · exact hbefore memo hmemo other hother

theorem removeAll (ties : List Tie) : (m.removeAll ties).Within names :=
  forall_removeAll (P := fun _ => Recall.Within names) h ties

end Within

end Memory

/-! ## Lookups -/

/-- Two vocabularies have the same tables under some names, or none of them has one. -/
def Vocabulary.SameTables (names : List String) (v v' : Vocabulary) : Prop :=
  ∀ name ∈ names, v.table? name = v'.table? name

section Lookups

variable {names : List String} {v v' : Vocabulary} (hv : v.SameTables names v') {m : Memory}
  (hm : m.Within names)

include hv hm

namespace Vocabulary

theorem admits?_within (table : String) (column : Nat) (c : Candidate) (tie : Tie) :
    v.admits? m table column c tie = v'.admits? m table column c tie := by
  have hanchor : (m.anchor? tie).bind v.entry? = (m.anchor? tie).bind v'.entry? := by
    cases href : m.anchor? tie with
    | none => rfl
    | some ref =>
      -- the anchor is of a table that both have
      have htable : v.table? ref.table = v'.table? ref.table :=
        hv ref.table (hm.table_of_anchor? href)
      rw [Option.bind_some, Option.bind_some, entry?, entry?, htable]
  rw [admits?, admits?, hanchor]

theorem pick?_within (q : Lookup) (t : Table) (column : Nat) (s : Keystream) :
    v.pick? q t column s m = v'.pick? q t column s m := by
  have hadmissible : v.admissible? m q t.name column = v'.admissible? m q t.name column := by
    funext c
    have hadmits : v.admits? m t.name column c = v'.admits? m t.name column c :=
      funext fun tie => admits?_within hv hm t.name column c tie
    rw [admissible?, admissible?, hadmits]
  rw [pick?, pick?, hadmissible]

end Vocabulary

end Lookups

/-- **Lookups.** A lookup that names a table within reach has the same answer in both vocabularies,
and what it records is within reach. -/
theorem Lookup.keeps_within {names : List String} {v v' : Vocabulary}
    (hv : v.SameTables names v') {q : Lookup} (hq : ∀ name ∈ q.name, name ∈ names) :
    Keeps (fun m m' => m = m' ∧ m.Within names) v v' q q where
  erase_iff := Iff.rfl
  removeAll := by
    rintro m _ ⟨rfl, hm⟩
    exact ⟨rfl, hm.removeAll q.ties⟩
  answer := by
    rintro m _ ⟨rfl, hm⟩ s
    have htable : q.name.bind v.table? = q.name.bind v'.table? := by
      cases hname : q.name with
      | none => rfl
      | some name => exact hv name (hq name hname)
    refine Vocabulary.related_answer htable rfl
      (fun t column => Vocabulary.pick?_within hv hm q t column s) ⟨rfl, hm⟩ ?_
    intro t index ht
    obtain ⟨name, hname, ht⟩ := Option.bind_eq_some_iff.mp ht
    have hreach : t.name ∈ names := by
      rw [Vocabulary.name_of_table? ht]
      exact hq name hname
    exact ⟨rfl, hm.recordAll hreach q.ties⟩

/-! ## Trees -/

mutual

/-- A tree is of its own form. -/
theorem Node.related_self {L : Lookup → Lookup → Prop} : ∀ node : Node,
    (∀ q ∈ node.lookups, L q q) → node.Related L node
  | .text location content, _ => .text location content
  | .sequence _ children, h => by
    rw [Node.lookups] at h
    exact .sequence (Node.related_selfAll children h)
  | .query _ lookup none, h => by
    rw [Node.lookups] at h
    exact .query (h lookup (List.mem_singleton_self _)) .none
  | .query _ lookup (some complement), h => by
    rw [Node.lookups] at h
    obtain ⟨hlookup, hcomplement⟩ := List.forall_mem_cons.mp h
    exact .query hlookup (.some (Node.related_self complement hcomplement))

theorem Node.related_selfAll {L : Lookup → Lookup → Prop} : ∀ nodes : List Node,
    (∀ q ∈ Node.lookupsAll nodes, L q q) → List.Forall₂ (Node.Related L) nodes nodes
  | [], _ => .nil
  | node :: rest, h => by
    rw [Node.lookupsAll] at h
    obtain ⟨hnode, hrest⟩ := List.forall_mem_append.mp h
    exact .cons (Node.related_self node hnode) (Node.related_selfAll rest hrest)

end

theorem RunState.ext {s s' : RunState} (houtput : s.output = s'.output)
    (hstream : s.stream = s'.stream) (hmemory : s.memory = s'.memory) : s = s' := by
  obtain ⟨output, memory, stream⟩ := s
  obtain rfl : output = s'.output := houtput
  obtain rfl : memory = s'.memory := hmemory
  obtain rfl : stream = s'.stream := hstream
  rfl

/-- A run does the same with two vocabularies that have the same tables within its reach. -/
theorem Node.run_of_sameTables {v v' : Vocabulary} (catalog : Catalog) (root : Node) (s : RunState)
    (h : v.SameTables (root.tables ++ s.memory.tables) v') :
    root.run (.ofVocabulary (some v) catalog) s = root.run (.ofVocabulary (some v') catalog) s := by
  have hroot : root.Related (fun q q' => q = q' ∧ ∀ name ∈ q.name, name ∈ root.tables) root := by
    refine root.related_self fun q hq => ⟨rfl, fun name hname => ?_⟩
    exact List.mem_filterMap.mpr ⟨q, hq, hname⟩
  have hkeeps : ∀ {q q' : Lookup}, (q = q' ∧ ∀ name ∈ q.name, name ∈ root.tables) →
      Keeps (fun m m' => m = m' ∧ m.Within (root.tables ++ s.memory.tables)) v v' q q' := by
    rintro q _ ⟨rfl, hq⟩
    exact Lookup.keeps_within h fun name hname => List.mem_append_left _ (hq name hname)
  have hmemory : s.memory.Within (root.tables ++ s.memory.tables) :=
    s.memory.within_tables.mono fun name hname => List.mem_append_right _ hname
  obtain ⟨houtput, hstream, hsame, -⟩ := Node.run_related hkeeps hroot rfl rfl ⟨rfl, hmemory⟩
  exact RunState.ext houtput hstream hsame

/-- A table that is offered changes nothing under other names. -/
theorem Vocabulary.table?_offer (v : Vocabulary) {t : Table} {name : String} (h : name ≠ t.name) :
    (v.offer t).table? name = v.table? name := by
  rw [v.table?_offer_or, if_neg (mt And.left h.symm), Option.or_none]

/-- **Tables within reach.** Run a tree from some state with two vocabularies that have the same table,
or both none, under every name that a lookup of the tree asks for and under every name that the
memory refers to. The same is printed, the same random words are left, and the same is remembered. So
a tree that begins with nothing in memory prints the same whether or not a table has been offered for
which it never asks. -/
theorem Node.run_within_reach (catalog : Catalog) (root : Node) :
    (∀ (v v' : Vocabulary) (s : RunState),
      (∀ name ∈ root.tables ++ s.memory.tables, v.table? name = v'.table? name) →
      root.run (.ofVocabulary (some v) catalog) s =
        root.run (.ofVocabulary (some v') catalog) s) ∧
    ∀ (v : Vocabulary) (t : Table), t.name ∉ root.tables → ∀ seed,
      root.run (.ofVocabulary (some (v.offer t)) catalog) (.start seed) =
        root.run (.ofVocabulary (some v) catalog) (.start seed) := by
  refine ⟨fun v v' s h => root.run_of_sameTables catalog s h, fun v t ht seed => ?_⟩
  refine root.run_of_sameTables catalog (.start seed) fun name hname => ?_
  -- a memory that has nothing in it refers to no table
  have hnothing : (RunState.start seed).memory.tables = [] := rfl
  rw [hnothing, List.append_nil] at hname
  refine v.table?_offer ?_
  rintro rfl
  exact ht hname

/-- The noun has to have the classes of the verb, for which no lookup asks: the verb is there in both
vocabularies, one of which has places as well. -/
theorem Node.run_within_reach_cat :
    let it : Tie := ⟨.associative, "it"⟩
    let root : Node := .tied "noun" [it]
    let s : RunState := ⟨.empty, Memory.empty.setAnchor it ⟨"verb", 0⟩, .ofSeed 0⟩
    let place : Table := ⟨"place", Table.standardSubtypes, [⟨["house"], []⟩]⟩
    let v : Vocabulary := ⟨place :: menagerie.tables.reverse⟩
    root.tables ++ s.memory.tables = ["noun", "verb"] ∧
      (root.run (.ofVocabulary (some menagerie) .english) s).output.units = ["cat"] ∧
      (root.run (.ofVocabulary (some v) .english) s).output.units = ["cat"] ∧
      root.run (.ofVocabulary (some (menagerie.offer place)) .english) (.start 0) =
        root.run (.ofVocabulary (some menagerie) .english) (.start 0) := by
  intro it root s place v
  have hreach : root.tables ++ s.memory.tables = ["noun", "verb"] := by decide
  have hv : ∀ name ∈ root.tables ++ s.memory.tables, menagerie.table? name = v.table? name := by
    rw [hreach]
    decide
  obtain ⟨hsame, hoffered⟩ := Node.run_within_reach .english root
  have hcat : (root.run (.ofVocabulary (some menagerie) .english) s).output.units = ["cat"] := by
    decide +kernel
  refine ⟨hreach, hcat, ?_, hoffered menagerie place (by decide) 0⟩
  rw [← hsame menagerie v s hv]
  exact hcat

end Wordweave
