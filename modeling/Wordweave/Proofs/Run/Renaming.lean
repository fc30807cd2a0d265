import Mathlib.Logic.Equiv.Basic
import Wordweave.Proofs.Carrier.Renaming
import Wordweave.Proofs.Run.Journal
import Wordweave.Proofs.Run.Simulation
import Wordweave.Proofs.Vocabulary.Order

/-!
# Wordweave — runs under new names

Names are there to be told apart, and nothing else about them matters. Rename the ties of a tree and
of the memory in which it is run: every lookup has the same answer, and what it records or forgets is
the same under the new names (`Lookup.keeps_rename`). So the tree prints the same.

The memories of the two runs are compared by what they remember under each tie (`Memory.Same`). Where
a slot stands in a memory is of no account either (`Memory.same_of_perm`).

Main result:

* `Node.run_rename` — a renamed tree runs in a renamed memory as the tree does.
-/

namespace Wordweave

variable {f : Renaming}

/-! ## Memories -/

/-- Memories that have the same slots say the same, in whatever order the slots are. -/
theorem Memory.same_of_perm {m m' : Memory} (h : m.slots.Perm m'.slots) : m.Same m' := by
  intro tie
  refine Option.ext fun memo => ?_
  rw [get?_eq_some_iff, get?_eq_some_iff, h.mem_iff]

/-- A memory says the same as the renamed one if it remembers under every new name what is remembered
under the old one, and nothing else. -/
theorem Memory.same_rename_iff {m m' : Memory} : (m.rename f).Same m' ↔
    (∀ tie : Tie, m'.get? (tie.rename f) = m.get? tie) ∧
      ∀ tie, (∀ other : Tie, other.rename f ≠ tie) → m'.get? tie = none := by
  constructor
  · intro h
    refine ⟨fun tie => ?_, fun tie hother => ?_⟩
    · rw [← h, get?_rename]
    · rw [← h, get?_rename_of_ne f m hother]
  · rintro ⟨hmoved, hothers⟩ tie
    by_cases hnew : ∃ other : Tie, other.rename f = tie
    · obtain ⟨other, rfl⟩ := hnew
      rw [get?_rename, hmoved]
    · have hother : ∀ other : Tie, other.rename f ≠ tie := not_exists.mp hnew
      rw [get?_rename_of_ne f m hother, hothers tie hother]

theorem Tie.mem_map_rename {ties : List Tie} {tie : Tie} :
    tie.rename f ∈ ties.map (Tie.rename f) ↔ tie ∈ ties :=
  List.mem_map_of_injective (Tie.rename_injective f)

section Memories

variable {m m' : Memory} (h : (m.rename f).Same m')

include h

theorem Memory.get?_of_rename (tie : Tie) : m'.get? (tie.rename f) = m.get? tie :=
  (Memory.same_rename_iff.mp h).1 tie

theorem Memory.anchor?_of_rename (tie : Tie) : m'.anchor? (tie.rename f) = m.anchor? tie := by
  rw [anchor?, anchor?, get?_of_rename h]

theorem Memory.used?_of_rename (tie : Tie) : m'.used? (tie.rename f) = m.used? tie := by
  rw [used?, used?, get?_of_rename h]

/-- A pick is recorded under the new names as it is under the old ones. -/
theorem Memory.recordAll_of_rename (ref : EntryRef) (ties : List Tie) :
    ((m.recordAll ref ties).rename f).Same (m'.recordAll ref (ties.map (Tie.rename f))) := by
  obtain ⟨hmoved, hothers⟩ := same_rename_iff.mp h
  refine same_rename_iff.mpr ⟨fun tie => ?_, fun tie hother => ?_⟩
  · -- a new name is of the kind of the old one
    rw [get?_recordAll, get?_recordAll, hmoved]
    simp only [Tie.mem_map_rename]
    rfl
  · have hnot : tie ∉ ties.map (Tie.rename f) := by
      intro hmem
      obtain ⟨other, -, hsame⟩ := List.mem_map.mp hmem
      exact hother other hsame
    rw [get?_recordAll, if_neg hnot, hothers tie hother]

/-- Ties are forgotten under the new names as they are under the old ones. -/
theorem Memory.removeAll_of_rename (ties : List Tie) :
    ((m.removeAll ties).rename f).Same (m'.removeAll (ties.map (Tie.rename f))) := by
  obtain ⟨hmoved, hothers⟩ := same_rename_iff.mp h
  refine same_rename_iff.mpr ⟨fun tie => ?_, fun tie hother => ?_⟩
  · rw [get?_removeAll, get?_removeAll, hmoved]
    simp only [Tie.mem_map_rename]
  · rw [get?_removeAll, hothers tie hother, ite_self]

/-! ## Lookups -/

/-- The first name that is anchored pins a lookup, and the new names stand in the same order. -/
theorem Table.pinned?_rename (t : Table) (q : Lookup) :
    t.pinned? (q.rename f) m' = t.pinned? q m := by
  have hanchor : ∀ name, m'.anchor? ⟨.matching, f.newName .matching name⟩ =
      m.anchor? ⟨.matching, name⟩ := by
    intro name
    exact Memory.anchor?_of_rename h ⟨.matching, name⟩
  unfold pinned?
  rw [Lookup.names_rename, List.findSome?_map]
  simp only [Function.comp_def, hanchor]

namespace Vocabulary

variable (v : Vocabulary)

theorem admits?_rename (table : String) (column : Nat) (c : Candidate) (tie : Tie) :
    v.admits? m' table column c (tie.rename f) = v.admits? m table column c tie := by
  rw [admits?, admits?, Memory.used?_of_rename h, Memory.anchor?_of_rename h]
  rfl

theorem admissible?_rename (q : Lookup) (table : String) (column : Nat) :
    v.admissible? m' (q.rename f) table column = v.admissible? m q table column := by
  funext c
  -- filters and classes are asked as before, and the ties are asked one by one
  have hties : (q.rename f).ties.allM (v.admits? m' table column c) =
      q.ties.allM (v.admits? m table column c) := by
    rw [Lookup.ties_rename, allM_map]
    exact allM_congr fun tie _ => v.admits?_rename h table column c tie
  unfold admissible?
  rw [hties]
  rfl

theorem pick?_rename (q : Lookup) (t : Table) (column : Nat) (s : Keystream) :
    v.pick? q t column s m = v.pick? (q.rename f) t column s m' := by
  rw [pick?, pick?, t.pinned?_rename h, v.admissible?_rename h]

end Vocabulary

end Memories

/-- **Lookups.** A lookup and the renamed one keep step in memories of which one is the other
renamed. -/
theorem Lookup.keeps_rename (v : Vocabulary) (q : Lookup) :
    Keeps (fun m m' => (m.rename f).Same m') v v q (q.rename f) where
  erase_iff := Iff.rfl
  removeAll h := by
    rw [ties_rename]
    exact Memory.removeAll_of_rename h q.ties
  answer h s := by
    refine Vocabulary.related_answer rfl rfl (fun t column => v.pick?_rename h q t column s) h ?_
    intro t index _
    rw [ties_rename]
    exact Memory.recordAll_of_rename h _ q.ties

/-! ## Trees -/

mutual

/-- A tree and the renamed one are of one form. -/
theorem Node.related_rename (f : Renaming) : ∀ node : Node,
    node.Related (fun q q' => q' = q.rename f) (node.rename f)
  | .text location content => by
    rw [Node.rename]
    exact .text location content
  | .sequence _ children => by
    rw [Node.rename]
    exact .sequence (Node.related_renameAll f children)
  | .query _ _ none => by
    rw [Node.rename]
    exact .query rfl .none
  | .query _ _ (some complement) => by
    rw [Node.rename]
    exact .query rfl (.some (Node.related_rename f complement))

theorem Node.related_renameAll (f : Renaming) : ∀ nodes : List Node,
    List.Forall₂ (Node.Related fun q q' => q' = q.rename f) nodes (Node.renameAll f nodes)
  | [] => by
    rw [Node.renameAll]
    exact .nil
  | node :: rest => by
    rw [Node.renameAll]
    exact .cons (Node.related_rename f node) (Node.related_renameAll f rest)

end

/-- **New names.** Give the names of a tree new names, kind by kind, so that different ones stay
different, and run it in a memory that remembers under the new names what another one remembers under
the old ones, with its slots in any order. The same is printed as by the tree in that other memory,
the same random words are left, and what is remembered at the end is again the same under the new
names, and nothing besides. -/
theorem Node.run_rename (f : Renaming) (v : Vocabulary) (catalog : Catalog) (root : Node)
    (s : RunState) {renamed : Memory} (h : (s.memory.rename f).Same renamed) :
    let scene := Scene.ofVocabulary (some v) catalog
    let t := root.run scene s
    let t' := (root.rename f).run scene { s with memory := renamed }
    t.output = t'.output ∧ t.stream = t'.stream ∧ (t.memory.rename f).Same t'.memory := by
  have hkeeps : ∀ {q q' : Lookup}, q' = q.rename f →
      Keeps (fun m m' => (m.rename f).Same m') v v q q' := by
    rintro q _ rfl
    exact q.keeps_rename v
  exact Node.run_related hkeeps (Node.related_rename f root) rfl rfl h

/-- Two names change places: the noun has to have the classes of the verb, the next one is pinned by
the second of its names, and the new memory has its slots in the other order. -/
theorem Node.run_rename_whale :
    let f : Renaming :=
      ⟨fun _ => Equiv.swap "a" "b", fun _ => (Equiv.swap "a" "b").injective⟩
    let root : Node := .sequence .origin
      [.tied "noun" [⟨.associative, "a"⟩], .tied "noun" [⟨.matching, "a"⟩, ⟨.matching, "b"⟩]]
    let s : RunState :=
      ⟨.empty, (Memory.empty.setAnchor ⟨.associative, "a"⟩ ⟨"verb", 0⟩).setAnchor
        ⟨.matching, "b"⟩ ⟨"noun", 2⟩, .ofSeed 0⟩
    let renamed : Memory := (Memory.empty.setAnchor ⟨.matching, "a"⟩ ⟨"noun", 2⟩).setAnchor
      ⟨.associative, "b"⟩ ⟨"verb", 0⟩
    let scene := Scene.ofVocabulary (some menagerie) .english
    let s' : RunState := { s with memory := renamed }
    (s.memory.rename f).Same renamed ∧
      (root.run scene s).output.units = ["cat", "whale"] ∧
      ((root.rename f).run scene s').output.units = ["cat", "whale"] ∧
      (root.run scene s).memory.anchor? ⟨.matching, "a"⟩ = some ⟨"noun", 2⟩ ∧
      ((root.rename f).run scene s').memory.anchor? ⟨.matching, "b"⟩ = some ⟨"noun", 2⟩ := by
  intro f root s renamed scene s'
  have h : (s.memory.rename f).Same renamed := Memory.same_of_perm (.swap ..)
  obtain ⟨houtput, -, hmemory⟩ := Node.run_rename f menagerie .english root s h
  have hunits : (root.run scene s).output.units = ["cat", "whale"] := by decide +kernel
  have hanchor : (root.run scene s).memory.anchor? ⟨.matching, "a"⟩ = some ⟨"noun", 2⟩ := by
    decide +kernel
  have hname : Tie.rename f ⟨.matching, "a"⟩ = ⟨.matching, "b"⟩ := by decide
  refine ⟨h, hunits, ?_, hanchor, ?_⟩
  · rw [← houtput]
    exact hunits
  · rw [← hname, Memory.anchor?_of_rename hmemory]
    exact hanchor

end Wordweave
