import Wordweave.Proofs.Run.Journal
import Wordweave.Proofs.Vocabulary.Order

/-!
# Wordweave — erasing

A query that names no table asks nothing. It forgets what is remembered under its ties, and that is
all it does: it takes one step, in which its frame is taken off the stack, so its complement never
gets a frame of its own, and whatever the resolver would answer is of no account.

The ties are gone through kind by kind and name by name. A name that comes twice, or a kind without
names, makes no difference, because what is left are the slots of the ties that the carrier does not
name, in the order in which they were (`Memory.slots_removeAll`). So it does not matter how often a
tie is forgotten, nor in which order several are.

Main result:

* `Node.run_erasing` — what an erasing query leaves of the memory, and that it changes nothing else.
-/

namespace Wordweave

/-! ## Ties that are named -/

/-- A lookup names a tie if it has a carrier in which the name is listed under the kind. -/
def Lookup.Names (q : Lookup) (tie : Tie) : Prop :=
  ∃ c, q.carrier = some c ∧ tie.name ∈ c.names tie.kind

theorem Lookup.mem_ties_iff {q : Lookup} {tie : Tie} : tie ∈ q.ties ↔ q.Names tie := by
  unfold ties Names
  cases q.carrier with
  | none => simp
  | some c => simp [Carrier.mem_ties]

/-! ## Ties that are forgotten -/

namespace Memory

/-- What has been forgotten is not there to be forgotten again. -/
theorem removeAll_removeAll (m : Memory) (ties : List Tie) :
    (m.removeAll ties).removeAll ties = m.removeAll ties := by
  refine eq_of_slots ?_
  rw [slots_removeAll, slots_removeAll, List.filter_filter]
  refine List.filter_congr fun slot _ => ?_
  rw [Bool.and_self]

/-- Ties are forgotten in any order. -/
theorem removeAll_comm (m : Memory) (ties others : List Tie) :
    (m.removeAll ties).removeAll others = (m.removeAll others).removeAll ties := by
  refine eq_of_slots ?_
  rw [slots_removeAll, slots_removeAll, slots_removeAll, slots_removeAll, List.filter_filter,
    List.filter_filter]
  refine List.filter_congr fun slot _ => ?_
  exact Bool.and_comm _ _

end Memory

/-! ## Queries that erase -/

/-- The state in which the ties of a lookup have been forgotten, and nothing else has changed. -/
def RunState.forget (s : RunState) (q : Lookup) : RunState :=
  { s with memory := s.memory.removeAll q.ties }

section Erasing

variable {scene : Scene} (hscene : scene.hasVocabulary) {q : Lookup} (hq : q.isErase)
  (location : Location) (complement : Option Node) (s : RunState)

include hscene hq

/-- An erasing query is done in one step, whatever it has for a complement and whatever frames are
below it. -/
theorem Machine.step_erase (below : List Frame) :
    Machine.step scene ⟨.ofNode (.query location q complement) :: below, s⟩ =
      some ⟨below, s.forget q⟩ := by
  have hweave : Query.weave ⟨q, complement⟩ scene s = (.only [], s.forget q) := by
    rw [Query.weave, if_pos hscene, if_pos hq]
    rfl
  have hresume : (Frame.ofNode (.query location q complement)).resume scene s =
      (.done, s.forget q) := by
    rw [Frame.ofNode, Frame.resume, hweave]
    rfl
  simp only [step, hresume]

/-- A run of an erasing query forgets its ties. -/
theorem Node.run_erase :
    (Node.query location q complement).run scene s = s.forget q := by
  have hstep := Machine.step_erase hscene hq location complement s []
  -- the machine has no frame left after the step, so its state is the outcome
  have hfinish := Machine.finish_step hstep
  rw [Node.run, Machine.run, Machine.advance_eq (Nat.le_refl _)]
  exact hfinish.symm

end Erasing

/-- **Erasing.** Run a query that names no table, where there is a vocabulary. Nothing is remembered
under the ties that its carrier names, and what is remembered under all others has not changed.
Nothing is printed and no random word is drawn. On any stack it takes a single step, and leaves the
frames below as they are; so its complement is not run, and neither another complement nor another
resolver makes a difference. To run it again changes nothing, and of two such queries either may be
the first. -/
theorem Node.run_erasing {scene : Scene} (hscene : scene.hasVocabulary) {q : Lookup}
    (hq : q.isErase) (location : Location) (complement : Option Node) (s : RunState) :
    let node := Node.query location q complement
    let erased := node.run scene s
    (∀ tie, q.Names tie → erased.memory.get? tie = none) ∧
    (∀ tie, ¬ q.Names tie → erased.memory.get? tie = s.memory.get? tie) ∧
    erased.output = s.output ∧ erased.stream = s.stream ∧
    (∀ below, Machine.step scene ⟨.ofNode node :: below, s⟩ = some ⟨below, erased⟩) ∧
    (∀ (scene' : Scene) (complement' : Option Node), scene'.hasVocabulary →
      (Node.query location q complement').run scene' s = erased) ∧
    node.run scene erased = erased ∧
    ∀ (q' : Lookup) (location' : Location) (complement' : Option Node), q'.isErase →
      let node' := Node.query location' q' complement'
      node'.run scene erased = node.run scene (node'.run scene s) := by
  intro node erased
  have herased : erased = s.forget q := Node.run_erase hscene hq location complement s
  have hmemory : erased.memory = s.memory.removeAll q.ties := by rw [herased, RunState.forget]
  refine ⟨?_, ?_, ?_, ?_, ?_, ?_, ?_, ?_⟩
  · intro tie htie
    rw [hmemory, Memory.get?_removeAll, if_pos (Lookup.mem_ties_iff.mpr htie)]
  · intro tie htie
    rw [hmemory, Memory.get?_removeAll, if_neg fun hmem => htie (Lookup.mem_ties_iff.mp hmem)]
  · rw [herased, RunState.forget]
  · rw [herased, RunState.forget]
  · intro below
    rw [herased]
    exact Machine.step_erase hscene hq location complement s below
  · intro scene' complement' hscene'
    rw [herased]
    exact Node.run_erase hscene' hq location complement' s
  · have hagain : node.run scene erased = erased.forget q :=
      Node.run_erase hscene hq location complement erased
    rw [hagain, herased, RunState.forget, RunState.forget, Memory.removeAll_removeAll]
  · intro q' location' complement' hq' node'
    have hother (t : RunState) : node'.run scene t = t.forget q' :=
      Node.run_erase hscene hq' location' complement' t
    have hnode (t : RunState) : node.run scene t = t.forget q :=
      Node.run_erase hscene hq location complement t
    rw [herased, hother, hother, hnode, RunState.forget, RunState.forget, RunState.forget,
      RunState.forget, Memory.removeAll_comm]

/-- The names `x` and `y` are remembered under two kinds each, and erased under one. The carrier was
written out with `x` twice and with a kind that has no names. -/
theorem Node.run_erasing_x_and_y :
    let carrier := ((Carrier.empty.set .matching ["x", "x"]).set .rhyme ["y"]).set .unique []
    let q : Lookup := { Lookup.blank with carrier := some carrier, subtype := some "many" }
    let memory := ((((Memory.empty.setAnchor ⟨.matching, "x"⟩ ⟨"noun", 0⟩).setAnchor
      ⟨.rhyme, "y"⟩ ⟨"noun", 1⟩).setAnchor ⟨.matching, "y"⟩ ⟨"verb", 0⟩).markUsed
      ⟨.unique, "x"⟩ ⟨"noun", 2⟩)
    let s : RunState := ⟨.empty, memory, .ofSeed 0⟩
    let erased := (Node.query .origin q (some (.text .origin "never"))).run
      (.ofVocabulary (some menagerie) .english) s
    erased.memory.get? ⟨.matching, "x"⟩ = none ∧ erased.memory.get? ⟨.rhyme, "y"⟩ = none ∧
      erased.memory.get? ⟨.matching, "y"⟩ = some (.anchor ⟨"verb", 0⟩) ∧
      erased.memory.get? ⟨.unique, "x"⟩ = some (.used [⟨"noun", 2⟩]) ∧
      erased.output.units = [] ∧ erased.stream = s.stream := by
  intro carrier q memory s erased
  have hscene : (Scene.ofVocabulary (some menagerie) .english).hasVocabulary := rfl
  have hq : q.isErase := rfl
  obtain ⟨hnamed, hothers, houtput, hstream, -⟩ :=
    Node.run_erasing hscene hq .origin (some (.text .origin "never")) s
  have hnames (tie : Tie) : q.Names tie ↔ tie ∈ q.ties := Lookup.mem_ties_iff.symm
  refine ⟨hnamed _ ?_, hnamed _ ?_, ?_, ?_, ?_, hstream⟩
  · rw [hnames]
    decide
  · rw [hnames]
    decide
  · have hkept : ¬ q.Names ⟨.matching, "y"⟩ := by
      rw [hnames]
      decide
    rw [show erased.memory.get? _ = _ from hothers _ hkept]
    decide
  · have hkept : ¬ q.Names ⟨.unique, "x"⟩ := by
      rw [hnames]
      decide
    rw [show erased.memory.get? _ = _ from hothers _ hkept]
    decide
  · rw [show erased.output = s.output from houtput]
    rfl

end Wordweave
