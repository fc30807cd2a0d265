import Wordweave.Proofs.Run.Evaluation

/-!
# Wordweave — runs without a vocabulary

Without a vocabulary nothing can be asked, and then nothing is erased either: every query that a run
comes to says that the vocabulary is missing and ends, whether it names a table or not. Its
complement is never begun. So what is printed is the *outline* of the tree, the texts and queries
that stand outside of all complements, read from left to right.

No step does anything to the memory or to the random words (`Machine.kept_step`), so they are as they
were wherever the run is stopped (`Machine.kept_advance`).

Main result:

* `Node.run_without_vocabulary` — such a run prints the outline of its tree and touches nothing else.
-/

namespace Wordweave

/-! ## The outline of a tree -/

mutual

/-- The nodes of a tree that stand outside of all complements, each before those within it. -/
def Node.outer : Node → List Node
  | .text location content => [.text location content]
  | .sequence location children => .sequence location children :: Node.outerAll children
  | .query location lookup complement => [.query location lookup complement]

def Node.outerAll : List Node → List Node
  | [] => []
  | child :: rest => child.outer ++ Node.outerAll rest

end

/-- What a node prints of its own if every query prints the same. -/
def Node.unit? (placeholder : String) : Node → Option String
  | .text _ content => some content
  | .sequence _ _ => none
  | .query _ _ _ => some placeholder

/-- One unit for each text and each query outside of all complements, from left to right. -/
def Node.outline (placeholder : String) (root : Node) : List String :=
  root.outer.filterMap (Node.unit? placeholder)

section Bare

variable (catalog : Catalog)

/-! ## Steps -/

/-- Without a vocabulary a query says so, and this is all it does. -/
theorem Query.weave_without_vocabulary (q : Query) (s : RunState) :
    q.weave (.ofVocabulary none catalog) s =
      (.only [catalog.text Catalog.missingTable], s) := by
  have hmissing : (Scene.ofVocabulary none catalog).hasVocabulary = false := rfl
  rw [Query.weave, hmissing]
  rfl

/-- What a run has besides its output is as it was. -/
def RunState.KeptIn (s t : RunState) : Prop := t.memory = s.memory ∧ t.stream = s.stream

theorem RunState.KeptIn.trans {s t u : RunState} (h : s.KeptIn t) (h' : t.KeptIn u) : s.KeptIn u := by
  obtain ⟨hmemory, hstream⟩ := h
  obtain ⟨hmemory', hstream'⟩ := h'
  exact ⟨hmemory'.trans hmemory, hstream'.trans hstream⟩

theorem RunState.keptIn_printAll (s : RunState) (units : List String) :
    s.KeptIn (s.printAll units) := by
  rw [RunState.printAll_eq_after]
  exact ⟨rfl, rfl⟩

theorem Frame.kept_resume (frame : Frame) (s : RunState) :
    s.KeptIn (frame.resume (.ofVocabulary none catalog) s).2 := by
  cases frame with
  | text location content => exact ⟨rfl, rfl⟩
  | sequence location begun ahead =>
    -- a sequence ends or asks for its next child, and prints nothing
    cases ahead with
    | nil => exact ⟨rfl, rfl⟩
    | cons child ahead => exact ⟨rfl, rfl⟩
  | query location q phase =>
    cases phase with
    | fresh =>
      rw [Frame.resume, Query.weave_without_vocabulary]
      exact s.keptIn_printAll _
    | waiting tail => exact s.keptIn_printAll _

/-- **A step** keeps memory and random words. -/
theorem Machine.kept_step {m next : Machine}
    (h : m.step (.ofVocabulary none catalog) = some next) : m.state.KeptIn next.state := by
  obtain ⟨top, below, -, hnext⟩ := Machine.cases_of_step h
  have hresume := top.kept_resume catalog m.state
  -- whether the frame asks for a child or ends, the state is the one it leaves
  rcases hnext with ⟨frame, child, t, hr, rfl⟩ | ⟨t, hr, rfl⟩
  · rw [hr] at hresume
    exact hresume
  · rw [hr] at hresume
    exact hresume

/-- **Any number of steps** keeps them. -/
theorem Machine.kept_advance (limit : Nat) (m : Machine) :
    m.state.KeptIn (m.advance (.ofVocabulary none catalog) limit).state := by
  induction limit generalizing m with
  | zero => exact ⟨rfl, rfl⟩
  | succ limit ih =>
    rw [Machine.advance]
    cases hstep : m.step (.ofVocabulary none catalog) with
    | none => exact ⟨rfl, rfl⟩
    | some next => exact (Machine.kept_step catalog hstep).trans (ih next)

/-! ## Runs -/

/-- Without a vocabulary every query has the same evaluation, whatever its complement is. -/
theorem Query.eval_without_vocabulary (q : Query)
    (complement : Option (Memory → Keystream → Effect)) :
    q.eval (.ofVocabulary none catalog) complement =
      fun memory stream => ⟨[catalog.text Catalog.missingTable], memory, stream⟩ :=
  rfl

mutual

/-- **A tree** has the units of its outline, and keeps memory and random words. -/
theorem Node.eval_without_vocabulary : ∀ node : Node,
    node.eval (.ofVocabulary none catalog) =
      fun memory stream => ⟨node.outline (catalog.text Catalog.missingTable), memory, stream⟩
  | .text location content => by
    rw [Node.eval, Node.outline, Node.outer]
    rfl
  | .sequence location children => by
    -- the sequence itself prints nothing
    have hown : Node.unit? (catalog.text Catalog.missingTable) (.sequence location children) =
        none := rfl
    rw [Node.eval, Node.outline, Node.outer, List.filterMap_cons, hown]
    exact Node.evalAll_without_vocabulary children
  | .query location lookup complement => by
    rw [Node.eval_query, Query.eval_without_vocabulary, Node.outline, Node.outer]
    rfl

theorem Node.evalAll_without_vocabulary : ∀ nodes : List Node,
    Node.evalAll (.ofVocabulary none catalog) nodes = fun memory stream =>
      ⟨(Node.outerAll nodes).filterMap (Node.unit? (catalog.text Catalog.missingTable)),
        memory, stream⟩
  | [] => by
    rw [Node.evalAll, Node.outerAll]
    rfl
  | node :: rest => by
    rw [Node.evalAll, Node.outerAll, List.filterMap_append, Node.eval_without_vocabulary node,
      Node.evalAll_without_vocabulary rest]
    rfl

end

/-- **Runs without a vocabulary.** Stop such a run after any number of steps: what is remembered, and
the random words that are left, are what they were at the beginning. At the end the outline of the
tree has been printed, with the message of the catalog in place of every query; nothing that stands
in a complement has a part in it. -/
theorem Node.run_without_vocabulary (catalog : Catalog) (root : Node) (s : RunState) :
    let scene := Scene.ofVocabulary none catalog
    let t := root.run scene s
    (∀ limit, s.KeptIn ((Machine.ofNode root s).advance scene limit).state) ∧
    t.memory = s.memory ∧ t.stream = s.stream ∧
    t.output.units = s.output.units ++ root.outline (catalog.text Catalog.missingTable) := by
  intro scene t
  have hkept : ∀ limit, s.KeptIn ((Machine.ofNode root s).advance scene limit).state := by
    intro limit
    exact Machine.kept_advance catalog limit (Machine.ofNode root s)
  -- the end of the run is one of the places where it can be stopped
  obtain ⟨hmemory, hstream⟩ := hkept (Machine.ofNode root s).stepsLeft
  have hunits : t.output.units = s.output.units ++ (root.eval scene s.memory s.stream).units :=
    (run_eq_eval scene root s).2.1
  rw [Node.eval_without_vocabulary] at hunits
  exact ⟨hkept, hmemory, hstream, hunits⟩

/-- A query for a table, one that erases, and the texts around them: both queries say the same, and
their complements say nothing. -/
example :
    let word (content : String) : Node := .text .origin content
    let erase : Lookup := { Lookup.blank with carrier := some (Carrier.empty.add ⟨.unique, "u"⟩) }
    let root : Node := .sequence .origin [word "a",
      .query .origin { Lookup.blank with name := some "noun" } (some (word "b")),
      .sequence .origin [.query .origin erase (some (word "c")), word "d"]]
    (root.run (.ofVocabulary none .english) (.start 0)).output.units =
      ["a", "[Missing vocabulary]", "[Missing vocabulary]", "d"] := by
  decide +kernel

end Bare

end Wordweave
