import Wordweave.Run.Machine

/-!
# Wordweave — trees run as they are read

What a tree says can be told without a machine: a text prints itself, the children of a sequence
come one after the other, and a query asks its resolver once and puts the units of its complement
into the phrase of the term. `Node.eval` says so by recursion on the tree. It does not see what was
printed before; it gives the units that are added, and the memory and the random words that are
left.

The machine does the same with a stack. Every frame stands for work that is still to be done, and
`Machine.finish` does the work of all of them by recursion. A step never changes what `finish` gives
(`finish_step`) and takes work away (`stepsLeft_step`), so a machine that makes as many steps as
`stepsLeft` counts has no frame left and has come to the state that `finish` gives (`advance_eq`).

Main results:

* `Node.run_eq_after` — a run adds the effect of its tree to the state.
* `run_eq_eval` — a run ends, and it adds to its state just what the evaluation of the tree says.
-/

namespace Wordweave

/-! ## Evaluation -/

/-- What evaluating a tree gives: the units it prints, in order, and what it leaves of the memory
and of the random words. -/
structure Effect where
  units : List String
  memory : Memory
  stream : Keystream

/-- The units of a term, with those of its complement if there is one. A seam at the beginning puts
the complement in front, a seam at the end behind, any other one into the seam. -/
def Term.phrase (t : Term) (complement : Option (List String)) : List String :=
  match t.seam, complement with
  | none, none => [t.value]
  | none, some units => [t.value, " "] ++ units
  | some _, none => [t.left, " ", t.right]
  | some 0, some units => units ++ [" ", t.value]
  | some seam, some units =>
    if seam = t.length then [t.value, " "] ++ units
    else [t.left, " "] ++ units ++ [" ", t.right]

/-- The evaluation of a query, given that of its complement. The resolver is asked before the
complement is evaluated; where it has no answer the complement is not evaluated at all. -/
def Query.eval (scene : Scene) (q : Query) (complement : Option (Memory → Keystream → Effect))
    (memory : Memory) (stream : Keystream) : Effect :=
  match scene.resolver? with
  | none => ⟨[scene.catalog.text Catalog.missingTable], memory, stream⟩
  | some resolver =>
    if q.name = none then ⟨[], memory.removeAll q.ties, stream⟩
    else
      match resolver q stream memory, complement with
      | ⟨none, stream, memory⟩, _ => ⟨["[No Match]"], memory, stream⟩
      | ⟨some term, stream, memory⟩, none => ⟨term.phrase none, memory, stream⟩
      | ⟨some term, stream, memory⟩, some evaluate =>
        let inner := evaluate memory stream
        ⟨term.phrase (some inner.units), inner.memory, inner.stream⟩

mutual

/-- The evaluation of a tree in a scene. -/
def Node.eval (scene : Scene) : Node → Memory → Keystream → Effect
  | .text _ content => fun memory stream => ⟨[content], memory, stream⟩
  | .sequence _ children => Node.evalAll scene children
  | .query _ lookup none => Query.eval scene ⟨lookup, none⟩ none
  | .query _ lookup (some complement) =>
    Query.eval scene ⟨lookup, some complement⟩ (some (complement.eval scene))

/-- The evaluation of several trees, each in the memory and with the random words that the one
before it has left. -/
def Node.evalAll (scene : Scene) : List Node → Memory → Keystream → Effect
  | [] => fun memory stream => ⟨[], memory, stream⟩
  | child :: rest => fun memory stream =>
    let first := child.eval scene memory stream
    let others := Node.evalAll scene rest first.memory first.stream
    ⟨first.units ++ others.units, others.memory, others.stream⟩

end

/-- The evaluation of a query, with its complement's. -/
theorem Node.eval_query (scene : Scene) (location : Location) (lookup : Lookup)
    (complement : Option Node) :
    (Node.query location lookup complement).eval scene =
      Query.eval scene ⟨lookup, complement⟩ (complement.map (·.eval scene)) := by
  cases complement with
  | none => rw [Node.eval, Option.map_none]
  | some complement => rw [Node.eval, Option.map_some]

namespace RunState

/-- The state after an effect: the units come after those that are there. -/
def after (s : RunState) (e : Effect) : RunState :=
  ⟨⟨e.units.reverse ++ s.output.newestFirst⟩, e.memory, e.stream⟩

@[simp] theorem memory_after (s : RunState) (e : Effect) : (s.after e).memory = e.memory := rfl

@[simp] theorem stream_after (s : RunState) (e : Effect) : (s.after e).stream = e.stream := rfl

/-- Units that have been printed stay as they are. -/
theorem units_after (s : RunState) (e : Effect) :
    (s.after e).output.units = s.output.units ++ e.units := by
  simp [after, Output.units]

/-- Printing several units keeps memory and random words. -/
theorem printAll_eq_after (s : RunState) (units : List String) :
    s.printAll units = s.after ⟨units, s.memory, s.stream⟩ := by
  induction units generalizing s with
  | nil => simp [printAll, after]
  | cons unit units ih =>
    rw [show s.printAll (unit :: units) = (s.print unit).printAll units from rfl, ih]
    simp [after, print, Output.print]

/-- Two effects one after the other. -/
theorem after_after (s : RunState) (e f : Effect) :
    (s.after e).after f = s.after ⟨e.units ++ f.units, f.memory, f.stream⟩ := by
  simp [after]

end RunState

/-! ## What is left for a machine to do -/

/-- Does the rest of a frame's work by recursion. -/
def Frame.finish (scene : Scene) (s : RunState) : Frame → RunState
  | .text _ content => s.print content
  | .sequence _ _ ahead => s.after (Node.evalAll scene ahead s.memory s.stream)
  | .query _ q .fresh =>
    s.after (q.eval scene (q.complement.map (·.eval scene)) s.memory s.stream)
  | .query _ _ (.waiting tail) => s.printAll (afterComplement tail)

/-- Does the rest of the work of all frames by recursion, the top one first. -/
def Machine.finish (scene : Scene) (m : Machine) : RunState :=
  m.frames.foldl (Frame.finish scene) m.state

/-- A frame that has just begun has the whole evaluation of its node to do. -/
theorem Frame.finish_ofNode (scene : Scene) (s : RunState) (node : Node) :
    (Frame.ofNode node).finish scene s = s.after (node.eval scene s.memory s.stream) := by
  cases node with
  | text location content =>
    rw [Node.eval]
    rfl
  | sequence location children =>
    rw [Node.eval]
    rfl
  | query location lookup complement =>
    rw [Node.eval_query]
    rfl

/-! ## Phrases and parts of phrases -/

/-- Without a complement, a term prints its phrase. -/
theorem Term.alone_eq_phrase (t : Term) : t.alone = t.phrase none := by
  unfold Term.alone Term.phrase Term.isSplit
  cases h : t.seam with
  | none =>
    have hleft : t.left = t.value := by
      unfold Term.left Term.halves Term.halves?
      rw [h]
      rfl
    simp [hleft]
  | some seam =>
    simp [gap]

/-- With a complement, what is printed before it and after it makes up the phrase. -/
theorem Term.around_eq_phrase (t : Term) (units : List String) :
    t.around.before ++ units ++ afterComplement t.around.tail = t.phrase (some units) := by
  unfold Term.around Term.phrase
  cases h : t.seam with
  | none => simp [gap, afterComplement]
  | some seam =>
    cases seam with
    | zero => simp [gap, afterComplement]
    | succ seam =>
      -- the seam is not at the beginning, so only its being at the end matters
      simp only [Nat.add_eq_zero_iff, Nat.one_ne_zero, and_false, if_false]
      by_cases hend : seam + 1 = t.length
      · rw [if_pos hend, if_pos hend]
        simp [gap, afterComplement]
      · rw [if_neg hend, if_neg hend]
        simp [gap, afterComplement]

/-! ## Steps -/

/-- Does by recursion what a query says it does. -/
def Weave.finish (scene : Scene) (s : RunState) : Weave → RunState
  | .only units => s.printAll units
  | .around woven complement =>
    ((s.printAll woven.before).after (complement.eval scene s.memory s.stream)).printAll
      (afterComplement woven.tail)

/-- A query does what its evaluation says. -/
theorem Query.finish_weave (scene : Scene) (q : Query) (s : RunState) :
    (q.weave scene s).1.finish scene (q.weave scene s).2 =
      s.after (q.eval scene (q.complement.map (·.eval scene)) s.memory s.stream) := by
  unfold Query.weave Scene.hasVocabulary Lookup.isErase Scene.resolve Query.eval
  cases hr : scene.resolver? with
  | none => simp [Weave.finish, RunState.printAll_eq_after]
  | some resolver =>
    cases hn : q.name with
    | none => simp [Weave.finish, RunState.printAll, RunState.after]
    | some name =>
      -- the answer decides what is printed, and whether the complement is run
      cases ha : resolver q s.stream s.memory with
      | mk term stream memory =>
        cases term with
        | none => simp [ha, Weave.finish, RunState.printAll_eq_after, RunState.after, noMatch]
        | some term =>
          cases hc : q.complement with
          | none =>
            simp [ha, Weave.finish, RunState.printAll_eq_after, RunState.after,
              Term.alone_eq_phrase]
          | some inner =>
            have hphrase := Term.around_eq_phrase term (inner.eval scene memory stream).units
            simp [ha, Weave.finish, RunState.printAll_eq_after, RunState.after, ← hphrase]

/-- A query asks for no other tree than its complement. -/
theorem Query.complement_of_around {scene : Scene} {q : Query} {s t : RunState} {woven : Woven}
    {complement : Node} (h : q.weave scene s = (.around woven complement, t)) :
    q.complement = some complement := by
  unfold Query.weave at h
  split at h
  · split at h
    · simp at h
    · split at h <;> simp_all
  · simp at h

/-- A frame that ends has done its work. -/
theorem Frame.finish_of_done {scene : Scene} {frame : Frame} {s t : RunState}
    (h : frame.resume scene s = (.done, t)) : frame.finish scene s = t := by
  cases frame with
  | text location content => simpa [Frame.resume, Frame.finish] using h
  | sequence location begun ahead =>
    cases ahead with
    | nil =>
      obtain rfl : s = t := by simpa [Frame.resume] using h
      simp [Frame.finish, Node.evalAll, RunState.after]
    | cons child ahead => simp [Frame.resume] at h
  | query location q phase =>
    cases phase with
    | fresh =>
      rcases hw : q.weave scene s with ⟨units | ⟨woven, complement⟩, u⟩
      · obtain rfl : u.printAll units = t := by simpa [Frame.resume, hw] using h
        rw [Frame.finish, ← Query.finish_weave, hw]
        rfl
      · simp [Frame.resume, hw] at h
    | waiting tail => simpa [Frame.resume, Frame.finish] using h

/-- A child is asked for by a sequence that has one ahead, or by a query that begins, for its
complement. -/
theorem Frame.cases_of_yield {scene : Scene} {frame resumed : Frame} {child : Node}
    {s t : RunState} (h : frame.resume scene s = (.yield resumed child, t)) :
    (∃ location begun ahead, frame = .sequence location begun (child :: ahead) ∧
      resumed = .sequence location (child :: begun) ahead ∧ t = s) ∨
    ∃ location q woven u, frame = .query location q .fresh ∧
      q.weave scene s = (.around woven child, u) ∧
      resumed = .query location q (.waiting woven.tail) ∧ t = u.printAll woven.before := by
  cases frame with
  | text location content => simp [resume] at h
  | sequence location begun ahead =>
    cases ahead with
    | nil => simp [resume] at h
    | cons next ahead =>
      obtain ⟨⟨rfl, rfl⟩, rfl⟩ : (Frame.sequence location (next :: begun) ahead = resumed ∧
          next = child) ∧ s = t := by simpa [resume] using h
      exact .inl ⟨location, begun, ahead, rfl, rfl, rfl⟩
  | query location q phase =>
    cases phase with
    | fresh =>
      rcases hw : q.weave scene s with ⟨units | ⟨woven, complement⟩, u⟩
      · simp [resume, hw] at h
      · obtain ⟨⟨rfl, rfl⟩, rfl⟩ : (Frame.query location q (.waiting woven.tail) = resumed ∧
            complement = child) ∧ u.printAll woven.before = t := by simpa [resume, hw] using h
        exact .inr ⟨location, q, woven, u, rfl, hw, rfl, rfl⟩
    | waiting tail => simp [resume] at h

/-- A frame that asks for a child has as much left to do as before, once the child is done. -/
theorem Frame.finish_of_yield {scene : Scene} {frame resumed : Frame} {child : Node}
    {s t : RunState} (h : frame.resume scene s = (.yield resumed child, t)) :
    frame.finish scene s = resumed.finish scene ((Frame.ofNode child).finish scene t) := by
  rw [Frame.finish_ofNode]
  obtain ⟨location, begun, ahead, rfl, rfl, rfl⟩ | ⟨location, q, woven, u, rfl, hw, rfl, rfl⟩ :=
    cases_of_yield h
  · simp only [Frame.finish, Node.evalAll, RunState.after_after, RunState.memory_after,
      RunState.stream_after]
  · -- what is printed before the complement keeps memory and random words
    have hkeep := RunState.printAll_eq_after u woven.before
    have hmemory : (u.printAll woven.before).memory = u.memory := by rw [hkeep]; rfl
    have hstream : (u.printAll woven.before).stream = u.stream := by rw [hkeep]; rfl
    rw [hmemory, hstream, Frame.finish, ← Query.finish_weave, hw]
    rfl

/-- Every frame takes a step. -/
theorem Frame.stepsLeft_pos (frame : Frame) : 0 < frame.stepsLeft := by
  cases frame with
  | text location content => simp [stepsLeft]
  | sequence location begun ahead =>
    rw [stepsLeft]
    omega
  | query location q phase =>
    cases phase with
    | fresh =>
      rw [stepsLeft]
      omega
    | waiting tail => simp [stepsLeft]

/-- A frame that is about to begin takes two steps for each node of its tree, less one. -/
theorem Frame.stepsLeft_ofNode (node : Node) :
    (Frame.ofNode node).stepsLeft + 1 = 2 * node.size := by
  rcases node with _ | _ | ⟨_, _, _ | complement⟩ <;>
    simp only [ofNode, stepsLeft, Node.size, Option.elim_none, Option.elim_some] <;> omega

/-- A frame that asks for a child takes a step to do so. -/
theorem Frame.stepsLeft_of_yield {scene : Scene} {frame resumed : Frame} {child : Node}
    {s t : RunState} (h : frame.resume scene s = (.yield resumed child, t)) :
    (Frame.ofNode child).stepsLeft + resumed.stepsLeft + 1 = frame.stepsLeft := by
  have hchild := Frame.stepsLeft_ofNode child
  obtain ⟨location, begun, ahead, rfl, rfl, rfl⟩ | ⟨location, q, woven, u, rfl, hw, rfl, rfl⟩ :=
    cases_of_yield h
  · rw [stepsLeft, stepsLeft, Node.sizeAll]
    omega
  · rw [stepsLeft, stepsLeft, Query.complement_of_around hw, Option.elim_some]
    omega

namespace Machine

/-- A step resumes the frame on top. It puts the frame of a child above it, or takes it off. -/
theorem cases_of_step {scene : Scene} {m next : Machine} (h : m.step scene = some next) :
    ∃ top below, m.frames = top :: below ∧
      ((∃ frame child t, top.resume scene m.state = (.yield frame child, t) ∧
          next = ⟨.ofNode child :: frame :: below, t⟩) ∨
        ∃ t, top.resume scene m.state = (.done, t) ∧ next = ⟨below, t⟩) := by
  obtain ⟨frames, s⟩ := m
  cases frames with
  | nil => simp [step] at h
  | cons top below =>
    refine ⟨top, below, rfl, ?_⟩
    simp only [step] at h
    split at h
    · next frame child t hr => exact .inl ⟨frame, child, t, hr, (Option.some.inj h).symm⟩
    · next t hr => exact .inr ⟨t, hr, (Option.some.inj h).symm⟩

/-- A step leaves the outcome as it is. -/
theorem finish_step {scene : Scene} {m next : Machine} (h : m.step scene = some next) :
    next.finish scene = m.finish scene := by
  obtain ⟨top, below, hframes, ⟨frame, child, t, hr, rfl⟩ | ⟨t, hr, rfl⟩⟩ := cases_of_step h
  · simp only [finish, hframes, List.foldl_cons, Frame.finish_of_yield hr]
  · simp only [finish, hframes, List.foldl_cons, Frame.finish_of_done hr]

/-- A step takes work away. -/
theorem stepsLeft_step {scene : Scene} {m next : Machine} (h : m.step scene = some next) :
    next.stepsLeft < m.stepsLeft := by
  obtain ⟨top, below, hframes, ⟨frame, child, t, hr, rfl⟩ | ⟨t, hr, rfl⟩⟩ := cases_of_step h
  · have hyield := Frame.stepsLeft_of_yield hr
    simp only [stepsLeft, hframes, List.foldr_cons]
    omega
  · have hpos := Frame.stepsLeft_pos top
    simp only [stepsLeft, hframes, List.foldr_cons]
    omega

/-- A machine ends just when no frame is left. -/
theorem step_eq_none_iff {scene : Scene} {m : Machine} : m.step scene = none ↔ m.frames = [] := by
  obtain ⟨frames, s⟩ := m
  cases frames with
  | nil => simp [step]
  | cons top below =>
    simp only [step, reduceCtorEq, iff_false]
    split <;> simp

/-- As many steps as are left do all the work. -/
theorem advance_eq {scene : Scene} {limit : Nat} {m : Machine} (h : m.stepsLeft ≤ limit) :
    m.advance scene limit = ⟨[], m.finish scene⟩ := by
  induction limit generalizing m with
  | zero =>
    obtain ⟨frames, s⟩ := m
    cases frames with
    | nil => rfl
    | cons top below =>
      have hpos := Frame.stepsLeft_pos top
      simp only [stepsLeft, List.foldr_cons] at h
      omega
  | succ limit ih =>
    rw [advance]
    cases hs : m.step scene with
    | none =>
      obtain ⟨frames, s⟩ := m
      obtain rfl : frames = [] := step_eq_none_iff.mp hs
      rfl
    | some next =>
      have hless := stepsLeft_step hs
      rw [← finish_step hs]
      exact ih (by omega)

end Machine

/-- A run adds the effect of its tree to the state. -/
theorem Node.run_eq_after (scene : Scene) (root : Node) (s : RunState) :
    root.run scene s = s.after (root.eval scene s.memory s.stream) := by
  rw [Node.run, Machine.run, Machine.advance_eq (Nat.le_refl _)]
  exact Frame.finish_ofNode scene s root

/-- **Runs are evaluations.** With no bound on the number of steps, or with a larger one than there
need be, the machine of a tree comes to a state without frames. What has been printed then is what
was printed before and the units of the evaluation, and the memory and the random words are those
that the evaluation leaves. -/
theorem run_eq_eval (scene : Scene) (root : Node) (s : RunState) :
    (∀ extra, (Machine.ofNode root s).advance scene ((Machine.ofNode root s).stepsLeft + extra) =
      ⟨[], root.run scene s⟩) ∧
    (root.run scene s).output.units =
      s.output.units ++ (root.eval scene s.memory s.stream).units ∧
    (root.run scene s).memory = (root.eval scene s.memory s.stream).memory ∧
    (root.run scene s).stream = (root.eval scene s.memory s.stream).stream := by
  have hrun := root.run_eq_after scene s
  refine ⟨?_, ?_, ?_, ?_⟩
  · intro extra
    rw [Machine.advance_eq (Nat.le_add_right ..), hrun]
    exact congrArg _ (Frame.finish_ofNode scene s root)
  · rw [hrun, RunState.units_after]
  · rw [hrun, RunState.memory_after]
  · rw [hrun, RunState.stream_after]

end Wordweave
