import Wordweave.Proofs.Wire.Codec
import Wordweave.Wire.NodeWriter

/-!
# Wordweave — trees in preorder

The bytes of a tree are its header, its fields and the bytes of its children in order (`encode`).
The writer that runs keeps nodes under way on a stack. A node under way has bytes that it will still
write (`WriteFrame.pending`), and so has the whole stack, the innermost node first. A step keeps
what is written and pending together (`WriteState.finish`), and leaves less to resume
(`WriteState.work`), so the bound on the resumptions is never met.

Main results:

* `WriteState.step_spec`  — what a step keeps, and what it uses up.
* `writeNode_eq_encode`   — the writer with the stack gives the bytes of the tree in preorder, or
  the first error among them.
-/

namespace Wordweave.Wire

/-! ## Preorder -/

mutual

/-- The bytes of a tree. -/
def encode : Node → Except Error Bytes
  | .text location text => do
    return writeHeader (.text location text) ++ (← writeText text)
  | .sequence location children => do
    let count ← writeLength children.length
    return writeHeader (.sequence location children) ++ (count ++ (← encodeAll children))
  | .query location lookup complement => do
    let fields ← writeLookup lookup
    return writeHeader (.query location lookup complement) ++ (fields ++ (← encode? complement))

/-- The bytes of trees in order. -/
def encodeAll : List Node → Except Error Bytes
  | [] => return []
  | child :: rest => do
    let first ← encode child
    return first ++ (← encodeAll rest)

/-- The bytes of a tree that may be absent. -/
def encode? : Option Node → Except Error Bytes
  | none => return writeHeader? none
  | some node => encode node

end

/-! ## What is left to write -/

namespace WriteFrame

/-- What a node under way will still write. -/
def pending : WriteFrame → Except Error Bytes
  | ⟨.text _ text, _⟩ => writeText text
  | ⟨.sequence _ children, step⟩ =>
    (if step = 0 then writeLength children.length else pure []) >>= fun count => do
      return count ++ (← encodeAll (children.drop step))
  | ⟨.query _ lookup complement, 0⟩ => do
    let fields ← writeLookup lookup
    return fields ++ (← encode? complement)
  | ⟨.query _ _ _, _ + 1⟩ => return []

/-- A bound on how often the nodes under a node and the node itself will be resumed. -/
def work : WriteFrame → Nat
  | ⟨.text _ _, _⟩ => 1
  | ⟨.sequence _ children, step⟩ => 1 + 3 * Node.sizeAll (children.drop step)
  | ⟨.query _ _ complement, 0⟩ => 2 + 3 * (complement.map Node.size).getD 0
  | ⟨.query _ _ _, _ + 1⟩ => 1

/-- Every node under way is resumed once more. -/
theorem work_pos (frame : WriteFrame) : 0 < frame.work := by
  unfold work
  split <;> omega

/-- A node that begins is resumed less often than three times for each node of its tree. -/
theorem work_begin (node : Node) : work ⟨node, 0⟩ < 3 * node.size := by
  cases node with
  | text location text =>
    show 1 < 3 * 1
    decide
  | sequence location children =>
    simp only [work, Node.size, List.drop_zero]
    omega
  | query location lookup complement =>
    cases complement with
    | none =>
      show 2 < 3 * 1
      decide
    | some complement =>
      simp only [work, Node.size, Option.map_some, Option.getD_some]
      omega

/-- A tree is a header and what its node will write. -/
theorem encode_eq_pending (node : Node) :
    encode node = do return writeHeader node ++ (← pending ⟨node, 0⟩) := by
  cases node with
  | text location text => rfl
  | sequence location children => simp [encode, pending]
  | query location lookup complement => simp [encode, pending]

end WriteFrame

/-- What a node will write once it has been resumed. -/
def WriteFlow.pending (resumed : WriteFrame) : WriteFlow → Except Error Bytes
  | .done bytes => return bytes
  | .child bytes node => do
    let below ← encode? node
    return bytes ++ (below ++ (← resumed.pending))

/-- How often nodes will be resumed after a node has been. -/
def WriteFlow.work (resumed : WriteFrame) : WriteFlow → Nat
  | .done _ => 0
  | .child _ node => (node.map fun node => WriteFrame.work ⟨node, 0⟩).getD 0 + resumed.work

namespace WriteFrame

/-- A node resumed once more. -/
def resumed (frame : WriteFrame) : WriteFrame := { frame with step := frame.step + 1 }

/-- A sequence counts its children before the first one. -/
theorem resume_sequence (location : Location) (children : List Node) (step : Nat) :
    resume ⟨.sequence location children, step⟩ =
      (if step = 0 then writeLength children.length else pure []) >>= fun count =>
        pure (childAt count children step) := by
  cases step <;> rfl

/-- A sequence will write its next child and then those after it. -/
theorem pending_childAt (location : Location) (children : List Node) (step : Nat) (count : Bytes) :
    (childAt count children step).pending (resumed ⟨.sequence location children, step⟩) = do
      return count ++ (← encodeAll (children.drop step)) := by
  unfold childAt
  cases hchild : children[step]? with
  | none =>
    have hdrop : children.drop step = [] :=
      List.drop_eq_nil_of_le (List.getElem?_eq_none_iff.mp hchild)
    simp [hdrop, encodeAll, WriteFlow.pending]
  | some child =>
    obtain ⟨hstep, rfl⟩ := List.getElem?_eq_some_iff.mp hchild
    rw [List.drop_eq_getElem_cons hstep]
    -- after the first child no count is written
    simp [encodeAll, encode?, WriteFlow.pending, resumed, pending]

/-- Resuming a node keeps what it will write. -/
theorem pending_resume (frame : WriteFrame) :
    frame.pending = frame.resume >>= WriteFlow.pending frame.resumed := by
  obtain ⟨node, step⟩ := frame
  cases node with
  | text location text => simp [pending, resume, WriteFlow.pending]
  | sequence location children =>
    simp only [pending, resume_sequence, bind_assoc, pure_bind]
    congr 1
    funext count
    rw [pending_childAt]
  | query location lookup complement =>
    cases step with
    | zero => simp [pending, resume, WriteFlow.pending, resumed]
    | succ step => rfl

/-- A sequence has less to resume once it has begun its next child. -/
theorem work_childAt (location : Location) (children : List Node) (step : Nat) (count : Bytes) :
    (childAt count children step).work (resumed ⟨.sequence location children, step⟩) <
      work ⟨.sequence location children, step⟩ := by
  unfold childAt
  cases hchild : children[step]? with
  | none => exact work_pos _
  | some child =>
    obtain ⟨hstep, rfl⟩ := List.getElem?_eq_some_iff.mp hchild
    have hbegin := work_begin children[step]
    have hsize : Node.sizeAll (children.drop step) =
        children[step].size + Node.sizeAll (children.drop (step + 1)) := by
      rw [List.drop_eq_getElem_cons hstep, Node.sizeAll]
    show work ⟨children[step], 0⟩ + (1 + 3 * Node.sizeAll (children.drop (step + 1))) <
      1 + 3 * Node.sizeAll (children.drop step)
    omega

/-- Resuming a node leaves less to resume. -/
theorem work_resume {frame : WriteFrame} {flow : WriteFlow} (h : frame.resume = .ok flow) :
    flow.work frame.resumed < frame.work := by
  obtain ⟨node, step⟩ := frame
  cases node with
  | text location text =>
    obtain ⟨bytes, -, h⟩ := bind_inv h
    obtain rfl := pure_inv h
    exact Nat.one_pos
  | sequence location children =>
    rw [resume_sequence] at h
    obtain ⟨count, -, h⟩ := bind_inv h
    obtain rfl := pure_inv h
    exact work_childAt ..
  | query location lookup complement =>
    cases step with
    | zero =>
      obtain ⟨fields, -, h⟩ := bind_inv h
      obtain rfl := pure_inv h
      cases complement with
      | none => exact Nat.one_lt_two
      | some complement =>
        have hbegin := work_begin complement
        show work ⟨complement, 0⟩ + 1 < 2 + 3 * complement.size
        omega
    | succ step =>
      obtain rfl := pure_inv h
      exact Nat.one_pos

end WriteFrame

/-! ## What a stack will write -/

/-- What nodes under way will still write, the innermost first. -/
def pendingAll : List WriteFrame → Except Error Bytes
  | [] => return []
  | frame :: below => do
    let first ← frame.pending
    return first ++ (← pendingAll below)

/-- A bound on how often nodes under way will be resumed. -/
def workAll : List WriteFrame → Nat
  | [] => 0
  | frame :: below => frame.work + workAll below

namespace WriteState

/-- The bytes written so far. -/
def written (s : WriteState) : Bytes := s.chunks.reverse.flatten

/-- The bytes written so far and the pending ones. -/
def finish (s : WriteState) : Except Error Bytes := do
  return s.written ++ (← pendingAll s.frames)

/-- What a step does: it fails as what is pending does, or it keeps written and pending bytes
together and leaves less to resume. -/
def StepKeeps (s : WriteState) : Option (Except Error WriteState) → Prop
  | none => s.finish = .ok s.written
  | some (.error e) => s.finish = .error e
  | some (.ok next) => next.finish = s.finish ∧ workAll next.frames < workAll s.frames

/-- What comes of a state by its innermost node. -/
theorem finish_cons (frame : WriteFrame) (below : List WriteFrame) (chunks : List Bytes) :
    finish ⟨frame :: below, chunks⟩ = frame.resume >>= fun flow => do
      let first ← flow.pending frame.resumed
      return written ⟨below, chunks⟩ ++ (first ++ (← pendingAll below)) := by
  simp only [finish, pendingAll, WriteFrame.pending_resume frame, bind_assoc, pure_bind]
  rfl

/-- What comes of a state whose innermost node has been resumed. -/
theorem finish_resumed {frame : WriteFrame} (below : List WriteFrame) (chunks : List Bytes)
    {flow : WriteFlow} (h : frame.resume = .ok flow) :
    finish ⟨frame :: below, chunks⟩ = do
      let first ← flow.pending frame.resumed
      return written ⟨below, chunks⟩ ++ (first ++ (← pendingAll below)) := by
  rw [finish_cons, h]
  rfl

section Step

variable {frame : WriteFrame} {below : List WriteFrame} {chunks : List Bytes}

/-- A step whose resumption fails. -/
theorem step_of_error {e : Error} (h : frame.resume = .error e) :
    step? ⟨frame :: below, chunks⟩ = some (.error e) := by
  simp only [step?, h]
  rfl

/-- A step that ends a node. -/
theorem step_of_done {bytes : Bytes} (h : frame.resume = .ok (.done bytes)) :
    step? ⟨frame :: below, chunks⟩ = some (.ok ⟨below, bytes :: chunks⟩) := by
  simp only [step?, h]
  rfl

/-- A step that begins a child. -/
theorem step_of_child {bytes : Bytes} {child : Option Node}
    (h : frame.resume = .ok (.child bytes child)) :
    step? ⟨frame :: below, chunks⟩ = some (.ok
      ⟨(child.map fun node => ⟨node, 0⟩).toList ++ frame.resumed :: below,
        writeHeader? child :: bytes :: chunks⟩) := by
  simp only [step?, h]
  cases child <;> rfl

/-- A node that begins a child waits below it. -/
theorem stepKeeps_child {bytes : Bytes} {child : Option Node}
    (h : frame.resume = .ok (.child bytes child)) :
    StepKeeps ⟨frame :: below, chunks⟩ (step? ⟨frame :: below, chunks⟩) := by
  have hfinish := finish_resumed below chunks h
  rw [step_of_child h]
  cases child with
  | none =>
    have hwork : 0 + frame.resumed.work < frame.work := WriteFrame.work_resume h
    refine ⟨?_, ?_⟩
    · rw [hfinish]
      simp [finish, written, WriteFlow.pending, pendingAll, encode?]
    · show frame.resumed.work + workAll below < frame.work + workAll below
      omega
  | some node =>
    have hwork : WriteFrame.work ⟨node, 0⟩ + frame.resumed.work < frame.work :=
      WriteFrame.work_resume h
    refine ⟨?_, ?_⟩
    · -- the header is written at once, what comes after it is pending
      rw [hfinish]
      simp [finish, written, WriteFlow.pending, pendingAll, encode?, WriteFrame.encode_eq_pending,
        writeHeader?]
    · show WriteFrame.work ⟨node, 0⟩ + (frame.resumed.work + workAll below) <
        frame.work + workAll below
      omega

/-- A step with a node under way. -/
theorem stepKeeps_cons : StepKeeps ⟨frame :: below, chunks⟩ (step? ⟨frame :: below, chunks⟩) := by
  cases hresume : frame.resume with
  | error e =>
    rw [step_of_error hresume, StepKeeps, finish_cons, hresume]
    rfl
  | ok flow =>
    cases flow with
    | done bytes =>
      rw [step_of_done hresume]
      refine ⟨?_, ?_⟩
      · rw [finish_resumed below chunks hresume]
        simp [finish, written, WriteFlow.pending]
      · show workAll below < frame.work + workAll below
        exact Nat.lt_add_of_pos_left frame.work_pos
    | child bytes child => exact stepKeeps_child hresume

end Step

/-- **A step.** -/
theorem step_spec (s : WriteState) : s.StepKeeps s.step? := by
  obtain ⟨frames, chunks⟩ := s
  cases frames with
  | nil =>
    show finish ⟨[], chunks⟩ = .ok (written ⟨[], chunks⟩)
    simp only [finish, pendingAll, pure_bind, List.append_nil]
    rfl
  | cons frame below => exact stepKeeps_cons

/-- **A run.** -/
theorem run_eq {fuel : Nat} {s : WriteState} (h : workAll s.frames ≤ fuel) :
    written <$> run fuel s = s.finish := by
  induction fuel generalizing s with
  | zero =>
    obtain ⟨frames, chunks⟩ := s
    cases frames with
    | nil => exact (step_spec ⟨[], chunks⟩).symm
    | cons frame below =>
      have hnone : frame.work + workAll below ≤ 0 := h
      have hpos := frame.work_pos
      omega
  | succ fuel ih =>
    have hstep := step_spec s
    unfold run
    cases hcase : s.step? with
    | none =>
      rw [hcase] at hstep
      exact hstep.symm
    | some result =>
      rw [hcase] at hstep
      cases result with
      | error e => exact hstep.symm
      | ok next =>
        obtain ⟨hfinish, hwork⟩ := hstep
        rw [← hfinish]
        exact ih (by omega)

end WriteState

/-- The writer with the stack gives the bytes of a tree that may be absent. -/
theorem writeNode?_eq_encode? (node : Option Node) : writeNode? node = encode? node := by
  cases node with
  | none => rfl
  | some node =>
    have hwork : workAll [⟨node, 0⟩] ≤ resumptions node := by
      -- three resumptions for each node are more than enough
      have hbegin := WriteFrame.work_begin node
      simp only [workAll, resumptions]
      omega
    let begun : WriteState := ⟨[⟨node, 0⟩], [writeHeader node]⟩
    calc writeNode? (some node)
        = WriteState.written <$> WriteState.run (resumptions node) begun := by
          rw [map_eq_pure_bind]
          rfl
      _ = begun.finish := WriteState.run_eq hwork
      _ = encode? (some node) := by
          simp [begun, WriteState.finish, WriteState.written, pendingAll, encode?,
            WriteFrame.encode_eq_pending]

/-- The writer with the stack gives the bytes of the tree in preorder. -/
theorem writeNode_eq_encode (node : Node) : writeNode node = encode node :=
  writeNode?_eq_encode? (some node)

end Wordweave.Wire
