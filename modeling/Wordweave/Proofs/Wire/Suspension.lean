import Wordweave.Proofs.Wire.Descent

/-!
# Wordweave — suspended readers

The reader of trees that runs keeps suspended readers on a stack. A suspended reader stands for what
the descent would still do in its place once the child is there (`NodeReader.await`), and so does
the whole stack (`ReadState.finish`).

In every state that is reached the innermost reader has just been opened, or it waits and has its
reply; all the others wait (`ReadState.Ready`). A step keeps this, and it keeps what is left to do,
so the reader with the stack comes to the result of the descent, be it a tree, an absent one, or an
error. Each step also uses up four bytes or a reader (`ReadState.work`), which is why the bound on
the steps is never met.

Main results:

* `ReadState.step_spec`   — what a step keeps, and what it uses up.
* `ReadState.run_eq`      — what a run with enough steps comes to.
* `readNode?_eq_descent`  — the reader with the stack is the descent.
-/

namespace Wordweave.Wire

/-! ## What a reader stands for -/

namespace NodeReader

/-- Whether a reader waits for a child: a sequence that lacks one, or a query without its
complement. -/
def Waits : NodeReader → Prop
  | .sequence _ (some expected) children => children.length < expected
  | .query _ (some _) => True
  | _ => False

/-- What the descent does in the place of a reader once its child has been read. No other readers
wait. -/
def await : NodeReader → Option Node → Reader Node
  | .sequence location (some expected) children, some child => do
    let others ← readEach (present readTree?) (expected - (children.length + 1))
    return .sequence location (children.reverse ++ child :: others)
  | .sequence _ _ _, none => throw (.violation .absentChild)
  | .query location (some lookup), complement => return .query location lookup complement
  | _, _ => throw (.violation .noReader)

end NodeReader

/-- What is left to do of a node after a resumption of its reader. -/
def ReadFlow.rest : ReadFlow → Reader Node
  | .complete node => return node
  | .request suspended => do suspended.await (← readTree?)

namespace NodeReader

/-- A sequence that goes on reads the children that it lacks. -/
theorem rest_continueSequence {location : Location} {expected : Nat} {children : List Node}
    (h : children.length ≤ expected) :
    (continueSequence location expected children).rest = do
      let others ← readEach (present readTree?) (expected - children.length)
      return .sequence location (children.reverse ++ others) := by
  unfold continueSequence
  split
  · next hless =>
    -- the next child is the first one of those that are lacking
    have hcount : expected - children.length = (expected - (children.length + 1)) + 1 := by omega
    rw [hcount, readEach_succ]
    simp only [ReadFlow.rest, present, bind_assoc, pure_bind]
    congr 1
    funext child
    cases child with
    | some child => simp only [await, present, pure_bind]
    | none => rfl
  · have hcount : expected - children.length = 0 := by omega
    rw [hcount, readEach_zero, pure_bind, List.append_nil]
    rfl

/-- A reader that waits does with its reply what the descent does with the child. -/
theorem resume_reply {reader : NodeReader} (h : reader.Waits) (child : Option Node) :
    (do (← reader.resume (some ⟨child⟩)).rest) = reader.await child := by
  cases reader with
  | text location => exact h.elim
  | sequence location expected children =>
    cases expected with
    | none => exact h.elim
    | some expected =>
      cases child with
      | none => rfl
      | some child =>
        have hlength : (child :: children).length ≤ expected := h
        simp only [resume, pure_bind, rest_continueSequence hlength, await]
        simp
  | query location lookup =>
    cases lookup with
    | none => exact h.elim
    | some lookup => rfl

/-- A reader that has been opened does what the descent does after the header. -/
theorem resume_ofHeader (header : NodeKind × Location) :
    (do (← (ofHeader header).resume none).rest) = readAfter readTree? header := by
  obtain ⟨kind, location⟩ := header
  cases kind with
  | text => simp only [ofHeader, resume, readAfter, bind_assoc, pure_bind, ReadFlow.rest]
  | sequence =>
    simp only [ofHeader, resume, readAfter, bind_assoc, pure_bind]
    congr 1
    funext expected
    exact rest_continueSequence (Nat.zero_le _)
  | query => simp only [ofHeader, resume, readAfter, bind_assoc, pure_bind, ReadFlow.rest, await]

/-- A sequence learns how many children it has before it takes the reply. -/
theorem resume_sequence (location : Location) (expected : Option Nat) (children : List Node)
    (reply : Option Reply) :
    (sequence location expected children).resume reply =
      expected.elim readLength pure >>= fun count => (match reply with
        | none => pure (continueSequence location count children)
        | some ⟨some child⟩ => pure (continueSequence location count (child :: children))
        | some ⟨none⟩ => throw (.violation .absentChild)) := by
  cases expected <;> rfl

/-- A sequence that goes on requests a child only if it lacks one. -/
theorem waits_of_continueSequence {location : Location} {expected : Nat} {children : List Node}
    {suspended : NodeReader}
    (h : continueSequence location expected children = .request suspended) : suspended.Waits := by
  unfold continueSequence at h
  split at h
  · next hless =>
    obtain rfl := ReadFlow.request.inj h
    exact hless
  · exact nomatch h

/-- Just those readers wait that have made a request. -/
theorem waits_of_request {reader suspended : NodeReader} {reply : Option Reply}
    {input rest : Bytes} (h : reader.resume reply input = .ok (.request suspended, rest)) :
    suspended.Waits := by
  cases reader with
  | text location =>
    obtain ⟨text, middle, -, h⟩ := read_bind_inv h
    exact nomatch (read_pure_inv h).1
  | sequence location expected children =>
    rw [resume_sequence] at h
    obtain ⟨count, middle, -, h⟩ := read_bind_inv h
    match reply with
    | none => exact waits_of_continueSequence (read_pure_inv h).1
    | some ⟨some child⟩ => exact waits_of_continueSequence (read_pure_inv h).1
    | some ⟨none⟩ => exact nomatch h
  | query location lookup =>
    match lookup, reply with
    | none, _ =>
      obtain ⟨lookup, middle, -, h⟩ := read_bind_inv h
      obtain rfl := ReadFlow.request.inj (read_pure_inv h).1
      trivial
    | some lookup, none => exact nomatch h
    | some lookup, some reply => exact nomatch (read_pure_inv h).1

/-- No resumption makes the input longer. -/
theorem local_resume (reader : NodeReader) (reply : Option Reply) :
    Local (reader.resume reply) := by
  cases reader with
  | text location => exact local_readText.bind fun _ => Local.pure _
  | sequence location expected children =>
    have hcount : Local (expected.elim readLength pure) := by
      cases expected with
      | some n => exact Local.pure n
      | none => exact local_readLength
    rw [resume_sequence]
    refine hcount.bind fun count => ?_
    match reply with
    | none => exact Local.pure _
    | some ⟨some child⟩ => exact Local.pure _
    | some ⟨none⟩ => exact Local.throw _
  | query location lookup =>
    match lookup, reply with
    | none, _ => exact local_readLookup.bind fun _ => Local.pure _
    | some lookup, none => exact Local.throw _
    | some lookup, some reply => exact Local.pure _

end NodeReader

/-! ## What a stack stands for -/

/-- What readers that wait do one after the other with a node, the innermost first. -/
def finishAll : List NodeReader → Node → Reader Node
  | [], node => return node
  | reader :: below, node => do finishAll below (← reader.await (some node))

namespace ReadState

/-- What the descent comes to in the place of a state. -/
def finish (s : ReadState) : Except Error (Node × Bytes) :=
  match s.readers with
  | [] => .error (.violation .noReader)
  | reader :: below =>
    (do finishAll below (← (← reader.resume s.reply).rest) : Reader Node) s.input

/-- What there is to use up: the bytes left, and four for each reader, whose header was longer. -/
def work (s : ReadState) : Nat := s.input.length + 4 * s.readers.length

/-- The states that are reached: the innermost reader has just been opened, or it waits and has its
reply, and all others wait. -/
inductive Ready : ReadState → Prop
  | opened (header : NodeKind × Location) {below : List NodeReader} (input : Bytes)
      (hbelow : ∀ reader ∈ below, reader.Waits) :
      Ready ⟨NodeReader.ofHeader header :: below, none, input⟩
  | replied {reader : NodeReader} {below : List NodeReader} (reply : Reply) (input : Bytes)
      (hreader : reader.Waits) (hbelow : ∀ reader ∈ below, reader.Waits) :
      Ready ⟨reader :: below, some reply, input⟩

/-- What a step does in a state that is reached: it ends with the result of the descent, or it leads
to such a state again with the same to come and less to use up. -/
def StepKeeps (s : ReadState) : Except Error ReadStep → Prop
  | .error e => s.finish = .error e
  | .ok (.finished node rest) => s.finish = .ok (node, rest)
  | .ok (.next next) => next.Ready ∧ next.finish = s.finish ∧ next.work + 4 ≤ s.work

/-- With a reader on the stack there is something to come. -/
theorem finish_cons (reader : NodeReader) (below : List NodeReader) (reply : Option Reply)
    (input : Bytes) :
    finish ⟨reader :: below, reply, input⟩ =
      (do finishAll below (← (← reader.resume reply).rest) : Reader Node) input := rfl

/-- What is to come of a reader that waits and has its reply. -/
theorem finish_replied {reader : NodeReader} (h : reader.Waits) (below : List NodeReader)
    (child : Option Node) (input : Bytes) :
    finish ⟨reader :: below, some ⟨child⟩, input⟩ =
      (reader.await child >>= finishAll below) input := by
  rw [finish_cons, ← NodeReader.resume_reply h, bind_assoc]

/-- What is to come of a reader that has just been opened. -/
theorem finish_opened (header : NodeKind × Location) (below : List NodeReader) (input : Bytes) :
    finish ⟨NodeReader.ofHeader header :: below, none, input⟩ =
      (readAfter readTree? header >>= finishAll below) input := by
  rw [finish_cons, ← NodeReader.resume_ofHeader, bind_assoc]

/-- What is to come of a state once its innermost reader has been resumed. -/
theorem finish_resumed {reader : NodeReader} (below : List NodeReader) {reply : Option Reply}
    {input rest : Bytes} {flow : ReadFlow} (h : reader.resume reply input = .ok (flow, rest)) :
    finish ⟨reader :: below, reply, input⟩ = (flow.rest >>= finishAll below) rest := by
  rw [finish_cons, bind_apply, h]

/-- A child that is requested is read by descent. -/
theorem rest_request (suspended : NodeReader) (f : Node → Reader Node) (input : Bytes) :
    ((ReadFlow.request suspended).rest >>= f) input =
      match readHeader input with
      | .error e => .error e
      | .ok (some header, rest) =>
        (readAfter readTree? header >>= fun node => suspended.await (some node) >>= f) rest
      | .ok (none, rest) => (suspended.await none >>= f) rest := by
  -- the child is read by one level of the descent, which begins with the header
  have hlevel : (ReadFlow.request suspended).rest =
      (do suspended.await (← readLevel readTree?)) := by
    rw [← readTree?_eq]
    rfl
  rw [hlevel, readLevel, bind_assoc, bind_assoc, bind_apply]
  cases readHeader input with
  | error e => rfl
  | ok result =>
    obtain ⟨header, rest⟩ := result
    cases header with
    | none => rfl
    | some header => simp only [bind_assoc, pure_bind]

section Step

variable {reader suspended : NodeReader} {below : List NodeReader} {reply : Option Reply}
  {input rest rest' : Bytes}

/-- A step whose resumption fails. -/
theorem step_of_error {e : Error} (h : reader.resume reply input = .error e) :
    step ⟨reader :: below, reply, input⟩ = .error e := by
  simp only [step, h]

/-- A step that completes a node. -/
theorem step_of_complete {node : Node}
    (h : reader.resume reply input = .ok (.complete node, rest)) :
    step ⟨reader :: below, reply, input⟩ =
      if below.isEmpty then .ok (.finished node rest)
      else .ok (.next ⟨below, some ⟨some node⟩, rest⟩) := by
  simp only [step, h]

/-- A step that requests a child whose header cannot be read. -/
theorem step_of_request_error {e : Error}
    (h : reader.resume reply input = .ok (.request suspended, rest))
    (hheader : readHeader rest = .error e) :
    step ⟨reader :: below, reply, input⟩ = .error e := by
  simp only [step, h, hheader]

/-- A step that requests a child which is absent. -/
theorem step_of_request_absent
    (h : reader.resume reply input = .ok (.request suspended, rest))
    (hheader : readHeader rest = .ok (none, rest')) :
    step ⟨reader :: below, reply, input⟩ =
      .ok (.next ⟨suspended :: below, some ⟨none⟩, rest'⟩) := by
  simp only [step, h, hheader]

/-- A step that requests a child and opens its reader. -/
theorem step_of_request_present {header : NodeKind × Location}
    (h : reader.resume reply input = .ok (.request suspended, rest))
    (hheader : readHeader rest = .ok (some header, rest')) :
    step ⟨reader :: below, reply, input⟩ =
      .ok (.next ⟨NodeReader.ofHeader header :: suspended :: below, none, rest'⟩) := by
  simp only [step, h, hheader]

/-- The reply to a request is a complete node, and the reader that has made it goes on. -/
theorem stepKeeps_complete {node : Node} (hbelow : ∀ reader ∈ below, reader.Waits)
    (h : reader.resume reply input = .ok (.complete node, rest)) :
    StepKeeps ⟨reader :: below, reply, input⟩ (step ⟨reader :: below, reply, input⟩) := by
  have hrest := (NodeReader.local_resume reader reply).length_le h
  have hfinish := finish_resumed below h
  rw [step_of_complete h]
  cases below with
  | nil => exact hfinish
  | cons waiting below =>
    obtain ⟨hwaiting, hbelow⟩ := List.forall_mem_cons.mp hbelow
    refine ⟨.replied _ _ hwaiting hbelow, ?_, ?_⟩
    · rw [hfinish, finish_replied hwaiting]
      rfl
    · simp only [work, List.length_cons]
      omega

/-- A child that is requested is absent, or its reader goes on top of the one that waits. -/
theorem stepKeeps_request (hbelow : ∀ reader ∈ below, reader.Waits)
    (h : reader.resume reply input = .ok (.request suspended, rest)) :
    StepKeeps ⟨reader :: below, reply, input⟩ (step ⟨reader :: below, reply, input⟩) := by
  have hrest := (NodeReader.local_resume reader reply).length_le h
  have hfinish := finish_resumed below h
  have hsuspended := NodeReader.waits_of_request h
  rw [rest_request] at hfinish
  cases hheader : readHeader rest with
  | error e =>
    rw [hheader] at hfinish
    rw [step_of_request_error h hheader]
    exact hfinish
  | ok result =>
    obtain ⟨header, rest'⟩ := result
    rw [hheader] at hfinish
    cases header with
    | none =>
      have hused : rest'.length + 4 = rest.length := length_readHeader hheader
      rw [step_of_request_absent h hheader]
      refine ⟨.replied _ _ hsuspended hbelow, ?_, ?_⟩
      · rw [hfinish, finish_replied hsuspended]
      · simp only [work, List.length_cons]
        omega
    | some header =>
      -- one reader more weighs less than the bytes of the header that it comes from
      have hused : rest'.length + 12 = rest.length := length_readHeader hheader
      rw [step_of_request_present h hheader]
      refine ⟨.opened _ _ (List.forall_mem_cons.mpr ⟨hsuspended, hbelow⟩), ?_, ?_⟩
      · rw [hfinish, finish_opened]
        rfl
      · simp only [work, List.length_cons]
        omega

/-- A step with readers below that wait. -/
theorem stepKeeps_cons (hbelow : ∀ reader ∈ below, reader.Waits) :
    StepKeeps ⟨reader :: below, reply, input⟩ (step ⟨reader :: below, reply, input⟩) := by
  cases hresume : reader.resume reply input with
  | error e => rw [step_of_error hresume, StepKeeps, finish_cons, bind_apply, hresume]
  | ok result =>
    obtain ⟨flow, rest⟩ := result
    cases flow with
    | complete node => exact stepKeeps_complete hbelow hresume
    | request suspended => exact stepKeeps_request hbelow hresume

end Step

/-- **A step.** In a state that is reached it comes nearer to the result of the descent, or comes to
it. -/
theorem step_spec {s : ReadState} (h : s.Ready) : s.StepKeeps s.step := by
  cases h with
  | opened header input hbelow => exact stepKeeps_cons hbelow
  | replied reply input hreader hbelow => exact stepKeeps_cons hbelow

/-- **A run.** With four steps for each byte and each reader it comes to the result of the descent.
-/
theorem run_eq {fuel : Nat} {s : ReadState} (hready : s.Ready) (hfuel : s.work < 4 * fuel) :
    run fuel s = some s.finish := by
  induction fuel generalizing s with
  | zero => exact absurd hfuel (Nat.not_lt_zero _)
  | succ fuel ih =>
    -- what is to come is the same before the step and after it
    have hstep := step_spec hready
    unfold run
    cases hcase : s.step with
    | error e =>
      rw [hcase] at hstep
      exact congrArg some hstep.symm
    | ok result =>
      rw [hcase] at hstep
      cases result with
      | finished node rest => exact congrArg some hstep.symm
      | next next =>
        obtain ⟨hnext, hfinish, hwork⟩ := hstep
        rw [← hfinish]
        exact ih hnext (by omega)

end ReadState

/-- What comes after a header is read by descent. -/
theorem readOpened_eq {header : NodeKind × Location} {bound : Nat} {input : Bytes}
    (h : input.length + 4 < 4 * bound) :
    readOpened bound header input = readAfter readTree? header input := by
  have hready : ReadState.Ready ⟨[NodeReader.ofHeader header], none, input⟩ :=
    .opened header input fun _ h => nomatch h
  rw [readOpened, ReadState.run_eq hready h, ReadState.finish_opened]
  simp [finishAll]

/-- The reader with the stack is the descent. -/
theorem readNode?_eq_descent : readNode? = readTree? := by
  funext input
  rw [readTree?_eq, readNode?, readLevel, bind_apply]
  cases hheader : readHeader input with
  | error e => rfl
  | ok result =>
    obtain ⟨header, rest⟩ := result
    cases header with
    | none => rfl
    | some header =>
      have hused : rest.length + 12 = input.length := length_readHeader hheader
      have hbound : rest.length + 4 < 4 * stepBound input := by
        unfold stepBound
        omega
      simp only [readOpened_eq hbound, bind_apply]
      cases readAfter readTree? header rest <;> rfl

/-- **Reading trees.** For all bytes the reader with the stack gives what the descent gives: the
same tree, or an absent one, with the same bytes left, or the same error with all that it carries:
the bytes of a text that is none, the text of a pattern filter that writes no pattern, the numbers of
the others. The descent reads a header, the fields of the node and then each child in the same way,
and it is the only reader that does so. -/
theorem readNode?_eq_readTree? :
    readNode? = readTree? ∧ readTree? = readLevel readTree? ∧
      ∀ r : Reader (Option Node), r = readLevel r → r = readTree? :=
  ⟨readNode?_eq_descent, readTree?_eq, fun _ h => eq_readTree? h⟩

end Wordweave.Wire
