import Wordweave.Proofs.Wire.Suspension

/-!
# Wordweave — how often readers are resumed

The reader of trees goes from state to state, and in each it resumes the innermost reader once
(`Visits`), until a resumption fails or completes the outermost node (`Returns`). The counts that it
finds in the bytes may be far too large, so it is not they that bound the number of resumptions:
each one uses up four bytes, or a reader whose header was longer than that (`Visits.work_le`).

Two of the errors are the reader's own fault and not that of the bytes: that it has no reader left,
and that it resumes a query without a reply. The readers of the parts of a node *abide* by the
protocol, which is to say that they never fail like this (`Abides`); a state that is reached has a
reader, and a query that waits in it has its reply (`ReadState.Ready`).

Main result:

* `readNode?_resumptions` — the reader returns after at most one resumption for every four bytes,
  its states are as they should be all the way, and it is never at fault.
-/

namespace Wordweave.Wire

variable {α β : Type}

/-! ## Readers that abide by the protocol -/

/-- The errors that no bytes are to blame for. -/
def Error.isMisconduct : Error → Bool
  | .violation .noReader | .violation .noComplement => true
  | _ => false

/-- A reader abides by the protocol if its errors are never its own fault. -/
def Abides (r : Reader α) : Prop :=
  ∀ (input : Bytes) (e : Error), r input = .error e → e.isMisconduct = false

namespace Abides

theorem pure (a : α) : Abides (Pure.pure a : Reader α) := fun _ _ h => nomatch h

theorem throw {e : Error} (he : e.isMisconduct = false) : Abides (throw e : Reader α) := by
  intro input e' h
  obtain rfl : e = e' := Except.error.inj h
  exact he

theorem throw_bind {e : Error} (he : e.isMisconduct = false) (f : α → Reader β) :
    Abides ((MonadExcept.throw e : Reader α) >>= f) := by
  intro input e' h
  obtain rfl : e = e' := Except.error.inj h
  exact he

theorem bind {r : Reader α} {f : α → Reader β} (hr : Abides r) (hf : ∀ a, Abides (f a)) :
    Abides (r >>= f) := by
  intro input e h
  rw [bind_apply] at h
  cases hfirst : r input with
  | error e' =>
    rw [hfirst] at h
    obtain rfl : e' = e := Except.error.inj h
    exact hr input e' hfirst
  | ok result =>
    rw [hfirst] at h
    exact hf result.1 result.2 e h

end Abides

theorem abides_readFixed (width : Nat) : Abides (readFixed width) := by
  intro input e h
  simp only [readFixed, List.splitAt_eq] at h
  split at h
  · simp at h
  · obtain rfl : .endOfBytes = e := Except.error.inj h
    rfl

theorem abides_readU16 : Abides readU16 := (abides_readFixed 2).bind fun _ => Abides.pure _

theorem abides_readU32 : Abides readU32 := (abides_readFixed 4).bind fun _ => Abides.pure _

theorem abides_readI32 : Abides readI32 := abides_readU32.bind fun _ => Abides.pure _

theorem abides_readBool : Abides readBool := by
  refine (abides_readFixed 1).bind fun n => ?_
  split <;> first | exact Abides.pure _ | exact Abides.throw rfl

theorem abides_readLength : Abides readLength := by
  refine abides_readI32.bind fun n => ?_
  split
  · exact Abides.throw rfl
  · exact Abides.pure _

theorem abides_readBytes (n : Nat) : Abides (readBytes n) := by
  intro input e h
  simp only [readBytes, List.splitAt_eq] at h
  split at h
  · simp at h
  · obtain rfl : .tooFewBytes n (input.take n).length = e := Except.error.inj h
    rfl

theorem abides_readText? : Abides readText? := by
  refine abides_readI32.bind fun n => ?_
  split
  · exact Abides.pure _
  · split
    · exact Abides.throw_bind rfl _
    · refine (abides_readBytes _).bind fun bytes => ?_
      cases Text.Utf8.decode bytes with
      | ok text => exact Abides.pure _
      | error fault => exact Abides.throw rfl

theorem abides_readText : Abides readText := by
  refine abides_readText?.bind fun text => ?_
  cases text with
  | some text => exact Abides.pure _
  | none => exact Abides.throw rfl

theorem abides_readEach {read : Reader α} (hread : Abides read) (n : Nat) :
    Abides (readEach read n) := by
  induction n with
  | zero => exact Abides.pure _
  | succ n ih =>
    rw [readEach_succ]
    exact hread.bind fun _ => ih.bind fun _ => Abides.pure _

theorem abides_readList {read : Reader α} (hread : Abides read) : Abides (readList read) :=
  abides_readLength.bind fun n => abides_readEach hread n

theorem abides_readClassTest : Abides readClassTest :=
  abides_readBool.bind fun _ => abides_readText.bind fun _ => Abides.pure _

theorem abides_readBound : Abides readBound :=
  abides_readBool.bind fun _ => abides_readU32.bind fun _ => Abides.pure _

theorem abides_readPatternFilter : Abides readPatternFilter := by
  refine abides_readText.bind fun source => abides_readBool.bind fun outside => ?_
  cases PatternFilter.ofText? source outside with
  | some f => exact Abides.pure f
  | none => exact Abides.throw rfl

theorem abides_readFilterBody (tag : UInt16) : Abides (readFilterBody tag) := by
  unfold readFilterBody
  split
  · exact (abides_readList (abides_readList abides_readClassTest)).bind fun _ => Abides.pure _
  split
  · exact abides_readPatternFilter.bind fun _ => Abides.pure _
  split
  · exact abides_readBound.bind fun _ => abides_readBound.bind fun _ => Abides.pure _
  · exact Abides.pure _

theorem abides_readFilter : Abides readFilter := abides_readU16.bind abides_readFilterBody

theorem abides_readComponent : Abides readComponent := by
  refine abides_readU16.bind fun tag => ?_
  cases kindOfTag? tag with
  | some kind => exact (abides_readList abides_readText).bind fun _ => Abides.pure _
  | none => exact Abides.throw rfl

theorem abides_readCarrier : Abides readCarrier :=
  (abides_readList abides_readComponent).bind fun _ => Abides.pure _

theorem abides_readCarrier? : Abides readCarrier? := by
  refine abides_readBool.bind fun present => ?_
  cases present with
  | true => exact abides_readCarrier.bind fun _ => Abides.pure _
  | false => exact Abides.pure _

theorem abides_readLookup : Abides readLookup :=
  abides_readText?.bind fun _ => abides_readText?.bind fun _ => abides_readBool.bind fun _ =>
    (abides_readList abides_readFilter).bind fun _ => abides_readCarrier?.bind fun _ =>
      Abides.pure _

theorem abides_readHeader : Abides readHeader := by
  refine abides_readU32.bind fun tag => ?_
  split
  · exact Abides.pure _
  · cases NodeKind.ofTag? tag with
    | none => exact Abides.throw rfl
    | some kind => exact abides_readU32.bind fun _ => abides_readU32.bind fun _ => Abides.pure _

/-! ## Resumptions -/

namespace NodeReader

theorem not_waits_ofHeader (header : NodeKind × Location) : ¬ (ofHeader header).Waits := by
  obtain ⟨kind, location⟩ := header
  cases kind <;> exact id

theorem abides_resume_text (location : Location) (reply : Option Reply) :
    Abides ((text location).resume reply) :=
  abides_readText.bind fun _ => Abides.pure _

/-- An absent child of a sequence is the fault of the bytes. -/
theorem abides_resume_sequence (location : Location) (expected : Option Nat)
    (children : List Node) (reply : Option Reply) :
    Abides ((sequence location expected children).resume reply) := by
  -- the count is read once, at the first resumption
  have hcount : Abides (expected.elim readLength pure) := by
    cases expected with
    | some n => exact Abides.pure n
    | none => exact abides_readLength
  rw [resume_sequence]
  refine hcount.bind fun count => ?_
  match reply with
  | none => exact Abides.pure _
  | some ⟨some child⟩ => exact Abides.pure _
  | some ⟨none⟩ => exact Abides.throw rfl

/-- A reader that has just been opened asks for no reply. -/
theorem abides_resume_ofHeader (header : NodeKind × Location) :
    Abides ((ofHeader header).resume none) := by
  obtain ⟨kind, location⟩ := header
  cases kind with
  | text => exact abides_resume_text location none
  | sequence => exact abides_resume_sequence location none [] none
  | query => exact abides_readLookup.bind fun _ => Abides.pure _

/-- A reader that is replied to has what it asks for. -/
theorem abides_resume_reply (reader : NodeReader) (reply : Reply) :
    Abides (reader.resume (some reply)) := by
  cases reader with
  | text location => exact abides_resume_text location _
  | sequence location expected children => exact abides_resume_sequence location expected children _
  | query location lookup =>
    cases lookup with
    | none => exact abides_readLookup.bind fun _ => Abides.pure _
    | some lookup => exact Abides.pure _

end NodeReader

namespace ReadState

theorem step_abides {reader : NodeReader} {below : List NodeReader} {reply : Option Reply}
    (hresume : Abides (reader.resume reply)) {input : Bytes} {e : Error}
    (h : step ⟨reader :: below, reply, input⟩ = .error e) : e.isMisconduct = false := by
  cases hcase : reader.resume reply input with
  | error e' =>
    rw [step_of_error hcase] at h
    obtain rfl : e' = e := Except.error.inj h
    exact hresume input e' hcase
  | ok result =>
    obtain ⟨flow, rest⟩ := result
    cases flow with
    | complete node =>
      rw [step_of_complete hcase] at h
      split at h <;> exact nomatch h
    | request suspended =>
      -- there is no error but that of the header
      cases hheader : readHeader rest with
      | error e' =>
        rw [step_of_request_error hcase hheader] at h
        obtain rfl : e' = e := Except.error.inj h
        exact abides_readHeader rest e' hheader
      | ok result =>
        obtain ⟨header, rest'⟩ := result
        cases header with
        | none => exact nomatch ((step_of_request_absent hcase hheader).symm.trans h)
        | some header => exact nomatch ((step_of_request_present hcase hheader).symm.trans h)

namespace Ready

variable {s : ReadState}

/-- No error of a state that is reached is the reader's own fault. -/
theorem abides (hready : s.Ready) {e : Error} (h : s.step = .error e) :
    e.isMisconduct = false := by
  cases hready with
  | opened header input hbelow => exact step_abides (NodeReader.abides_resume_ofHeader header) h
  | @replied reader below reply input hreader hbelow =>
    exact step_abides (NodeReader.abides_resume_reply reader reply) h

/-- In a state that is reached there is a reader, those below it wait, and it has a reply just if it
waits too. -/
theorem exists_cons (hready : s.Ready) :
    ∃ reader below, s.readers = reader :: below ∧ (∀ r ∈ below, r.Waits) ∧
      (s.reply.isSome ↔ reader.Waits) := by
  cases hready with
  | @opened header below input hbelow =>
    have hwaits := NodeReader.not_waits_ofHeader header
    exact ⟨NodeReader.ofHeader header, below, rfl, hbelow, by simp [hwaits]⟩
  | @replied reader below reply input hreader hbelow =>
    exact ⟨reader, below, rfl, hbelow, by simp [hreader]⟩

theorem four_le_work (hready : s.Ready) : 4 ≤ s.work := by
  -- there is a reader, and each one weighs four bytes
  obtain ⟨reader, below, hreaders, -⟩ := hready.exists_cons
  rw [work, hreaders, List.length_cons]
  omega

end Ready

end ReadState

/-! ## The loop -/

section Loop

variable {input : Bytes} {n : Nat} {s : ReadState}

/-- The state in which the reader makes a resumption when it has made `n` of them. -/
inductive Visits (input : Bytes) : Nat → ReadState → Prop
  | opened {header : NodeKind × Location} {rest : Bytes}
      (h : readHeader input = .ok (some header, rest)) :
      Visits input 0 ⟨[NodeReader.ofHeader header], none, rest⟩
  | next {n : Nat} {s next : ReadState} (hs : Visits input n s) (h : s.step = .ok (.next next)) :
      Visits input (n + 1) next

/-- The reader returns a result when it has made `n` resumptions: without any if the header says it
all, and otherwise with the last of them. -/
inductive Returns (input : Bytes) : Nat → Except Error (Option Node × Bytes) → Prop
  | noHeader {e : Error} (h : readHeader input = .error e) : Returns input 0 (.error e)
  | absent {rest : Bytes} (h : readHeader input = .ok (none, rest)) :
      Returns input 0 (.ok (none, rest))
  | failed {n : Nat} {s : ReadState} {e : Error} (hs : Visits input n s) (h : s.step = .error e) :
      Returns input (n + 1) (.error e)
  | finished {n : Nat} {s : ReadState} {node : Node} {rest : Bytes} (hs : Visits input n s)
      (h : s.step = .ok (.finished node rest)) : Returns input (n + 1) (.ok (some node, rest))

namespace Visits

/-- What holds in all states: they are reached, and four bytes are gone for each resumption. -/
theorem ready_and_work_le (h : Visits input n s) :
    s.Ready ∧ s.work + 4 * n + 8 ≤ input.length := by
  induction h with
  | @opened header rest hheader =>
    -- the header has twelve bytes, and its reader weighs four of them
    have hused : rest.length + 12 = input.length := length_readHeader hheader
    refine ⟨.opened header rest (fun _ h => nomatch h), ?_⟩
    simp only [ReadState.work, List.length_singleton]
    omega
  | @next n s next _ hstep ih =>
    obtain ⟨hready, hwork⟩ := ih
    -- each step takes four at least from the work
    have hkeeps := ReadState.step_spec hready
    rw [hstep] at hkeeps
    obtain ⟨hnext, -, hless⟩ := hkeeps
    exact ⟨hnext, by omega⟩

theorem ready (h : Visits input n s) : s.Ready := h.ready_and_work_le.1

theorem work_le (h : Visits input n s) : s.work + 4 * n + 8 ≤ input.length :=
  h.ready_and_work_le.2

/-- There are bytes enough for the resumption that is about to be made. -/
theorem succ_le (h : Visits input n s) : n + 1 ≤ input.length / 4 := by
  have hwork := h.work_le
  have hreader := h.ready.four_le_work
  omega

/-- What a run comes to is what the reader returns. -/
theorem returns_of_run {fuel : Nat} (h : Visits input n s)
    {result : Except Error (Node × Bytes)} (hrun : ReadState.run fuel s = some result) :
    ∃ m, Returns input m (result.map fun (node, rest) => (some node, rest)) := by
  induction fuel generalizing n s with
  | zero => exact nomatch hrun
  | succ fuel ih =>
    unfold ReadState.run at hrun
    cases hstep : s.step with
    | error e =>
      rw [hstep] at hrun
      obtain rfl := Option.some.inj hrun
      exact ⟨n + 1, .failed h hstep⟩
    | ok step =>
      rw [hstep] at hrun
      cases step with
      | finished node rest =>
        obtain rfl := Option.some.inj hrun
        exact ⟨n + 1, .finished h hstep⟩
      | next next => exact ih (.next h hstep) hrun

end Visits

namespace Returns

variable {result : Except Error (Option Node × Bytes)}

theorem le (h : Returns input n result) : n ≤ input.length / 4 := by
  cases h with
  | noHeader h => exact Nat.zero_le _
  | absent h => exact Nat.zero_le _
  | failed hs h => exact hs.succ_le
  | finished hs h => exact hs.succ_le

theorem not_misconduct {e : Error} (h : Returns input n (.error e)) : e.isMisconduct = false := by
  cases h with
  | noHeader h => exact abides_readHeader input e h
  | failed hs h => exact hs.ready.abides h

end Returns

/-- The reader returns what it gives. -/
theorem exists_returns (input : Bytes) : ∃ n, Returns input n (readNode? input) := by
  cases hheader : readHeader input with
  | error e =>
    have hresult : readNode? input = .error e := by simp only [readNode?, hheader]
    exact ⟨0, hresult ▸ .noHeader hheader⟩
  | ok header =>
    obtain ⟨header, rest⟩ := header
    cases header with
    | none =>
      have hresult : readNode? input = .ok (none, rest) := by simp only [readNode?, hheader]
      exact ⟨0, hresult ▸ .absent hheader⟩
    | some header =>
      have hopened := Visits.opened hheader
      -- the bound is large enough for the run to come to its end
      have hfuel : ReadState.work ⟨[NodeReader.ofHeader header], none, rest⟩ <
          4 * stepBound input := by
        have hwork := hopened.work_le
        unfold stepBound
        omega
      have hrun := ReadState.run_eq hopened.ready hfuel
      have hresult : readNode? input =
          (ReadState.finish ⟨[NodeReader.ofHeader header], none, rest⟩).map
            fun (node, rest) => (some node, rest) := by
        simp only [readNode?, hheader, readOpened, hrun, Option.getD_some]
        cases ReadState.finish ⟨[NodeReader.ofHeader header], none, rest⟩ <;> rfl
      rw [hresult]
      exact hopened.returns_of_run hrun

end Loop

/-- **Resumptions.** Whatever the bytes, the reader comes to return its result, and it makes no more
resumptions than there are times four bytes. Whenever it makes one there is a reader to resume,
which has a reply just if it waits for one, and all readers below wait. So it never finds itself
without a reader, nor a query without its reply. -/
theorem readNode?_resumptions (input : Bytes) :
    (∃ n ≤ input.length / 4, Returns input n (readNode? input)) ∧
      (∀ n s, Visits input n s → n + 1 ≤ input.length / 4 ∧
        ∃ reader below, s.readers = reader :: below ∧ (∀ r ∈ below, r.Waits) ∧
          (s.reply.isSome ↔ reader.Waits)) ∧
      readNode? input ≠ .error (.violation .noReader) ∧
      readNode? input ≠ .error (.violation .noComplement) := by
  obtain ⟨n, hreturns⟩ := exists_returns input
  refine ⟨⟨n, hreturns.le, hreturns⟩, fun m s hs => ⟨hs.succ_le, hs.ready.exists_cons⟩, ?_, ?_⟩
  · intro herror
    rw [herror] at hreturns
    exact nomatch hreturns.not_misconduct
  · intro herror
    rw [herror] at hreturns
    exact nomatch hreturns.not_misconduct

end Wordweave.Wire
