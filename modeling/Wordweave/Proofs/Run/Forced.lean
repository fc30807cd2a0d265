import Wordweave.Proofs.Run.Journal
import Wordweave.Proofs.Vocabulary.Range

/-!
# Wordweave — runs that leave nothing to chance

A lookup is *forced* if there is nothing to choose for it: a name of kind `matching` pins it, or at
most one entry of its table is admissible. A random word is drawn for a single entry as well, but the
entry is the same whatever the word is (`Vocabulary.picked?_of_forced`).

Take a run in which every lookup is forced, and run the tree again with other random words. The two
machines have different words left from the beginning on, and take different numbers of them. In all
else they stay the same: this is kept by a step (`Machine.step_reseed`), because the next lookup is
made in the same memory and is therefore forced in both runs, and so by any number of steps
(`Machine.advance_reseed`).

Main result:

* `Node.run_forced` — where all lookups are forced, the seed is of no account.
-/

namespace Wordweave

/-! ## Forced lookups -/

/-- A lookup is pinned, or no two entries of its table are admissible. -/
def Vocabulary.Forced (v : Vocabulary) (q : Lookup) (m : Memory) : Prop :=
  ∀ t ∈ q.name.bind v.table?, ∀ column ∈ t.subtypeIndex? q.subtype, t.pinned? q m = none →
    ∀ candidates ∈ t.candidates? column, ∀ c ∈ candidates, ∀ c' ∈ candidates,
      v.admissible? m q t.name column c = some true →
      v.admissible? m q t.name column c' = some true → c.index = c'.index

instance (v : Vocabulary) (q : Lookup) (m : Memory) : Decidable (v.Forced q m) :=
  inferInstanceAs (Decidable (∀ _ ∈ _, _))

/-- What is chosen from a list of members that are all alike does not depend on the words. -/
theorem Keystream.map_choose_eq {α β : Type} {f : α → β} {l : List α}
    (h : ∀ a ∈ l, ∀ b ∈ l, f a = f b) (s s' : Keystream) :
    (s.choose l).1.map f = (s'.choose l).1.map f := by
  cases l with
  | nil => rfl
  | cons a l =>
    -- a list with members is chosen from in either case
    obtain ⟨b, hb⟩ := s.exists_choose (List.cons_ne_nil a l)
    obtain ⟨b', hb'⟩ := s'.exists_choose (List.cons_ne_nil a l)
    have hsame : f b = f b' := h b (Keystream.mem_of_choose hb) b' (Keystream.mem_of_choose hb')
    rw [hb, hb', Option.map_some, Option.map_some, hsame]

namespace Vocabulary

variable {v : Vocabulary} {q : Lookup} {m : Memory}

/-- The place that is picked for a forced lookup does not depend on the words. -/
theorem place_pick?_of_forced (h : v.Forced q m) {t : Table} (ht : q.name.bind v.table? = some t)
    {column : Nat} (hcolumn : t.subtypeIndex? q.subtype = some column) (s s' : Keystream) :
    (v.pick? q t column s m).map (·.1) = (v.pick? q t column s' m).map (·.1) := by
  unfold pick?
  cases hpinned : t.pinned? q m with
  | some index => rfl
  | none =>
    cases hcandidates : t.candidates? column with
    | none => rfl
    | some candidates =>
      simp only [Option.bind_eq_bind, Option.bind_some]
      cases hadmitted : candidates.filterM (v.admissible? m q t.name column) with
      | none => rfl
      | some admitted =>
        -- all that is admitted is one and the same entry
        have halike : ∀ c ∈ admitted, ∀ c' ∈ admitted, c.index = c'.index := by
          intro c hc c' hc'
          obtain ⟨hmem, hadmits⟩ := of_mem_filterM hadmitted hc
          obtain ⟨hmem', hadmits'⟩ := of_mem_filterM hadmitted hc'
          exact h t ht column hcolumn hpinned candidates hcandidates c hmem c' hmem' hadmits
            hadmits'
        exact congrArg some (Keystream.map_choose_eq halike s s')

/-- **Picks.** The pick that answers a forced lookup does not depend on the words. -/
theorem picked?_of_forced (h : v.Forced q m) (s s' : Keystream) :
    v.picked? q s m = v.picked? q s' m := by
  unfold picked?
  cases ht : q.name.bind v.table? with
  | none => rfl
  | some t =>
    simp only [Option.bind_eq_bind, Option.bind_some]
    cases hcolumn : t.subtypeIndex? q.subtype with
    | none => rfl
    | some column =>
      simp only [Option.bind_some]
      -- the words that are left are not part of a pick
      have hplace := place_pick?_of_forced h ht hcolumn s s'
      generalize v.pick? q t column s m = found, v.pick? q t column s' m = found' at hplace ⊢
      cases found with
      | none =>
        obtain rfl : found' = none := Option.map_eq_none_iff.mp hplace.symm
        rfl
      | some found =>
        obtain ⟨other, rfl, hother⟩ := Option.map_eq_some_iff.mp hplace.symm
        simp only [Option.bind_some, hother]

end Vocabulary

/-! ## The same run with other random words -/

/-- The same state with other random words left. -/
def RunState.reseed (s : RunState) (stream : Keystream) : RunState := { s with stream }

/-- The same machine with other random words left. -/
def Machine.reseed (m : Machine) (stream : Keystream) : Machine := ⟨m.frames, m.state.reseed stream⟩

/-- The lookup that a frame asks of the vocabulary when it is resumed. -/
def Frame.asks? : Frame → Option Lookup
  | .query _ q .fresh => if q.isErase then none else some q.toLookup
  | .text _ _ | .sequence _ _ _ | .query _ _ (.waiting _) => none

/-- The lookup that the next step asks of the vocabulary. -/
def Machine.asks? (m : Machine) : Option Lookup := m.frames.head?.bind (·.asks?)

/-- What a query asks when it begins is its lookup, unless it erases. -/
theorem Query.forced_of_asks {v : Vocabulary} {location : Location} {q : Query} {m : Memory}
    (h : ∀ asked, (Frame.query location q .fresh).asks? = some asked → v.Forced asked m)
    (herase : q.isErase = false) : v.Forced q.toLookup m := by
  refine h q.toLookup ?_
  rw [Frame.asks?, herase, if_neg Bool.false_ne_true]

theorem RunState.printAll_reseed (s : RunState) (stream : Keystream) (units : List String) :
    (s.reseed stream).printAll units = (s.printAll units).reseed stream := by
  rw [RunState.printAll_eq_after, RunState.printAll_eq_after]
  rfl

section Steps

variable {v : Vocabulary} (catalog : Catalog)

/-- A query whose lookup is forced does the same with other words. It may take another number of
them. -/
theorem Query.weave_reseed (q : Query) (s : RunState)
    (h : q.isErase = false → v.Forced q.toLookup s.memory) (stream : Keystream) :
    ∃ left, q.weave (.ofVocabulary (some v) catalog) (s.reseed stream) =
      ((q.weave (.ofVocabulary (some v) catalog) s).1,
        (q.weave (.ofVocabulary (some v) catalog) s).2.reseed left) := by
  have hvocabulary : (Scene.ofVocabulary (some v) catalog).hasVocabulary = true := rfl
  unfold Query.weave
  rw [if_pos hvocabulary]
  cases herase : q.isErase with
  | true => exact ⟨stream, rfl⟩
  | false =>
    rw [if_neg Bool.false_ne_true, if_neg Bool.false_ne_true]
    -- term and memory are those of the pick, and only the words that are left may differ
    obtain ⟨left, hanswer⟩ := @Vocabulary.answer_eq v q.toLookup s.stream s.memory
    obtain ⟨left', hanswer'⟩ := @Vocabulary.answer_eq v q.toLookup stream s.memory
    rw [Vocabulary.picked?_of_forced (h herase) stream s.stream] at hanswer'
    have hresolve : (Scene.ofVocabulary (some v) catalog).resolve q (s.reseed stream) =
        (((Scene.ofVocabulary (some v) catalog).resolve q s).1,
          ((Scene.ofVocabulary (some v) catalog).resolve q s).2.reseed left') := by
      unfold Scene.resolve Scene.ofVocabulary RunState.reseed
      simp only [Option.map_some]
      rw [hanswer, hanswer']
    refine ⟨left', ?_⟩
    rw [hresolve]
    rcases (Scene.ofVocabulary (some v) catalog).resolve q s with ⟨_ | term, t⟩
    · rfl
    · cases q.complement <;> rfl

theorem Frame.resume_reseed (frame : Frame) (s : RunState)
    (h : ∀ q, frame.asks? = some q → v.Forced q s.memory) (stream : Keystream) :
    ∃ left, frame.resume (.ofVocabulary (some v) catalog) (s.reseed stream) =
      ((frame.resume (.ofVocabulary (some v) catalog) s).1,
        (frame.resume (.ofVocabulary (some v) catalog) s).2.reseed left) := by
  cases frame with
  | text location content => exact ⟨stream, rfl⟩
  | sequence location begun ahead =>
    cases ahead with
    | nil => exact ⟨stream, rfl⟩
    | cons child ahead => exact ⟨stream, rfl⟩
  | query location q phase =>
    cases phase with
    | waiting tail => exact ⟨stream, by rw [resume, resume, RunState.printAll_reseed]⟩
    | fresh =>
      obtain ⟨left, hweave⟩ := q.weave_reseed catalog s (Query.forced_of_asks h) stream
      refine ⟨left, ?_⟩
      rw [resume, resume, hweave]
      rcases q.weave (.ofVocabulary (some v) catalog) s with ⟨units | ⟨woven, inner⟩, t⟩
      · simp only [RunState.printAll_reseed]
      · simp only [RunState.printAll_reseed]

theorem Frame.event?_reseed (frame : Frame) (s : RunState)
    (h : ∀ q, frame.asks? = some q → v.Forced q s.memory) (stream : Keystream) :
    frame.event? v (s.reseed stream) = frame.event? v s := by
  cases frame with
  | text location content => rfl
  | sequence location begun ahead => rfl
  | query location q phase =>
    cases phase with
    | waiting tail => rfl
    | fresh =>
      rw [event?, event?, Query.event, Query.event]
      cases herase : q.isErase with
      | true => rfl
      | false =>
        -- an event is told by the pick alone
        have hpick : v.picked? q.toLookup (s.reseed stream).stream (s.reseed stream).memory =
            v.picked? q.toLookup s.stream s.memory :=
          Vocabulary.picked?_of_forced (Query.forced_of_asks h herase) stream s.stream
        rw [hpick]

/-- **A step** whose lookup is forced is the same with other words, and makes the same event. -/
theorem Machine.step_reseed {m : Machine} (h : ∀ q, m.asks? = some q → v.Forced q m.state.memory)
    (stream : Keystream) :
    (∃ left, (m.reseed stream).step (.ofVocabulary (some v) catalog) =
      (m.step (.ofVocabulary (some v) catalog)).map (·.reseed left)) ∧
    (m.reseed stream).event? v = m.event? v := by
  obtain ⟨frames, s⟩ := m
  cases frames with
  | nil => exact ⟨⟨stream, rfl⟩, rfl⟩
  | cons top below =>
    have htop : ∀ q, top.asks? = some q → v.Forced q s.memory := h
    refine ⟨?_, top.event?_reseed s htop stream⟩
    obtain ⟨left, hresume⟩ := top.resume_reseed catalog s htop stream
    refine ⟨left, ?_⟩
    simp only [reseed, step, hresume]
    rcases top.resume (.ofVocabulary (some v) catalog) s with ⟨frame | _, t⟩
    · rfl
    · rfl

/-- **Any number of steps.** -/
theorem Machine.advance_reseed (limit : Nat) {m : Machine}
    (h : ∀ made q, (m.advance (.ofVocabulary (some v) catalog) made).asks? = some q →
      v.Forced q (m.advance (.ofVocabulary (some v) catalog) made).state.memory)
    (stream : Keystream) :
    (∃ left, (m.reseed stream).advance (.ofVocabulary (some v) catalog) limit =
      (m.advance (.ofVocabulary (some v) catalog) limit).reseed left) ∧
    (m.reseed stream).journal v catalog limit = m.journal v catalog limit := by
  induction limit generalizing m stream with
  | zero => exact ⟨⟨stream, rfl⟩, rfl⟩
  | succ limit ih =>
    have hfirst : ∀ q, m.asks? = some q → v.Forced q m.state.memory := h 0
    obtain ⟨⟨left, hstep⟩, hevent⟩ := step_reseed catalog hfirst stream
    rw [advance, advance, journal, journal, hstep, hevent]
    cases hnext : m.step (.ofVocabulary (some v) catalog) with
    | none => exact ⟨⟨stream, rfl⟩, rfl⟩
    | some next =>
      -- the machines that the next one comes to are those that this one comes to a step later
      have hlater : ∀ made q,
          (next.advance (.ofVocabulary (some v) catalog) made).asks? = some q →
          v.Forced q (next.advance (.ofVocabulary (some v) catalog) made).state.memory := by
        intro made
        have hreached : m.advance (.ofVocabulary (some v) catalog) (made + 1) =
            next.advance (.ofVocabulary (some v) catalog) made := by
          rw [advance, hnext]
        rw [← hreached]
        exact h (made + 1)
      obtain ⟨hadvance, hjournal⟩ := ih hlater left
      exact ⟨hadvance, congrArg ((m.event? v).toList ++ ·) hjournal⟩

/-- **Forced runs.** Run a tree from some state, and suppose that whenever the machine comes to ask
the vocabulary, the lookup is forced in the memory that it has then. Run it again with any other
random words. The same lookups are made and they are answered by the same entries with the same
terms, the same is printed, and the same is remembered. -/
theorem Node.run_forced (root : Node) (s : RunState)
    (h : let begun := Machine.ofNode root s
      ∀ made q, (begun.advance (.ofVocabulary (some v) catalog) made).asks? = some q →
        v.Forced q (begun.advance (.ofVocabulary (some v) catalog) made).state.memory)
    (stream : Keystream) :
    let scene := Scene.ofVocabulary (some v) catalog
    let s' : RunState := { s with stream }
    Session.journal v catalog [root] s' = Session.journal v catalog [root] s ∧
    (root.run scene s').output = (root.run scene s).output ∧
    (root.run scene s').memory = (root.run scene s).memory := by
  intro scene s'
  -- the number of steps that are left is told by the frames, so it is the same for both runs
  obtain ⟨⟨left, hadvance⟩, hjournal⟩ :=
    Machine.advance_reseed catalog (Machine.ofNode root s).stepsLeft h stream
  have hrun : root.run scene s' = (root.run scene s).reseed left := congrArg Machine.state hadvance
  refine ⟨congrArg (· ++ []) hjournal, ?_, ?_⟩
  · rw [hrun]
    rfl
  · rw [hrun]
    rfl

/-- There is one verb, it has the classes of one noun, and another noun is pinned. -/
theorem Node.run_forced_whale :
    let it : Tie := ⟨.associative, "it"⟩
    let that : Tie := ⟨.matching, "that"⟩
    let root : Node :=
      .sequence .origin [.tied "verb" [it], .tied "noun" [it], .tied "noun" [that]]
    let s : RunState := ⟨.empty, Memory.empty.record ⟨"noun", 2⟩ that, .ofSeed 0⟩
    let s' : RunState := { s with stream := .ofSeed 1 }
    let scene := Scene.ofVocabulary (some menagerie) .english
    (root.run scene s).output.units = ["purr", "cat", "whale"] ∧
      (root.run scene s').output.units = ["purr", "cat", "whale"] ∧
      (root.run scene s').memory = (root.run scene s).memory := by
  intro it that root s s' scene
  have hforced : ∀ made q, ((Machine.ofNode root s).advance scene made).asks? = some q →
      menagerie.Forced q ((Machine.ofNode root s).advance scene made).state.memory := by
    -- after seven steps the machine has ended
    have hsteps : (Machine.ofNode root s).stepsLeft = 7 := by decide
    have hbefore : ∀ made < 7, ∀ q ∈ ((Machine.ofNode root s).advance scene made).asks?,
        menagerie.Forced q ((Machine.ofNode root s).advance scene made).state.memory := by
      decide +kernel
    intro made q hq
    by_cases hmade : made < 7
    · exact hbefore made hmade q hq
    · rw [Machine.advance_eq (by omega)] at hq
      exact nomatch hq
  obtain ⟨-, houtput, hmemory⟩ := Node.run_forced .english root s hforced (.ofSeed 1)
  have hunits : (root.run scene s).output.units = ["purr", "cat", "whale"] := by decide +kernel
  exact ⟨hunits, (congrArg Output.units houtput).trans hunits, hmemory⟩

end Steps

end Wordweave
