import Wordweave.Proofs.Run.Evaluation
import Wordweave.Proofs.Vocabulary.Answer

/-!
# Wordweave — what happens in a session

A *session* is several trees that are run one after the other, each in the state that the one before
it has left. Its memory is touched in two ways only: a lookup is answered, or a lookup without a
table forgets its ties. Each of them is an `Event`, made by the step of the machine that resumes the
query, and the *journal* of a session is its events in order.

The journal tells all that the memory goes through. Every event is right in the memory that it
finds, and it leaves just the memory that the next one finds (`Leads`).

The events are those of the *calls* of the session, which are the queries that begin, each with the
state that it finds. So the pick at a place of the journal is what the call at this place returns
and records (`Session.Returns`), and every call that returns a term has its pick there.

Main results:

* `Machine.memory_step`           — what a step does to the memory.
* `Machine.leads_journal`         — what the steps of a run do.
* `Session.leads_journal`         — what a session does.
* `Session.returns_of_journal`    — the picks of a session are what its calls return.
* `Session.exists_picked_of_call` — and they are all that its calls return.
-/

namespace Wordweave

/-! ## Events -/

/-- What happens to a memory. -/
inductive Event
  /-- A lookup is answered by a pick. -/
  | picked (p : Pick)
  /-- A lookup is not answered. -/
  | missed (q : Lookup)
  /-- A lookup without a table forgets its ties. -/
  | erased (q : Lookup)
deriving DecidableEq

namespace Event

/-- The memory after an event. -/
def apply (m : Memory) : Event → Memory
  | .picked p => m.recordAll p.entry p.lookup.ties
  | .missed _ => m
  | .erased q => m.removeAll q.ties

/-- The term that is answered, if there is one. -/
def term? : Event → Option Term
  | .picked p => some p.term
  | .missed _ | .erased _ => none

/-- An event is right in a memory if its pick is. -/
def Fits (v : Vocabulary) (m : Memory) : Event → Prop
  | .picked p => ∃ t subtype e, p.Fits v m t subtype e
  | .missed _ | .erased _ => True

end Event

/-- Events lead from one memory to another if each is right in the memory that the ones before it
have left. -/
inductive Leads (v : Vocabulary) : Memory → List Event → Memory → Prop
  | nil (m : Memory) : Leads v m [] m
  | cons {m m' : Memory} {e : Event} {events : List Event} (hfits : e.Fits v m)
      (hrest : Leads v (e.apply m) events m') : Leads v m (e :: events) m'

namespace Leads

variable {v : Vocabulary} {m m' middle : Memory} {before after : List Event}

theorem append (h : Leads v m before middle) (h' : Leads v middle after m') :
    Leads v m (before ++ after) m' := by
  induction h with
  | nil => exact h'
  | cons hfits _ ih => exact .cons hfits (ih h')

theorem exists_between (h : Leads v m (before ++ after) m') :
    ∃ middle, Leads v m before middle ∧ Leads v middle after m' := by
  induction before generalizing m with
  | nil => exact ⟨m, .nil m, h⟩
  | cons e before ih =>
    cases h with
    | cons hfits hrest =>
      obtain ⟨middle, hbefore, hafter⟩ := ih hrest
      exact ⟨middle, .cons hfits hbefore, hafter⟩

/-- An event is right in the memory to which those before it lead. -/
theorem exists_fits {e : Event} (h : Leads v m (before ++ e :: after) m') :
    ∃ middle, Leads v m before middle ∧ e.Fits v middle := by
  obtain ⟨middle, hbefore, hafter⟩ := h.exists_between
  cases hafter with
  | cons hfits _ => exact ⟨middle, hbefore, hfits⟩

end Leads

/-! ## Steps -/

section Steps

variable (v : Vocabulary) (catalog : Catalog)

/-- The event of a query that begins. -/
def Query.event (q : Query) (s : RunState) : Event :=
  if q.isErase then .erased q.toLookup
  else (v.picked? q.toLookup s.stream s.memory).elim (.missed q.toLookup) .picked

/-- The event of a frame that is resumed. Only a query that begins makes one. -/
def Frame.event? (s : RunState) : Frame → Option Event
  | .query _ q .fresh => some (q.event v s)
  | .text _ _ | .sequence _ _ _ | .query _ _ (.waiting _) => none

/-- The event of the next step. -/
def Machine.event? (m : Machine) : Option Event := m.frames.head?.bind (·.event? v m.state)

/-- The events of at most `limit` steps. -/
def Machine.journal : (limit : Nat) → Machine → List Event
  | 0, _ => []
  | limit + 1, m =>
    match m.step (.ofVocabulary (some v) catalog) with
    | some next => (m.event? v).toList ++ journal limit next
    | none => []

theorem RunState.memory_printAll (s : RunState) (units : List String) :
    (s.printAll units).memory = s.memory := by
  induction units generalizing s with
  | nil => rfl
  | cons unit units ih =>
    show ((s.print unit).printAll units).memory = s.memory
    rw [ih]
    rfl

/-- The term that answers a query is that of its event. -/
theorem Query.term_resolve (q : Query) (s : RunState) :
    ((Scene.ofVocabulary (some v) catalog).resolve q s).1 = (q.event v s).term? := by
  have hterm : ((Scene.ofVocabulary (some v) catalog).resolve q s).1 =
      (v.picked? q.toLookup s.stream s.memory).map (·.term) := Vocabulary.term_answer
  rw [hterm, Query.event]
  by_cases herase : q.isErase = true
  · -- there is no pick without a table
    have hname : q.name = none := Option.isNone_iff_eq_none.mp herase
    rw [if_pos herase, Vocabulary.picked?, hname]
    rfl
  · rw [if_neg herase]
    cases v.picked? q.toLookup s.stream s.memory <;> rfl

/-- The memory after a query is the one that it finds, with its pick recorded if there is one. -/
theorem Query.memory_resolve (q : Query) (s : RunState) :
    ((Scene.ofVocabulary (some v) catalog).resolve q s).2.memory =
      (v.picked? q.toLookup s.stream s.memory).elim s.memory fun p =>
        s.memory.recordAll p.entry q.toLookup.ties :=
  Vocabulary.memory_answer

/-- A query that begins does to the memory what its event does. -/
theorem Query.memory_weave (q : Query) (s : RunState) :
    (q.weave (.ofVocabulary (some v) catalog) s).2.memory = (q.event v s).apply s.memory := by
  unfold Query.weave Query.event
  have hvocabulary : (Scene.ofVocabulary (some v) catalog).hasVocabulary = true := rfl
  rw [if_pos hvocabulary]
  by_cases herase : q.isErase = true
  · rw [if_pos herase, if_pos herase]
    rfl
  · rw [if_neg herase, if_neg herase]
    -- whatever becomes of the answer, its memory is kept
    have hmemory := q.memory_resolve v catalog s
    cases hpick : v.picked? q.toLookup s.stream s.memory with
    | none =>
      rw [hpick] at hmemory
      split <;> simp_all [Event.apply]
    | some p =>
      obtain ⟨hlookup, -⟩ := Vocabulary.fits_of_picked? hpick
      rw [hpick, ← hlookup] at hmemory
      split <;> simp_all [Event.apply]

/-- The event of a query is right in the memory that it finds. -/
theorem Query.fits_event (q : Query) (s : RunState) : (q.event v s).Fits v s.memory := by
  unfold Query.event
  by_cases herase : q.isErase = true
  · rw [if_pos herase]
    trivial
  · rw [if_neg herase]
    cases hpick : v.picked? q.toLookup s.stream s.memory with
    | none => trivial
    | some p => exact (Vocabulary.fits_of_picked? hpick).2

/-- A frame that is resumed does to the memory what its event does, if it makes one. -/
theorem Frame.memory_resume (frame : Frame) (s : RunState) :
    (frame.resume (.ofVocabulary (some v) catalog) s).2.memory =
      (frame.event? v s).elim s.memory (·.apply s.memory) := by
  cases frame with
  | text location content => rfl
  | sequence location begun ahead => cases ahead <;> rfl
  | query location q phase =>
    cases phase with
    | waiting tail => exact RunState.memory_printAll s _
    | fresh =>
      -- what is printed before a complement, or instead of one, is nothing to the memory
      have hweave := q.memory_weave v catalog s
      rcases hw : q.weave (.ofVocabulary (some v) catalog) s with ⟨units | ⟨woven, inner⟩, t⟩
      · rw [hw] at hweave
        simp only [resume, hw, event?, Option.elim_some, RunState.memory_printAll]
        exact hweave
      · rw [hw] at hweave
        simp only [resume, hw, event?, Option.elim_some, RunState.memory_printAll]
        exact hweave

variable {v catalog}

/-- **A step.** It does to the memory what its event does, and leaves the memory as it is if it makes
none. -/
theorem Machine.memory_step {m next : Machine}
    (h : m.step (.ofVocabulary (some v) catalog) = some next) :
    next.state.memory = (m.event? v).elim m.state.memory (·.apply m.state.memory) := by
  obtain ⟨top, below, hframes, hnext⟩ := cases_of_step h
  have hevent : m.event? v = top.event? v m.state := by
    rw [event?, hframes]
    rfl
  have hresume := top.memory_resume v catalog m.state
  rw [hevent]
  -- the memory is that of the frame on top, whether it begins a child or ends
  obtain ⟨frame, child, t, hr, rfl⟩ | ⟨t, hr, rfl⟩ := hnext
  · rwa [hr] at hresume
  · rwa [hr] at hresume

/-- The event of a step is right in the memory that it finds. -/
theorem Machine.fits_event {m : Machine} {e : Event} (h : m.event? v = some e) :
    e.Fits v m.state.memory := by
  obtain ⟨frame, -, hevent⟩ := Option.bind_eq_some_iff.mp h
  cases frame with
  | text location content => exact nomatch hevent
  | sequence location begun ahead => exact nomatch hevent
  | query location q phase =>
    cases phase with
    | waiting tail => exact nomatch hevent
    | fresh =>
      obtain rfl : q.event v m.state = e := Option.some.inj hevent
      exact q.fits_event v m.state

/-! ## Runs -/

/-- **A run.** Its events lead from the memory that it finds to the memory that it leaves. -/
theorem Machine.leads_journal (limit : Nat) (m : Machine) :
    Leads v m.state.memory (m.journal v catalog limit)
      (m.advance (.ofVocabulary (some v) catalog) limit).state.memory := by
  -- the journal and the run go by the same steps
  induction limit generalizing m with
  | zero => exact .nil _
  | succ limit ih =>
    unfold journal advance
    cases hstep : m.step (.ofVocabulary (some v) catalog) with
    | none => exact .nil _
    | some next =>
      have hrest := ih next
      have hmemory := memory_step hstep
      cases hevent : m.event? v with
      | none =>
        rw [hevent] at hmemory
        rwa [hmemory] at hrest
      | some e =>
        rw [hevent] at hmemory
        rw [hmemory] at hrest
        exact .cons (fits_event hevent) hrest

/-! ## Calls -/

/-- A query that begins, and the state that it finds. -/
structure Call where
  query : Query
  state : RunState

/-- A pick is what a call returns and records: the call asks for its lookup, the term that is given
back is its term, and its entry is recorded under the ties of the lookup. -/
structure Pick.Answers (p : Pick) (scene : Scene) (c : Call) : Prop where
  lookup_eq : c.query.toLookup = p.lookup
  term_eq : (scene.resolve c.query c.state).1 = some p.term
  memory_eq : (scene.resolve c.query c.state).2.memory =
    c.state.memory.recordAll p.entry p.lookup.ties

/-- The call of a frame that is resumed. Only a query that begins makes one. -/
def Frame.call? (s : RunState) : Frame → Option Call
  | .query _ q .fresh => some ⟨q, s⟩
  | .text _ _ | .sequence _ _ _ | .query _ _ (.waiting _) => none

/-- The call of the next step. -/
def Machine.call? (m : Machine) : Option Call := m.frames.head?.bind (·.call? m.state)

/-- The calls of at most `limit` steps. -/
def Machine.calls (scene : Scene) : (limit : Nat) → Machine → List Call
  | 0, _ => []
  | limit + 1, m =>
    match m.step scene with
    | some next => m.call?.toList ++ calls scene limit next
    | none => []

theorem Query.picked?_of_event {q : Query} {s : RunState} {p : Pick}
    (h : q.event v s = .picked p) : v.picked? q.toLookup s.stream s.memory = some p := by
  unfold event at h
  split at h
  · -- an erasure is no pick
    exact nomatch h
  · cases hpick : v.picked? q.toLookup s.stream s.memory with
    | none =>
      rw [hpick] at h
      exact nomatch h
    | some picked =>
      rw [hpick] at h
      rw [Event.picked.inj h]

/-- A query whose event is a pick is answered by the pick. -/
theorem Query.answers_of_event {q : Query} {s : RunState} {p : Pick}
    (h : q.event v s = .picked p) : p.Answers (.ofVocabulary (some v) catalog) ⟨q, s⟩ := by
  have hpick := picked?_of_event h
  obtain ⟨hlookup, -⟩ := Vocabulary.fits_of_picked? hpick
  have hterm := q.term_resolve v catalog s
  have hmemory := q.memory_resolve v catalog s
  rw [h] at hterm
  rw [hpick, ← hlookup] at hmemory
  exact ⟨hlookup.symm, hterm, hmemory⟩

/-- The event of a step is that of its call. -/
theorem Machine.event?_eq_map (m : Machine) :
    m.event? v = m.call?.map fun c => c.query.event v c.state := by
  unfold event? call?
  cases m.frames.head? with
  | none => rfl
  | some frame =>
    cases frame with
    | text location content => rfl
    | sequence location begun ahead => rfl
    | query location q phase => cases phase <;> rfl

/-- The events of a run are those of its calls, place by place. -/
theorem Machine.journal_eq_map (limit : Nat) (m : Machine) :
    m.journal v catalog limit =
      (m.calls (.ofVocabulary (some v) catalog) limit).map fun c => c.query.event v c.state := by
  -- both go by the same steps
  induction limit generalizing m with
  | zero => rfl
  | succ limit ih =>
    unfold journal calls
    cases m.step (.ofVocabulary (some v) catalog) with
    | none => rfl
    | some next =>
      show (m.event? v).toList ++ next.journal v catalog limit = _
      rw [ih, event?_eq_map, List.map_append]
      cases m.call? <;> rfl

end Steps

/-! ## Sessions -/

namespace Session

/-- The state after several trees have been run in order. -/
def run (scene : Scene) (roots : List Node) (s : RunState) : RunState :=
  roots.foldl (fun s root => root.run scene s) s

/-- The events of several trees that are run in order. -/
def journal (v : Vocabulary) (catalog : Catalog) : List Node → RunState → List Event
  | [], _ => []
  | root :: roots, s =>
    (Machine.ofNode root s).journal v catalog (Machine.ofNode root s).stepsLeft ++
      journal v catalog roots (root.run (.ofVocabulary (some v) catalog) s)

/-- The calls of several trees that are run in order. -/
def calls (scene : Scene) : List Node → RunState → List Call
  | [], _ => []
  | root :: roots, s =>
    (Machine.ofNode root s).calls scene (Machine.ofNode root s).stepsLeft ++
      calls scene roots (root.run scene s)

/-- A pick is what the call at some place of a session returns and records. -/
def Returns (scene : Scene) (roots : List Node) (s : RunState) (place : Nat) (p : Pick) : Prop :=
  ∃ c, (calls scene roots s)[place]? = some c ∧ p.Answers scene c

variable (v : Vocabulary) (catalog : Catalog)

/-- The events of a session are those of its calls, place by place. -/
theorem journal_eq_map (roots : List Node) (s : RunState) :
    journal v catalog roots s =
      (calls (.ofVocabulary (some v) catalog) roots s).map fun c => c.query.event v c.state := by
  induction roots generalizing s with
  | nil => rfl
  | cons root roots ih =>
    rw [journal, calls, List.map_append, ih, Machine.journal_eq_map]

section Calls

variable {v catalog} {roots : List Node} {s : RunState}

/-- **Calls.** A pick of the journal is what the call at its place returns and records. -/
theorem returns_of_journal {before after : List Event} {p : Pick}
    (h : journal v catalog roots s = before ++ .picked p :: after) :
    Returns (.ofVocabulary (some v) catalog) roots s before.length p := by
  -- the place of the pick in the journal is that of its call among the calls
  have hplace : (journal v catalog roots s)[before.length]? = some (.picked p) := by
    rw [h, List.getElem?_append_right (Nat.le_refl _), Nat.sub_self, List.getElem?_cons_zero]
  rw [journal_eq_map, List.getElem?_map] at hplace
  obtain ⟨c, hcall, hevent⟩ := Option.map_eq_some_iff.mp hplace
  exact ⟨c, hcall, Query.answers_of_event hevent⟩

/-- And every call that returns a term has its pick in the journal. -/
theorem exists_picked_of_call {place : Nat} {c : Call} {term : Term}
    (hcall : (calls (.ofVocabulary (some v) catalog) roots s)[place]? = some c)
    (hterm : ((Scene.ofVocabulary (some v) catalog).resolve c.query c.state).1 = some term) :
    ∃ p, (journal v catalog roots s)[place]? = some (.picked p) ∧
      p.Answers (.ofVocabulary (some v) catalog) c := by
  have hplace : (journal v catalog roots s)[place]? = some (c.query.event v c.state) := by
    rw [journal_eq_map, List.getElem?_map, hcall, Option.map_some]
  rw [Query.term_resolve] at hterm
  -- of the three events only a pick has a term
  cases hevent : c.query.event v c.state with
  | picked p =>
    rw [hevent] at hplace
    exact ⟨p, hplace, Query.answers_of_event hevent⟩
  | missed q =>
    rw [hevent] at hterm
    exact nomatch hterm
  | erased q =>
    rw [hevent] at hterm
    exact nomatch hterm

end Calls

/-- **A session.** Its events lead from the memory that it finds to the memory that it leaves. -/
theorem leads_journal (roots : List Node) (s : RunState) :
    Leads v s.memory (journal v catalog roots s)
      (run (.ofVocabulary (some v) catalog) roots s).memory := by
  induction roots generalizing s with
  | nil => exact .nil _
  | cons root roots ih =>
    exact (Machine.leads_journal _ (Machine.ofNode root s)).append (ih _)

end Session

/-! ## A small vocabulary -/

/-- Three nouns and a verb, in tables of one subtype. -/
def menagerie : Vocabulary :=
  ⟨[⟨"noun", Table.standardSubtypes, [⟨["cat"], ["furry", "small"]⟩, ⟨["eel"], ["small"]⟩,
      ⟨["whale"], ["large"]⟩]⟩,
    ⟨"verb", Table.standardSubtypes, [⟨["purr"], ["small", "furry"]⟩]⟩]⟩

/-- A lookup in a table under some ties. -/
def Lookup.tied (table : String) (ties : List Tie) : Lookup :=
  { blank with name := some table, carrier := some (Carrier.empty.addAll ties) }

/-- The tree that makes such a lookup and nothing else. -/
def Node.tied (table : String) (ties : List Tie) : Node := .query .origin (.tied table ties) none

/-- A pick that answers such a lookup. -/
def Pick.tied (table : String) (ties : List Tie) (index : Nat) (term : String) (pinned : Bool) :
    Pick :=
  ⟨.tied table ties, ⟨table, index⟩, .whole term, pinned⟩

end Wordweave
