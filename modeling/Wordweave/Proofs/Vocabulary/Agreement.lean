import Wordweave.Proofs.Memory.Slots
import Wordweave.Proofs.Vocabulary.Answer

/-!
# Wordweave — memories that agree

Two memories *agree* on some ties if under each of them both remember nothing, the same anchor, or
the same used entries. Used entries are a set, so their order is of no account, and neither is how
often an entry is listed.

A lookup looks up its own ties and no others: the names that may pin it, and the ties that have to
admit a candidate. In memories that agree on them it is answered the same term, and leaves the same
random words (`Vocabulary.answer_of_agree`). What it records makes no difference to what the
memories agree on, be it more than its own ties (`Memory.Agree.recordAll`), and so it is with what
is forgotten (`Memory.Agree.removeAll`).
-/

namespace Wordweave

/-! ## Memories -/

/-- The same is remembered: the same anchor, or the same set of used entries. -/
inductive Recall.Same : Recall → Recall → Prop
  | anchor (entry : EntryRef) : Same (.anchor entry) (.anchor entry)
  | used {entries entries' : List EntryRef} (h : ∀ ref, ref ∈ entries ↔ ref ∈ entries') :
      Same (.used entries) (.used entries')

theorem Recall.Same.refl : ∀ memo : Recall, memo.Same memo
  | .anchor entry => .anchor entry
  | .used _ => .used fun _ => Iff.rfl

/-- The same is remembered under each of some ties. -/
def Memory.Agree (ties : List Tie) (m m' : Memory) : Prop :=
  ∀ tie ∈ ties, Option.Rel Recall.Same (m.get? tie) (m'.get? tie)

/-- If the same was remembered before a pick, the same is remembered after it. -/
theorem TieKind.same_picked (kind : TieKind) (ref : EntryRef) {before before' : Option Recall}
    (h : Option.Rel Recall.Same before before') :
    (kind.picked ref before).Same (kind.picked ref before') := by
  cases h with
  | none => exact .refl _
  | some hsame =>
    cases hsame with
    | anchor entry => exact .refl _
    | @used entries entries' hused =>
      -- whether the entry is new is the same question for both lists
      rw [picked, picked]
      simp only [hused ref]
      split
      · refine .used fun other => ?_
        rw [List.mem_append, List.mem_append, hused other]
      · exact .used hused

namespace Memory.Agree

variable {ties : List Tie} {m m' : Memory}

/-- Memories that agree on some ties agree on some of them. -/
theorem mono {others : List Tie} (h : m.Agree ties m') (hsub : ∀ tie ∈ others, tie ∈ ties) :
    m.Agree others m' :=
  fun tie htie => h tie (hsub tie htie)

theorem anchor?_eq (h : m.Agree ties m') {tie : Tie} (htie : tie ∈ ties) :
    m.anchor? tie = m'.anchor? tie := by
  have hget := h tie htie
  unfold anchor?
  generalize m.get? tie = memo, m'.get? tie = memo' at hget
  cases hget with
  | none => rfl
  | some hsame => cases hsame <;> rfl

/-- Whether an entry is unused under a tie. -/
theorem all_used?_eq (h : m.Agree ties m') {tie : Tie} (htie : tie ∈ ties) (ref : EntryRef) :
    (m.used? tie).all (!·.contains ref) = (m'.used? tie).all (!·.contains ref) := by
  have hget := h tie htie
  unfold used?
  generalize m.get? tie = memo, m'.get? tie = memo' at hget
  cases hget with
  | none => rfl
  | some hsame =>
    cases hsame with
    | anchor entry => rfl
    | used hused =>
      rw [Option.all_some, Option.all_some, Bool.eq_iff_iff]
      simp [hused ref]

/-- A pick that is recorded in both memories makes no difference. -/
theorem recordAll (h : m.Agree ties m') (ref : EntryRef) (others : List Tie) :
    (m.recordAll ref others).Agree ties (m'.recordAll ref others) := by
  intro tie htie
  rw [get?_recordAll, get?_recordAll]
  split
  · exact .some (tie.kind.same_picked ref (h tie htie))
  · exact h tie htie

/-- Ties that are forgotten in both memories make no difference. -/
theorem removeAll (h : m.Agree ties m') (others : List Tie) :
    (m.removeAll others).Agree ties (m'.removeAll others) := by
  intro tie htie
  rw [get?_removeAll, get?_removeAll]
  split
  · exact .none
  · exact h tie htie

end Memory.Agree

/-! ## Lookups -/

section Lists

variable {α β : Type}

/-- A search asks the members of a list and nothing else. -/
theorem findSome?_congr {f g : α → Option β} {l : List α} (h : ∀ a ∈ l, f a = g a) :
    l.findSome? f = l.findSome? g := by
  induction l with
  | nil => rfl
  | cons a l ih =>
    obtain ⟨ha, hl⟩ := List.forall_mem_cons.mp h
    rw [List.findSome?_cons, List.findSome?_cons, ha, ih hl]

/-- A partial test of all members asks the members and nothing else. -/
theorem allM_congr {p q : α → Option Bool} {l : List α} (h : ∀ a ∈ l, p a = q a) :
    l.allM p = l.allM q := by
  induction l with
  | nil => rfl
  | cons a l ih =>
    obtain ⟨ha, hl⟩ := List.forall_mem_cons.mp h
    rw [List.allM_cons, List.allM_cons, ha, ih hl]

/-- A partial test of what has been made of the members is one of the members. -/
theorem allM_map (f : α → β) (p : β → Option Bool) (l : List α) :
    (l.map f).allM p = l.allM fun a => p (f a) := by
  induction l with
  | nil => rfl
  | cons a l ih => rw [List.map_cons, List.allM_cons, List.allM_cons, ih]

end Lists

section Lookups

variable {q : Lookup} {m m' : Memory} (h : m.Agree q.ties m')

include h

/-- Memories that agree on the ties of a lookup pin it to the same entry. -/
theorem Table.pinned?_of_agree (t : Table) : t.pinned? q m = t.pinned? q m' := by
  refine findSome?_congr fun name hname => ?_
  rw [h.anchor?_eq (Lookup.mem_matchingNames.mp hname)]

namespace Vocabulary

variable (v : Vocabulary)

theorem admissible?_of_agree (table : String) (subtype : Nat) :
    v.admissible? m q table subtype = v.admissible? m' q table subtype := by
  funext c
  unfold admissible?
  congr 1
  refine allM_congr fun tie htie => ?_
  rw [admits?, admits?, h.anchor?_eq htie, h.all_used?_eq htie]

theorem pick?_of_agree (t : Table) (subtype : Nat) (s : Keystream) :
    v.pick? q t subtype s m = v.pick? q t subtype s m' := by
  rw [pick?, pick?, t.pinned?_of_agree h, v.admissible?_of_agree h]

theorem picked?_of_agree (s : Keystream) : v.picked? q s m = v.picked? q s m' := by
  unfold picked?
  simp only [v.pick?_of_agree h, Table.pinned?_of_agree h]

/-- **Lookups.** In memories that agree on its ties a lookup is answered the same term and leaves the
same random words. -/
theorem answer_of_agree (s : Keystream) :
    (v.answer q s m).term = (v.answer q s m').term ∧
      (v.answer q s m).stream = (v.answer q s m').stream := by
  refine ⟨by rw [term_answer, term_answer, v.picked?_of_agree h], ?_⟩
  unfold answer answer?
  simp only [v.pick?_of_agree h]
  -- the words are those that the pick leaves, whatever is recorded after it
  cases q.name.bind v.table? with
  | none => rfl
  | some t =>
    dsimp only
    cases t.subtypeIndex? q.subtype with
    | none => rfl
    | some subtype =>
      dsimp only
      rcases v.pick? q t subtype s m' with _ | ⟨_ | index, s'⟩
      · rfl
      · rfl
      · dsimp only
        cases t.entries[index]? with
        | none => rfl
        | some e =>
          dsimp only [Option.bind_eq_bind, Option.bind_some]
          cases e.term? subtype <;> rfl

/-- The memories that are left agree on whatever they agreed on before, if this includes the ties of
the lookup. -/
theorem agree_answer {ties : List Tie} (hties : m.Agree ties m') (s : Keystream) :
    (v.answer q s m).memory.Agree ties (v.answer q s m').memory := by
  rw [memory_answer, memory_answer, v.picked?_of_agree h]
  cases v.picked? q s m' with
  | none => exact hties
  | some p => exact hties.recordAll p.entry q.ties

end Vocabulary

end Lookups

/-- A lookup leaves alone what is remembered under other ties. -/
theorem Vocabulary.get?_memory_answer {v : Vocabulary} {q : Lookup} {s : Keystream} {m : Memory}
    {tie : Tie} (htie : tie ∉ q.ties) : (v.answer q s m).memory.get? tie = m.get? tie := by
  rw [memory_answer]
  cases v.picked? q s m with
  | none => rfl
  | some p => rw [Option.elim_some, Memory.get?_recordAll, if_neg htie]

end Wordweave
