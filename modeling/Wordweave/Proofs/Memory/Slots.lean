import Mathlib.Data.List.Nodup
import Wordweave.Vocabulary.Pick

/-!
# Wordweave — what is remembered under a tie

What is remembered can be read off the slots, in whatever order they are (`get?_eq_some_iff`). All
changes of a memory are changes of single ties: what is remembered under the others stays
(`get?_put`, `get?_remove`). To record a pick under a tie is such a change, and what is remembered
afterwards depends on what was remembered under this tie alone (`TieKind.picked`, `get?_record`,
`get?_recordAll`). What is true under every tie is therefore kept by a pick as soon as it is kept
under a single one (`forall_recordAll`).

To forget a tie that remembers nothing changes nothing, and neither does it to record a pick a
second time (`remove_eq_self`, `record_eq_self`).
-/

namespace Wordweave

/-- What is remembered under a tie of some kind after a pick. -/
def TieKind.picked (kind : TieKind) (ref : EntryRef) : Option Recall → Recall
  | some (.used entries) =>
    if kind = .unique ∧ ref ∉ entries then .used (entries ++ [ref]) else .used entries
  | some (.anchor entry) => if kind = .unique then .used [ref] else .anchor entry
  | none => if kind = .unique then .used [ref] else .anchor ref

/-- A pick that is recorded again is remembered as before. -/
theorem TieKind.picked_picked (kind : TieKind) (ref : EntryRef) (before : Option Recall) :
    kind.picked ref (some (kind.picked ref before)) = kind.picked ref before := by
  by_cases hkind : kind = .unique
  · cases before with
    | none => simp [picked, hkind]
    | some before =>
      cases before with
      | anchor entry => simp [picked, hkind]
      | used entries =>
        by_cases hmem : ref ∈ entries <;> simp [picked, hkind, hmem]
  · cases before with
    | none => simp [picked, hkind]
    | some before => cases before <;> simp [picked, hkind]

namespace Memory

/-- A memory is its slots. -/
theorem eq_of_slots {m m' : Memory} (h : m.slots = m'.slots) : m = m' := by
  obtain ⟨slots, nodup⟩ := m
  obtain rfl : slots = m'.slots := h
  rfl

/-- A tie remembers what its slot says; it has no more than one. -/
theorem get?_eq_some_iff {m : Memory} {tie : Tie} {memo : Recall} :
    m.get? tie = some memo ↔ (tie, memo) ∈ m.slots := by
  constructor
  · intro h
    obtain ⟨⟨found, memo⟩, hfound, rfl⟩ := Option.map_eq_some_iff.mp h
    obtain rfl : found = tie := by simpa using List.find?_some hfound
    exact List.mem_of_find?_eq_some hfound
  · intro h
    have hsome : (m.slots.find? (·.1 == tie)).isSome :=
      List.find?_isSome.mpr ⟨(tie, memo), h, beq_self_eq_true tie⟩
    obtain ⟨slot, hslot⟩ := Option.isSome_iff_exists.mp hsome
    have htie : slot.1 = tie := by simpa using List.find?_some hslot
    -- both slots are of the tie
    obtain rfl : slot = (tie, memo) :=
      List.inj_on_of_nodup_map m.nodup (List.mem_of_find?_eq_some hslot) h htie
    rw [get?, hslot]
    rfl

/-- What is put under a tie is remembered there, and nothing changes elsewhere. -/
theorem get?_put (m : Memory) (tie other : Tie) (memo : Recall) :
    (m.put tie memo).get? other = if other = tie then some memo else m.get? other := by
  by_cases h : other = tie
  · subst h
    simp [get?, put]
  · -- the slot of the tie goes to the front, where a search for the other one passes it
    have hne : tie ≠ other := Ne.symm h
    rw [if_neg h]
    unfold get? put remove
    rw [List.find?_cons_of_neg (by simpa using hne), List.find?_filter]
    congr 2
    funext slot
    by_cases hslot : slot.1 = other
    · simp [hslot, h]
    · simp [hslot]

/-- A tie that is forgotten remembers nothing, and nothing changes elsewhere. -/
theorem get?_remove (m : Memory) (tie other : Tie) :
    (m.remove tie).get? other = if other = tie then none else m.get? other := by
  unfold get? remove
  rw [List.find?_filter]
  by_cases h : other = tie
  · subst h
    simp
  · rw [if_neg h]
    congr 2
    funext slot
    by_cases hslot : slot.1 = other
    · simp [hslot, h]
    · simp [hslot]

/-- An anchor is set where nothing is remembered, and nothing changes elsewhere. -/
theorem get?_setAnchor (m : Memory) (tie other : Tie) (ref : EntryRef) :
    (m.setAnchor tie ref).get? other =
      if other = tie then some ((m.get? tie).getD (.anchor ref)) else m.get? other := by
  unfold setAnchor contains
  cases hget : m.get? tie with
  | none => exact get?_put m tie other (.anchor ref)
  | some memo =>
    by_cases h : other = tie
    · rw [if_pos h, h]
      exact hget
    · rw [if_neg h]
      rfl

/-- An entry is added to those that are used, or is the first of them, and nothing changes
elsewhere. -/
theorem get?_markUsed (m : Memory) (tie other : Tie) (ref : EntryRef) :
    (m.markUsed tie ref).get? other =
      if other = tie then some (TieKind.unique.picked ref (m.get? tie)) else m.get? other := by
  unfold markUsed
  cases hget : m.get? tie with
  | none => exact get?_put m tie other (.used [ref])
  | some memo =>
    cases memo with
    | anchor entry => exact get?_put m tie other (.used [ref])
    | used entries =>
      by_cases hmem : ref ∈ entries
      · -- nothing is put, and so nothing changes for the tie either
        by_cases h : other = tie <;> simp [TieKind.picked, hmem, h, hget]
      · simp [TieKind.picked, hmem, get?_put]

/-- To forget a tie that remembers nothing changes nothing. -/
theorem remove_eq_self {m : Memory} {tie : Tie} (h : m.get? tie = none) : m.remove tie = m := by
  obtain ⟨slots, nodup⟩ := m
  have hslots : ∀ slot ∈ slots, slot.1 ≠ tie := by simpa [get?] using h
  have hfilter : slots.filter (·.1 != tie) = slots :=
    List.filter_eq_self.mpr fun slot hslot => by simpa using hslots slot hslot
  simp only [remove, hfilter]

/-- To record a pick is to put what is remembered after it, unless it is remembered already. -/
theorem record_eq (m : Memory) (ref : EntryRef) (tie : Tie) :
    m.record ref tie =
      if m.get? tie = some (tie.kind.picked ref (m.get? tie)) then m
      else m.put tie (tie.kind.picked ref (m.get? tie)) := by
  unfold record
  by_cases hkind : tie.kind = .unique
  · rw [if_pos hkind, markUsed]
    cases hget : m.get? tie with
    | none => simp [TieKind.picked, hkind]
    | some before =>
      cases before with
      | anchor entry => simp [TieKind.picked, hkind]
      | used entries =>
        by_cases hmem : ref ∈ entries
        · simp [TieKind.picked, hkind, hmem]
        · simp [TieKind.picked, hkind, hmem]
  · rw [if_neg hkind, setAnchor, contains]
    cases hget : m.get? tie with
    | none => simp [TieKind.picked, hkind]
    | some before => cases before <;> simp [TieKind.picked, hkind]

/-- What is remembered after a pick has been recorded. -/
theorem get?_record (m : Memory) (ref : EntryRef) (tie other : Tie) :
    (m.record ref tie).get? other =
      if other = tie then some (tie.kind.picked ref (m.get? tie)) else m.get? other := by
  rw [record_eq]
  split
  · next hsame =>
    split
    · next h =>
      subst h
      exact hsame
    · rfl
  · exact get?_put ..

/-- What is remembered after a pick has been recorded under several ties. To record it under a tie
twice is to record it once. -/
theorem get?_recordAll (m : Memory) (ref : EntryRef) (ties : List Tie) (tie : Tie) :
    (m.recordAll ref ties).get? tie =
      if tie ∈ ties then some (tie.kind.picked ref (m.get? tie)) else m.get? tie := by
  induction ties generalizing m with
  | nil => rfl
  | cons first ties ih =>
    rw [show m.recordAll ref (first :: ties) = (m.record ref first).recordAll ref ties from rfl, ih,
      get?_record]
    by_cases h : tie = first
    · subst h
      simp [TieKind.picked_picked]
    · simp [h]

/-- What is remembered after several ties have been forgotten. -/
theorem get?_removeAll (m : Memory) (ties : List Tie) (tie : Tie) :
    (m.removeAll ties).get? tie = if tie ∈ ties then none else m.get? tie := by
  induction ties generalizing m with
  | nil => rfl
  | cons first ties ih =>
    rw [show m.removeAll (first :: ties) = (m.remove first).removeAll ties from rfl, ih,
      get?_remove]
    by_cases h : tie = first
    · simp [h]
    · simp [h]

/-- What is left after several ties have been forgotten are the slots of all others, as they were. -/
theorem slots_removeAll (m : Memory) (ties : List Tie) :
    (m.removeAll ties).slots = m.slots.filter fun slot => decide (slot.1 ∉ ties) := by
  induction ties generalizing m with
  | nil => simp [removeAll]
  | cons first ties ih =>
    have hfirst : m.removeAll (first :: ties) = (m.remove first).removeAll ties := rfl
    rw [hfirst, ih, remove, List.filter_filter]
    refine List.filter_congr fun slot _ => ?_
    rw [Bool.eq_iff_iff]
    simp [and_comm]

section Invariants

variable {P : TieKind → Recall → Prop} {m : Memory}
  (h : ∀ tie memo, m.get? tie = some memo → P tie.kind memo)

include h

/-- What is true under every tie stays so when a pick is recorded, if a pick keeps it true under a
single one. -/
theorem forall_recordAll {ref : EntryRef} (hpicked : ∀ kind before,
    (∀ memo, before = some memo → P kind memo) → P kind (kind.picked ref before))
    (ties : List Tie) : ∀ tie memo, (m.recordAll ref ties).get? tie = some memo → P tie.kind memo := by
  intro tie memo hget
  rw [get?_recordAll] at hget
  split at hget
  · obtain rfl := Option.some.inj hget
    exact hpicked tie.kind (m.get? tie) (h tie)
  · exact h tie memo hget

theorem forall_removeAll (ties : List Tie) :
    ∀ tie memo, (m.removeAll ties).get? tie = some memo → P tie.kind memo := by
  intro tie memo hget
  rw [get?_removeAll] at hget
  split at hget
  · exact nomatch hget
  · exact h tie memo hget

end Invariants

/-- To record a pick under a tie that remembers it already changes nothing. -/
theorem record_eq_self {m : Memory} {ref : EntryRef} {tie : Tie}
    (h : m.get? tie = some (tie.kind.picked ref (m.get? tie))) : m.record ref tie = m := by
  rw [record_eq, if_pos h]

end Memory

end Wordweave
