import Wordweave.Proofs.Carrier.Normal
import Wordweave.Proofs.Memory.Slots

/-!
# Wordweave — ties that are repeated

A lookup may name a tie more than once. The answer does not take notice of it: the first name that
pins decides, a candidate that is admitted once is admitted again, and what has been recorded or
forgotten under a tie is not recorded or forgotten again. So the lookup with its carrier in normal
form has the same answer, and leaves the same memory and the same random words.

Main results:

* `Vocabulary.answer_normal`  — the answer to a lookup in normal form.
* `Memory.removeAll_normal`   — what is forgotten by a lookup in normal form.
-/

namespace Wordweave

/-! ## Loops over lists with repetitions -/

section Loops

variable {α β σ : Type}

/-- A search as a loop. -/
theorem foldl_or (g : α → Option β) (l : List α) (found : Option β) :
    l.foldl (fun found a => found.or (g a)) found = found.or (l.findSome? g) := by
  induction l generalizing found with
  | nil => simp
  | cons a l ih =>
    rw [List.foldl_cons, ih, List.findSome?_cons]
    cases found <;> cases g a <;> rfl

/-- A test of all members as a loop. -/
theorem foldl_and (p : α → Option Bool) (l : List α) (passed : Option Bool) :
    l.foldl (fun passed a => if passed = some true then p a else passed) passed =
      if passed = some true then l.allM p else passed := by
  induction l generalizing passed with
  | nil =>
    by_cases h : passed = some true
    · rw [if_pos h, h]
      rfl
    · rw [if_neg h]
      rfl
  | cons a l ih =>
    rw [List.foldl_cons, ih, List.allM_cons]
    by_cases h : passed = some true
    · rw [if_pos h, if_pos h]
      cases hp : p a with
      | none => rfl
      | some b => cases b <;> rfl
    · rw [if_neg h, if_neg h, if_neg h]

variable [DecidableEq α] (f : σ → α → σ) (settled : σ → α → Prop)

/-- A loop can leave out a member that is settled from the beginning. -/
theorem foldl_filter_settled (hkeep : ∀ s a b, settled s a → settled (f s b) a)
    (habsorb : ∀ s a, settled s a → f s a = s) {a : α} (l : List α) {s : σ} (h : settled s a) :
    (l.filter fun b => !b == a).foldl f s = l.foldl f s := by
  induction l generalizing s with
  | nil => rfl
  | cons b l ih =>
    by_cases hb : b = a
    · -- the member itself is left out, and the loop does not notice
      subst hb
      rw [List.filter_cons_of_neg (by simp), List.foldl_cons, habsorb s b h]
      exact ih h
    · rw [List.filter_cons_of_pos (by simp [hb]), List.foldl_cons, List.foldl_cons]
      exact ih (hkeep s a b h)

/-- A loop does not notice repetitions if every member it has met is settled, stays settled, and is
absorbed when it is met again. -/
theorem foldl_eraseDups (hown : ∀ s a, settled (f s a) a)
    (hkeep : ∀ s a b, settled s a → settled (f s b) a)
    (habsorb : ∀ s a, settled s a → f s a = s) :
    ∀ (l : List α) (s : σ), l.eraseDups.foldl f s = l.foldl f s
  | [], _ => by rw [List.eraseDups_nil]
  | a :: l, s => by
    have hlength : (l.filter fun b => !b == a).length < l.length + 1 :=
      Nat.lt_succ_of_le (List.length_filter_le ..)
    rw [List.eraseDups_cons, List.foldl_cons, List.foldl_cons,
      foldl_eraseDups hown hkeep habsorb,
      foldl_filter_settled f settled hkeep habsorb l (hown s a)]
termination_by l => l.length

/-- A search that finds nothing in a member finds nothing in it again. -/
theorem findSome?_eraseDups (g : α → Option β) (l : List α) :
    l.eraseDups.findSome? g = l.findSome? g := by
  let search (found : Option β) (a : α) : Option β := found.or (g a)
  have hown (found : Option β) (a : α) : search (search found a) a = search found a := by
    cases found with
    | some b => rfl
    | none =>
      show (g a).or (g a) = g a
      rw [Option.or_self]
  have hkeep (found : Option β) (a b : α) (h : search found a = found) :
      search (search found b) a = search found b := by
    cases found with
    | some c => rfl
    | none =>
      -- nothing was found in the member, so it never adds anything
      have hnone : g a = none := h
      show (g b).or (g a) = g b
      rw [hnone, Option.or_none]
  have hloop := foldl_eraseDups search (fun found a => search found a = found) hown hkeep
    (fun _ _ h => h) l none
  rwa [foldl_or, foldl_or, Option.none_or, Option.none_or] at hloop

/-- A test that a member passes is passed by it again. -/
theorem allM_eraseDups (p : α → Option Bool) (l : List α) : l.eraseDups.allM p = l.allM p := by
  let test (passed : Option Bool) (a : α) : Option Bool :=
    if passed = some true then p a else passed
  have hown (passed : Option Bool) (a : α) : test (test passed a) a = test passed a := by
    by_cases h : passed = some true
    · simp [test, h]
    · simp [test, h]
  have hkeep (passed : Option Bool) (a b : α) (h : test passed a = passed) :
      test (test passed b) a = test passed b := by
    by_cases hpassed : passed = some true
    · -- the member has been passed, and so it is if the test of the other one lets it come
      subst hpassed
      have hp : p a = some true := h
      show (if p b = some true then p a else p b) = p b
      split
      · next hb => rw [hp, hb]
      · rfl
    · simp [test, hpassed]
  have hloop := foldl_eraseDups test (fun passed a => test passed a = passed) hown hkeep
    (fun _ _ h => h) l (some true)
  rwa [foldl_and, foldl_and, if_pos rfl, if_pos rfl] at hloop

end Loops

/-! ## Memory -/

namespace Memory

/-- Ties that are repeated are recorded once. -/
theorem recordAll_eraseDups (m : Memory) (ref : EntryRef) (ties : List Tie) :
    m.recordAll ref ties.eraseDups = m.recordAll ref ties := by
  have hown (m : Memory) (tie : Tie) : (m.record ref tie).get? tie =
      some (tie.kind.picked ref ((m.record ref tie).get? tie)) := by
    rw [get?_record, if_pos rfl, TieKind.picked_picked]
  refine foldl_eraseDups _ (fun m tie => m.get? tie = some (tie.kind.picked ref (m.get? tie)))
    hown (fun m tie other h => ?_) (fun m tie h => record_eq_self h) ties m
  -- a pick under another tie leaves this one as it is
  by_cases hsame : tie = other
  · subst hsame
    exact hown m tie
  · rw [get?_record, if_neg hsame]
    exact h

/-- Ties that are repeated are forgotten once. -/
theorem removeAll_eraseDups (m : Memory) (ties : List Tie) :
    m.removeAll ties.eraseDups = m.removeAll ties := by
  refine foldl_eraseDups _ (fun m tie => m.get? tie = none)
    (fun m tie => ?_) (fun m tie other h => ?_) (fun m tie h => remove_eq_self h) ties m
  · rw [get?_remove, if_pos rfl]
  · rw [get?_remove, h, ite_self]

end Memory

/-! ## Lookups in normal form -/

namespace Lookup

/-- The names of a kind in a lookup come once in its normal form. -/
theorem names_normal (q : Lookup) (kind : TieKind) :
    q.normal.carrier.elim [] (·.names kind) = (q.carrier.elim [] (·.names kind)).eraseDups := by
  obtain ⟨name, subtype, exclusive, filters, carrier⟩ := q
  cases carrier with
  | none => rfl
  | some c => exact c.names_normal kind

/-- The ties of a lookup come once in its normal form. -/
theorem ties_normal (q : Lookup) : q.normal.ties = q.ties.eraseDups := by
  obtain ⟨name, subtype, exclusive, filters, carrier⟩ := q
  cases carrier with
  | none => rfl
  | some c => exact c.ties_normal

end Lookup

/-- A lookup in normal form is pinned to the same entry. -/
theorem Table.pinned?_normal (t : Table) (q : Lookup) (m : Memory) :
    t.pinned? q.normal m = t.pinned? q m := by
  rw [Table.pinned?, Lookup.names_normal, findSome?_eraseDups]
  rfl

/-- What is forgotten by a lookup in normal form. -/
theorem Memory.removeAll_normal (m : Memory) (q : Lookup) :
    m.removeAll q.normal.ties = m.removeAll q.ties := by
  rw [Lookup.ties_normal, removeAll_eraseDups]

namespace Vocabulary

variable (v : Vocabulary)

/-- A lookup in normal form admits the same candidates. -/
theorem admissible?_normal (m : Memory) (q : Lookup) (table : String) (subtype : Nat) :
    v.admissible? m q.normal table subtype = v.admissible? m q table subtype := by
  funext c
  rw [admissible?, Lookup.ties_normal, allM_eraseDups]
  rfl

/-- A lookup in normal form picks the same entry. -/
theorem pick?_normal (q : Lookup) (t : Table) (subtype : Nat) (s : Keystream) (m : Memory) :
    v.pick? q.normal t subtype s m = v.pick? q t subtype s m := by
  rw [pick?, pick?, Table.pinned?_normal, admissible?_normal]

/-- A lookup in normal form has the same answer. -/
theorem answer_normal (q : Lookup) (s : Keystream) (m : Memory) :
    v.answer q.normal s m = v.answer q s m := by
  have hname : q.normal.name = q.name := rfl
  have hsubtype : q.normal.subtype = q.subtype := rfl
  simp only [answer, answer?, hname, hsubtype, pick?_normal, Lookup.ties_normal,
    Memory.recordAll_eraseDups]

end Vocabulary

end Wordweave
