import Mathlib.Data.Set.Card
import Wordweave.Proofs.Vocabulary.Order

/-!
# Wordweave — memory and its changes

A memory is changed by anchors that are set, by entries that are marked as used, and by ties that are
forgotten. Whatever the kind of a tie, it can be changed in all three ways, one after the other and
between changes of other ties.

A change concerns its own tie and no other. So what is remembered under a tie is told by its own
changes, and of these by the ones since it was last forgotten (`Change.latest`). If there are none of
them, nothing is remembered. If all of them set an anchor, the first one did, and the others found it
there. As soon as one of them marks an entry, what is remembered are the entries that are marked, and
no anchor leaves a trace, whether it was set before or after (`Change.Leaves`).

Main results:

* `Memory.leaves_changed` — what any changes leave under a tie.
* `Memory.size_eq_ncard`  — the size of a memory is the number of ties that remember something.
* `Memory.changed_spec`   — these, what a tie answers when it is forgotten, and that changes of
  different ties commute.
-/

namespace Wordweave

/-! ## Changes -/

/-- A change of what is remembered under a tie. -/
inductive Change
  | setAnchor (tie : Tie) (entry : EntryRef)
  | markUsed (tie : Tie) (entry : EntryRef)
  | remove (tie : Tie)
deriving DecidableEq

namespace Change

/-- The tie that is changed. -/
def tie : Change → Tie
  | .setAnchor tie _ | .markUsed tie _ | .remove tie => tie

/-- The memory after a change. -/
def apply (m : Memory) : Change → Memory
  | .setAnchor tie entry => m.setAnchor tie entry
  | .markUsed tie entry => m.markUsed tie entry
  | .remove tie => m.remove tie

/-- What a change answers: if it forgets, whether that takes something out of the memory. -/
def answer? (m : Memory) : Change → Option Bool
  | .remove tie => some (decide ((m.remove tie).size < m.size))
  | .setAnchor _ _ | .markUsed _ _ => none

/-- The changes of a tie since it was last forgotten. -/
def latest (tie : Tie) (changes : List Change) : List Change :=
  (changes.reverse.takeWhile (· ≠ .remove tie)).reverse.filter (·.tie = tie)

/-- What is remembered under a tie if there are these changes of it, and no others, since it was last
forgotten. -/
inductive Leaves (tie : Tie) : List Change → Option Recall → Prop
  | nothing : Leaves tie [] none
  | anchor {entry : EntryRef} {others : List Change}
      (hothers : ∀ c ∈ others, ∃ other, c = .setAnchor tie other) :
      Leaves tie (.setAnchor tie entry :: others) (some (.anchor entry))
  | used {changes : List Change} {entries : List EntryRef}
      (hmarked : ∃ entry, .markUsed tie entry ∈ changes) (hnodup : entries.Nodup)
      (hentries : ∀ entry, entry ∈ entries ↔ .markUsed tie entry ∈ changes) :
      Leaves tie changes (some (.used entries))

/-! ## One change -/

/-- What is remembered under the tie of a change after it. -/
def recalled (before : Option Recall) : Change → Option Recall
  | .setAnchor _ entry => some (before.getD (.anchor entry))
  | .markUsed _ entry => some (TieKind.unique.picked entry before)
  | .remove _ => none

/-- A change is one of its own tie. -/
theorem get?_apply (m : Memory) (c : Change) (tie : Tie) :
    (c.apply m).get? tie = if tie = c.tie then c.recalled (m.get? c.tie) else m.get? tie := by
  cases c with
  | setAnchor other entry => exact m.get?_setAnchor other tie entry
  | markUsed other entry => exact m.get?_markUsed other tie entry
  | remove other => exact m.get?_remove other tie

/-- The changes since a tie was last forgotten, with one more change. -/
theorem latest_concat (tie : Tie) (changes : List Change) (c : Change) :
    latest tie (changes ++ [c]) =
      if c = .remove tie then []
      else if c.tie = tie then latest tie changes ++ [c] else latest tie changes := by
  unfold latest
  rw [List.reverse_append, List.reverse_singleton, List.singleton_append, List.takeWhile_cons]
  by_cases hforgets : c = .remove tie
  · simp [hforgets]
  · by_cases htie : c.tie = tie
    · simp [hforgets, htie]
    · simp [hforgets, htie]

variable {tie : Tie} {changes : List Change} {c : Change}

/-- Changes of a tie since it was last forgotten are of the tie, and do not forget it. -/
theorem of_mem_latest (h : c ∈ latest tie changes) : c.tie = tie ∧ c ≠ .remove tie := by
  obtain ⟨hmem, htie⟩ := List.mem_filter.mp h
  have hkeeps := List.all_eq_true.mp List.all_takeWhile c (List.mem_reverse.mp hmem)
  exact ⟨by simpa using htie, by simpa using hkeeps⟩

/-- Something is remembered as soon as there has been a change. -/
theorem Leaves.isSome_eq {memo : Option Recall} (h : Leaves tie changes memo) :
    memo.isSome = decide (changes ≠ []) := by
  cases h with
  | nothing => rfl
  | anchor hothers => rfl
  | used hmarked hnodup hentries =>
    obtain ⟨entry, hmem⟩ := hmarked
    simpa using List.ne_nil_of_mem hmem

/-- One more change of a tie leaves what it makes of what was there. -/
theorem Leaves.concat {before : Option Recall} (h : Leaves tie changes before) (htie : c.tie = tie)
    (hkeeps : c ≠ .remove tie) : Leaves tie (changes ++ [c]) (c.recalled before) := by
  cases c with
  | remove other =>
    obtain rfl : other = tie := htie
    exact absurd rfl hkeeps
  | setAnchor other entry =>
    obtain rfl : other = tie := htie
    cases h with
    | nothing => exact .anchor (List.forall_mem_nil _)
    | anchor hothers =>
      -- the first anchor stays
      refine .anchor fun c hc => ?_
      rcases List.mem_append.mp hc with hc | hc
      · exact hothers c hc
      · exact ⟨entry, List.mem_singleton.mp hc⟩
    | used hmarked hnodup hentries =>
      obtain ⟨marked, hmem⟩ := hmarked
      refine .used ⟨marked, List.mem_append_left _ hmem⟩ hnodup fun used => ?_
      rw [hentries]
      simp
  | markUsed other entry =>
    obtain rfl : other = tie := htie
    have hlast : Change.markUsed other entry ∈ changes ++ [.markUsed other entry] := by simp
    -- in the first two cases no entry was marked before
    cases h with
    | nothing =>
      refine .used ⟨entry, hlast⟩ (List.nodup_singleton _) fun used => ?_
      simp
    | @anchor first others hothers =>
      have hnone : ∀ used, Change.markUsed other used ∉ others := by
        intro used hmem
        obtain ⟨_, hset⟩ := hothers _ hmem
        exact nomatch hset
      refine .used ⟨entry, hlast⟩ (List.nodup_singleton _) fun used => ?_
      simp [hnone]
    | @used _ entries hmarked hnodup hentries =>
      by_cases hold : entry ∈ entries
      · rw [recalled, TieKind.picked, if_neg fun hnew => hnew.2 hold]
        refine .used ⟨entry, hlast⟩ hnodup fun used => ?_
        rw [hentries] at hold ⊢
        simp only [List.mem_append, List.mem_singleton, Change.markUsed.injEq, true_and]
        refine ⟨.inl, ?_⟩
        rintro (hmem | rfl)
        · exact hmem
        · exact hold
      · rw [recalled, TieKind.picked, if_pos ⟨rfl, hold⟩]
        refine .used ⟨entry, hlast⟩ ?_ fun used => ?_
        · rw [← List.concat_eq_append]
          exact hnodup.concat hold
        · simp [hentries]

end Change

/-! ## Any changes -/

namespace Memory

/-- The memory after several changes. -/
def changed (m : Memory) (changes : List Change) : Memory := changes.foldl Change.apply m

/-- What changes of an empty memory leave under a tie is made by the latest of its own. -/
theorem get?_changed (changes : List Change) (tie : Tie) :
    (empty.changed changes).get? tie = (Change.latest tie changes).foldl Change.recalled none := by
  induction changes using List.reverseRecOn with
  | nil => rfl
  | append_singleton changes c ih =>
    have hlast : empty.changed (changes ++ [c]) = c.apply (empty.changed changes) := by
      rw [changed, List.foldl_append]
      rfl
    rw [hlast, Change.get?_apply, Change.latest_concat]
    by_cases htie : c.tie = tie
    · subst htie
      rw [if_pos rfl, if_pos rfl, ih]
      by_cases hforgets : c = .remove c.tie
      · rw [if_pos hforgets, hforgets]
        rfl
      · rw [if_neg hforgets, List.foldl_append]
        rfl
    · have hforgets : c ≠ .remove tie := by
        rintro rfl
        exact htie rfl
      rw [if_neg (Ne.symm htie), if_neg hforgets, if_neg htie, ih]

/-- **Changes.** Whatever an empty memory goes through, what it remembers under a tie is what the
changes of the tie since it was last forgotten leave. -/
theorem leaves_changed (changes : List Change) (tie : Tie) :
    Change.Leaves tie (Change.latest tie changes) ((empty.changed changes).get? tie) := by
  rw [get?_changed]
  have hlatest : ∀ c ∈ Change.latest tie changes, c.tie = tie ∧ c ≠ .remove tie :=
    fun c => Change.of_mem_latest
  generalize Change.latest tie changes = latest at hlatest
  induction latest using List.reverseRecOn with
  | nil => exact .nothing
  | append_singleton latest c ih =>
    obtain ⟨hbefore, hlast⟩ := List.forall_mem_append.mp hlatest
    obtain ⟨htie, hkeeps⟩ := hlast c (List.mem_singleton_self c)
    rw [List.foldl_append]
    exact (ih hbefore).concat htie hkeeps

/-- **Size.** A memory has as many slots as there are ties that remember something. -/
theorem size_eq_ncard (m : Memory) : m.size = {tie | (m.get? tie).isSome}.ncard := by
  have hties : {tie | (m.get? tie).isSome} = ((m.slots.map (·.1)).toFinset : Set Tie) := by
    ext tie
    simp [Option.isSome_iff_exists, get?_eq_some_iff]
  rw [hties, Set.ncard_coe_finset, List.toFinset_card_of_nodup m.nodup, List.length_map]
  rfl

/-- Memories that say the same are of one size. -/
theorem Same.size_eq {m m' : Memory} (h : m.Same m') : m.size = m'.size := by
  rw [size_eq_ncard, size_eq_ncard]
  simp only [h _]

/-- Something is taken out of a memory just if it was remembered under the tie that is forgotten. -/
theorem answer?_remove (m : Memory) (tie : Tie) :
    (Change.remove tie).answer? m = some (m.contains tie) := by
  have hout : (m.remove tie).size < m.size ↔ m.contains tie = true := by
    rw [size, size, remove, List.length_filter_lt_length_iff_exists, contains,
      Option.isSome_iff_exists]
    simp only [get?_eq_some_iff]
    constructor
    · rintro ⟨⟨other, memo⟩, hslot, hother⟩
      obtain rfl : other = tie := by simpa using hother
      exact ⟨memo, hslot⟩
    · rintro ⟨memo, hslot⟩
      exact ⟨(tie, memo), hslot, by simp⟩
  rw [Change.answer?, Option.some.injEq, Bool.eq_iff_iff, decide_eq_true_iff, hout]

/-- Changes of different ties may be made in either order. -/
theorem same_apply_apply (m : Memory) {c c' : Change} (h : c.tie ≠ c'.tie) :
    (c'.apply (c.apply m)).Same (c.apply (c'.apply m)) := by
  have hc : (c'.apply m).get? c.tie = m.get? c.tie := by rw [Change.get?_apply, if_neg h]
  have hc' : (c.apply m).get? c'.tie = m.get? c'.tie := by
    rw [Change.get?_apply, if_neg (Ne.symm h)]
  intro tie
  rw [Change.get?_apply (c.apply m) c', Change.get?_apply (c'.apply m) c, hc, hc',
    Change.get?_apply m c, Change.get?_apply m c']
  -- the tie is that of one change at most
  by_cases htie : tie = c.tie
  · have hother : tie ≠ c'.tie := fun hsame => h (htie.symm.trans hsame)
    rw [if_neg hother, if_neg hother]
  · rw [if_neg htie, if_neg htie]

/-- What a change answers is the same before and after a change of another tie. -/
theorem answer?_apply (m : Memory) {c c' : Change} (h : c.tie ≠ c'.tie) :
    c.answer? (c'.apply m) = c.answer? m := by
  cases c with
  | setAnchor tie entry => rfl
  | markUsed tie entry => rfl
  | remove tie =>
    have hne : tie ≠ c'.tie := h
    have hkept : (c'.apply m).get? tie = m.get? tie := by rw [Change.get?_apply, if_neg hne]
    rw [answer?_remove, answer?_remove, contains, contains, hkept]

/-- **What is remembered.** Take an empty memory through any changes, of any ties and in any order. Under
each tie it remembers what the changes of the tie since it was last forgotten leave, and nothing else
matters for it. There are as many slots as ties that remember something, and to forget a tie takes one
out just if there is such a change of it. Changes of different ties commute: either way
the same is remembered, and each of them answers what it would have answered alone. -/
theorem changed_spec (changes : List Change) :
    let m := empty.changed changes
    (∀ tie, Change.Leaves tie (Change.latest tie changes) (m.get? tie)) ∧
    (∀ changes' tie, Change.latest tie changes' = Change.latest tie changes →
      (empty.changed changes').get? tie = m.get? tie) ∧
    m.size = {tie | (m.get? tie).isSome}.ncard ∧
    (∀ tie, (Change.remove tie).answer? m = some (decide (Change.latest tie changes ≠ []))) ∧
    ∀ c c' : Change, c.tie ≠ c'.tie →
      (c'.apply (c.apply m)).Same (c.apply (c'.apply m)) ∧
      (c'.apply (c.apply m)).size = (c.apply (c'.apply m)).size ∧
      c.answer? (c'.apply m) = c.answer? m := by
  intro m
  have hleaves := leaves_changed changes
  refine ⟨hleaves, ?_, m.size_eq_ncard, ?_, ?_⟩
  · intro changes' tie hlatest
    rw [get?_changed, hlatest, ← get?_changed]
  · intro tie
    rw [answer?_remove, contains, (hleaves tie).isSome_eq]
  · intro c c' htie
    have hsame := m.same_apply_apply htie
    exact ⟨hsame, hsame.size_eq, m.answer?_apply htie⟩

/-- Two entries are used under `u`, and an anchor that came first and one that came between them have
left no trace. What was remembered under `m` has been forgotten once. -/
theorem changed_spec_eel :
    let u : Tie := ⟨.unique, "u"⟩
    let m : Tie := ⟨.matching, "m"⟩
    let cat : EntryRef := ⟨"noun", 0⟩
    let eel : EntryRef := ⟨"noun", 1⟩
    let changes := [.setAnchor u cat, .markUsed u eel, .setAnchor m cat, .setAnchor u cat,
      .remove m, .setAnchor m eel, .markUsed u cat, .setAnchor m cat]
    let memory := empty.changed changes
    memory.get? u = some (.used [eel, cat]) ∧ memory.get? m = some (.anchor eel) ∧
      (empty.changed [.setAnchor m eel, .setAnchor m cat]).get? m = memory.get? m ∧
      (Change.remove u).answer? (memory.remove m) = some true ∧
      ((memory.remove m).remove u).Same ((memory.remove u).remove m) := by
  intro u m cat eel changes memory
  obtain ⟨-, hlatest, -, hanswer, hcommute⟩ := changed_spec changes
  have hties : (Change.remove u).tie ≠ (Change.remove m).tie := by decide
  have hsame : Change.latest m [.setAnchor m eel, .setAnchor m cat] = Change.latest m changes := by
    decide
  obtain ⟨-, -, halone⟩ := hcommute (.remove u) (.remove m) hties
  refine ⟨by decide, by decide, hlatest _ m hsame, ?_, (hcommute _ _ hties.symm).1⟩
  exact halone.trans (hanswer u)

end Memory

end Wordweave
