import Mathlib.Data.List.Infix
import Wordweave.Proofs.Run.Path

/-!
# Wordweave — the number of steps

A node takes a step to end, and one for each child that it asks for; so a tree takes two steps for
each of its nodes, less one, if all of it is run. A run falls short of this only where a query ends
without its complement: such a step *drops* what lies below (`Frame.Drops`), and all the steps that
this would have taken are saved (`Machine.stepsLeft_of_drops`).

Which parts are run is told by places. A place is *ahead* if it is below a child that a frame of the
stack has not asked for (`Ahead`). The node at a place is *running* if it has a frame, and *pending*
if its place is ahead (`Machine.Running`, `Machine.Pending`). What is pending comes to run unless it
is dropped (`Machine.running_or_pending`), and what neither runs nor is pending never runs again
(`Machine.not_running_advance`). So no step drops anything just if all complements are run at some
time (`runsAllComplements_iff`).

Main result:

* `run_steps` — how many steps a run takes, when it takes the largest number, and what its stack is
  like.
-/

namespace Wordweave

/-! ## What is saved -/

namespace Frame

/-- A frame ends although there is a child that it has not asked for. -/
def Drops (scene : Scene) (s : RunState) (frame : Frame) : Prop :=
  (frame.resume scene s).1 = .done ∧ frame.begun < frame.node.children.length

/-- Only queries drop something, and that is their complement. -/
theorem of_drops {scene : Scene} {s : RunState} {frame : Frame} (h : frame.Drops scene s) :
    ∃ location q complement, frame = .query location q .fresh ∧ q.complement = some complement := by
  obtain ⟨hdone, hless⟩ := h
  cases frame with
  | text location content => exact absurd hless (Nat.lt_irrefl 0)
  | sequence location begun ahead =>
    cases ahead with
    | nil =>
      -- all children have been asked for
      simp [Frame.begun, node, Node.children] at hless
    | cons child ahead => cases hdone
  | query location q phase =>
    cases phase with
    | fresh =>
      cases hc : q.complement with
      | none => simp [Frame.begun, node, Query.toNode, Node.children, hc] at hless
      | some complement => exact ⟨location, q, complement, rfl, hc⟩
    | waiting tail =>
      -- there is one child at most, and it has been asked for
      cases hc : q.complement <;>
        simp [Frame.begun, node, Query.toNode, Node.children, hc] at hless

/-- A frame that ends and drops nothing takes just the step to end. -/
theorem stepsLeft_of_done {scene : Scene} {frame : Frame} {s t : RunState}
    (h : frame.resume scene s = (.done, t)) (hkeeps : ¬ frame.Drops scene s) :
    frame.stepsLeft = 1 := by
  have hall : frame.node.children.length ≤ frame.begun := by
    by_contra hless
    exact hkeeps ⟨congrArg Prod.fst h, Nat.lt_of_not_le hless⟩
  cases frame with
  | text location content => rfl
  | sequence location begun ahead =>
    cases ahead with
    | nil => rfl
    | cons child ahead => exact nomatch congrArg Prod.fst h
  | query location q phase =>
    cases phase with
    | fresh =>
      cases hc : q.complement with
      | none => simp [stepsLeft, hc]
      | some complement =>
        simp [Frame.begun, node, Query.toNode, Node.children, hc] at hall
    | waiting tail => rfl

/-- What is dropped has steps of its own. -/
theorem one_lt_stepsLeft {scene : Scene} {frame : Frame} {s : RunState}
    (h : frame.Drops scene s) : 1 < frame.stepsLeft := by
  obtain ⟨location, q, complement, rfl, hc⟩ := of_drops h
  have hsize := stepsLeft_ofNode complement
  rw [stepsLeft, hc, Option.elim_some]
  omega

end Frame

namespace Machine

variable {scene : Scene} {m next : Machine}

/-- The next step drops something. -/
def Drops (scene : Scene) (m : Machine) : Prop :=
  ∃ top below, m.frames = top :: below ∧ top.Drops scene m.state

/-- A step that drops nothing takes away no more than itself. -/
theorem stepsLeft_of_not_drops (h : m.step scene = some next) (hkeeps : ¬ m.Drops scene) :
    next.stepsLeft + 1 = m.stepsLeft := by
  obtain ⟨top, below, hframes, ⟨frame, child, t, hr, rfl⟩ | ⟨t, hr, rfl⟩⟩ := cases_of_step h
  · have hyield := Frame.stepsLeft_of_yield hr
    simp only [stepsLeft, hframes, List.foldr_cons]
    omega
  · have hdone := Frame.stepsLeft_of_done hr fun hdrops => hkeeps ⟨top, below, hframes, hdrops⟩
    simp only [stepsLeft, hframes, List.foldr_cons]
    omega

/-- A step that drops something takes away more. -/
theorem stepsLeft_of_drops (h : m.step scene = some next) (hdrops : m.Drops scene) :
    next.stepsLeft + 1 < m.stepsLeft := by
  obtain ⟨top, below, hframes, hdrops⟩ := hdrops
  obtain ⟨top', below', hframes', ⟨frame, child, t, hr, rfl⟩ | ⟨t, hr, rfl⟩⟩ := cases_of_step h
  · -- a frame that asks for a child does not end
    obtain ⟨rfl, rfl⟩ := List.cons.inj (hframes.symm.trans hframes')
    exact nomatch ((congrArg Prod.fst hr).symm.trans hdrops.1)
  · obtain ⟨rfl, rfl⟩ := List.cons.inj (hframes.symm.trans hframes')
    have hmore := Frame.one_lt_stepsLeft hdrops
    simp only [stepsLeft, hframes, List.foldr_cons]
    omega

/-- A run makes as many steps as are left at most, and fewer just if one of them drops something. -/
theorem exists_length (scene : Scene) (m : Machine) :
    ∃ k ≤ m.stepsLeft, (m.advance scene k).frames = [] ∧
      (∀ made < k, (m.advance scene made).frames ≠ []) ∧
      (k = m.stepsLeft ↔ ∀ made < k, ¬ (m.advance scene made).Drops scene) := by
  -- each step takes away some of the steps that are left: the induction is on these
  generalize hleft : m.stepsLeft = left
  induction left using Nat.strong_induction_on generalizing m with
  | _ left ih =>
    cases hstep : m.step scene with
    | none =>
      have hframes := step_eq_none_iff.mp hstep
      have hzero : left = 0 := by rw [← hleft, stepsLeft, hframes, List.foldr_nil]
      exact ⟨0, Nat.zero_le _, hframes, fun made h => absurd h made.not_lt_zero, by simp [hzero]⟩
    | some next =>
      have hless := stepsLeft_step hstep
      obtain ⟨k, hk, hend, hbefore, hall⟩ := ih next.stepsLeft (by omega) next rfl
      have hadvance (made : Nat) :
          m.advance scene (made + 1) = next.advance scene made := by rw [advance, hstep]
      have hfirst : m.frames ≠ [] := by
        intro hframes
        cases (step_eq_none_iff.mpr hframes).symm.trans hstep
      refine ⟨k + 1, by omega, by rw [hadvance, hend], ?_, ?_⟩
      · intro made hmade
        cases made with
        | zero => exact hfirst
        | succ made =>
          rw [hadvance]
          exact hbefore made (by omega)
      · -- the first step, and then the others
        simp only [Nat.forall_lt_succ_left, hadvance, ← hall]
        show _ ↔ ¬ m.Drops scene ∧ _
        by_cases hdrops : m.Drops scene
        · have hmore := stepsLeft_of_drops hstep hdrops
          simp only [hdrops, not_true_eq_false, false_and, iff_false]
          omega
        · have hone := stepsLeft_of_not_drops hstep hdrops
          simp only [hdrops, not_false_eq_true, true_and]
          omega

end Machine

/-! ## What is ahead -/

/-- With the frames on the way to a place, another place is below a child that one of the frames has
not asked for. -/
inductive Ahead : List Frame → Place → Place → Prop
  | here {frame : Frame} {below : List Frame} {p q : Place} {i : Nat} (hi : frame.begun ≤ i)
      (hq : i :: p <:+ q) : Ahead (frame :: below) p q
  | further {frame : Frame} {below : List Frame} {p q : Place} {i : Nat} (h : Ahead below p q) :
      Ahead (frame :: below) (i :: p) q

/-- There is one way only to go on from a place to another one. -/
theorem Place.eq_of_suffix {i j : Nat} {p q : Place} (hi : i :: p <:+ q) (hj : j :: p <:+ q) :
    i = j := by
  have hsuffix := List.suffix_of_suffix_length_le hi hj (by simp)
  exact (List.cons.inj (hsuffix.eq_of_length (by simp))).1

/-- What is at a place or below it is there, or at one of the children or below. -/
theorem Place.eq_or_exists_suffix {p q : Place} (h : p <:+ q) : q = p ∨ ∃ i, i :: p <:+ q := by
  obtain ⟨way, rfl⟩ := h
  rcases List.eq_nil_or_concat way with rfl | ⟨way, i, rfl⟩
  · exact .inl rfl
  · exact .inr ⟨i, way, by simp⟩

section

variable {root : Node} {top resumed : Frame} {frames below : List Frame} {p q : Place} {i : Nat}

/-- The frames below the one on top have asked for the child that is on the way to it. -/
theorem Stacked.not_ahead_below (h : Stacked root (top :: below) (i :: p)) (hq : i :: p <:+ q) :
    ¬ Ahead below p q := by
  intro hahead
  -- a frame with `q` ahead has not asked for the child on the way to `q`, which it asked for last
  induction hahead generalizing top i with
  | @here frame below p q j hj hway =>
    cases h with
    | child hbelow hlast hnode =>
      have hij := Place.eq_of_suffix hq hway
      omega
  | further hahead ih =>
    cases h with
    | child hbelow hlast hnode => exact ih hbelow ((List.suffix_cons i _).trans hq)

/-- What has a frame is not ahead. -/
theorem Stacked.not_ahead (h : Stacked root frames p) (hq : q <:+ p) : ¬ Ahead frames p q := by
  intro hahead
  induction h with
  | root hnode =>
    cases hahead with
    | here hi hway => exact absurd (hway.trans hq).length_le (by simp)
  | child hbelow hlast hnode ih =>
    cases hahead with
    | here hi hway =>
      -- what is ahead of the frame on top is farther down than the place
      exact absurd (hway.trans hq).length_le (by simp)
    | further hahead =>
      rcases List.suffix_cons_iff.mp hq with rfl | hq
      · exact (Stacked.child hbelow hlast hnode).not_ahead_below List.suffix_rfl hahead
      · exact ih hq hahead

/-- What is ahead when a frame has asked for a child was ahead before. -/
theorem Ahead.of_yield {child : Node} (hbegun : resumed.begun = top.begun + 1)
    (h : Ahead (.ofNode child :: resumed :: below) (top.begun :: p) q) :
    Ahead (top :: below) p q := by
  cases h with
  | here hi hq => exact .here (Nat.le_refl _) ((List.suffix_cons _ _).trans hq)
  | further h =>
    cases h with
    | here hi hq => exact .here (by omega) hq
    | further h => exact .further h

/-- What is ahead stays ahead when a frame asks for a child, unless it is the child itself. -/
theorem Ahead.yield {child : Node} (hbegun : resumed.begun = top.begun + 1)
    (h : Ahead (top :: below) p q) :
    q = top.begun :: p ∨ Ahead (.ofNode child :: resumed :: below) (top.begun :: p) q := by
  cases h with
  | @here _ _ _ _ i hi hq =>
    by_cases hfirst : i = top.begun
    · -- below the child that is asked for: the child itself, or ahead of its new frame
      subst hfirst
      rcases Place.eq_or_exists_suffix hq with rfl | ⟨j, hq⟩
      · exact .inl rfl
      · exact .inr (.here (by simp) hq)
    · exact .inr (.further (.here (by omega) hq))
  | further h => exact .inr (.further (.further h))

end

namespace Machine

/-- The node at a place has a frame. -/
def Running (root : Node) (m : Machine) (q : Place) : Prop :=
  ∃ p, Stacked root m.frames p ∧ q <:+ p

/-- The node at a place is to have a frame, unless it is dropped. -/
def Pending (root : Node) (m : Machine) (q : Place) : Prop :=
  ∃ p, Stacked root m.frames p ∧ Ahead m.frames p q

variable {scene : Scene} {root node : Node} {m next : Machine} {p q : Place}

theorem Running.not_pending (h : m.Running root q) : ¬ m.Pending root q := by
  rintro ⟨p, hstack, hahead⟩
  obtain ⟨p', hstack', hq⟩ := h
  obtain rfl := hstack.unique hstack'
  exact hstack.not_ahead hq hahead

/-- A step goes down to the next child of the node at the place, or up from the place. -/
theorem cases_of_stacked_step (hstack : Stacked root m.frames p) (h : m.step scene = some next) :
    (∃ top resumed below child, m.frames = top :: below ∧
      next.frames = .ofNode child :: resumed :: below ∧
      (top.resume scene m.state).1 = .yield resumed child ∧ resumed.begun = top.begun + 1 ∧
      Stacked root next.frames (top.begun :: p)) ∨
    ∃ top, m.frames = top :: next.frames ∧ (top.resume scene m.state).1 = .done := by
  obtain ⟨top, below, hframes, ⟨frame, child, t, hr, rfl⟩ | ⟨t, hr, rfl⟩⟩ := cases_of_step h
  · rw [hframes] at hstack
    exact .inl ⟨top, frame, below, child, hframes, rfl, congrArg Prod.fst hr,
      (Frame.begun_of_yield hr).2.1, hstack.of_yield hr⟩
  · exact .inr ⟨top, hframes, congrArg Prod.fst hr⟩

/-- Nothing becomes pending. -/
theorem Pending.of_step (hstack : Stacked root m.frames p) (h : m.step scene = some next)
    (hnext : next.Pending root q) : m.Pending root q := by
  obtain ⟨p', hstack', hahead⟩ := hnext
  refine ⟨p, hstack, ?_⟩
  obtain ⟨top, resumed, below, child, hframes, hnext, -, hbegun, hdown⟩ | ⟨top, hframes, -⟩ :=
    cases_of_stacked_step hstack h
  · obtain rfl := hdown.unique hstack'
    rw [hnext] at hahead
    rw [hframes]
    exact hahead.of_yield hbegun
  · rw [hframes] at hstack ⊢
    obtain ⟨i, rfl⟩ := hstack.of_pop hstack'
    exact hahead.further

/-- What comes to run was pending. -/
theorem Running.of_step (hstack : Stacked root m.frames p) (h : m.step scene = some next)
    (hnext : next.Running root q) : m.Running root q ∨ m.Pending root q := by
  obtain ⟨p', hstack', hq⟩ := hnext
  obtain ⟨top, resumed, below, child, hframes, hnext, -, hbegun, hdown⟩ | ⟨top, hframes, -⟩ :=
    cases_of_stacked_step hstack h
  · obtain rfl := hdown.unique hstack'
    rcases List.suffix_cons_iff.mp hq with rfl | hq
    · -- the child that is asked for was the next one ahead of the frame on top
      refine .inr ⟨p, hstack, ?_⟩
      rw [hframes]
      exact .here (Nat.le_refl _) List.suffix_rfl
    · exact .inl ⟨p, hstack, hq⟩
  · -- the frames that are left were there before
    have hframes' := hstack
    rw [hframes] at hframes'
    obtain ⟨i, rfl⟩ := hframes'.of_pop hstack'
    exact .inl ⟨_, hstack, hq.trans (List.suffix_cons ..)⟩

/-- What is pending runs next or stays pending if nothing is dropped. -/
theorem Pending.step (hkeeps : ¬ m.Drops scene) (h : m.step scene = some next)
    (hnode : root.at? q = some node) (hpending : m.Pending root q) :
    next.Running root q ∨ next.Pending root q := by
  obtain ⟨p, hstack, hahead⟩ := hpending
  obtain ⟨top, resumed, below, child, hframes, hnext, -, hbegun, hdown⟩ | ⟨top, hframes, hdone⟩ :=
    cases_of_stacked_step hstack h
  · rw [hframes] at hahead
    rcases hahead.yield hbegun with rfl | hahead
    · exact .inl ⟨_, hdown, List.suffix_rfl⟩
    · exact .inr ⟨_, hdown, hnext ▸ hahead⟩
  · rw [hframes] at hahead hstack
    cases hahead with
    | @here _ _ _ _ i hi hq =>
      -- the child on the way would be dropped
      obtain ⟨above, habove⟩ := Node.exists_at?_of_suffix hq hnode
      rw [Node.at?, hstack.at?_eq, Option.bind_some] at habove
      have hless := (List.getElem?_eq_some_iff.mp habove).1
      exact absurd ⟨top, next.frames, hframes, hdone, Nat.lt_of_le_of_lt hi hless⟩ hkeeps
    | further hahead =>
      obtain ⟨hnil, -⟩ | ⟨i, r, hcons, hup⟩ := hstack.pop
      · exact absurd hnil (List.cons_ne_nil _ _)
      · obtain ⟨rfl, rfl⟩ := List.cons.inj hcons
        exact .inr ⟨_, hup, hahead⟩

/-- What is dropped is the complement of a query. It was pending until then, and is no more. -/
theorem Drops.step (hdrops : m.Drops scene) (hstack : Stacked root m.frames p)
    (h : m.step scene = some next) :
    (∃ location lookup complement, root.at? p = some (.query location lookup (some complement))) ∧
      m.Pending root (0 :: p) ∧ ¬ next.Running root (0 :: p) ∧ ¬ next.Pending root (0 :: p) := by
  obtain ⟨top, below, hframes, hdrops⟩ := hdrops
  obtain ⟨location, q, complement, htop, hcomplement⟩ := Frame.of_drops hdrops
  have hbegun : top.begun = 0 := by rw [htop, Frame.begun]
  have hnode : top.node = .query location q.toLookup (some complement) := by
    rw [htop, ← hcomplement]
    rfl
  obtain ⟨top', resumed, below', child, hframes', -, hyield, -, -⟩ | ⟨top', hframes', -⟩ :=
    cases_of_stacked_step hstack h
  · -- a frame that asks for a child does not end
    obtain ⟨rfl, rfl⟩ := List.cons.inj (hframes.symm.trans hframes')
    cases hyield.symm.trans hdrops.1
  · obtain ⟨rfl, rfl⟩ := List.cons.inj (hframes.symm.trans hframes')
    have hpending : Ahead m.frames p (0 :: p) := by
      rw [hframes]
      exact .here (Nat.le_of_eq hbegun) List.suffix_rfl
    refine ⟨⟨location, q.toLookup, complement, ?_⟩, ⟨p, hstack, hpending⟩, ?_, ?_⟩
    · rw [hframes] at hstack
      rw [hstack.at?_eq, hnode]
    · rintro ⟨r, hstack', hq⟩
      rw [hframes] at hstack
      obtain ⟨i, rfl⟩ := hstack.of_pop hstack'
      have hlength := hq.length_le
      simp only [List.length_cons] at hlength
      omega
    · rintro ⟨r, hstack', hahead⟩
      rw [hframes] at hstack
      obtain ⟨i, rfl⟩ := hstack.of_pop hstack'
      exact hstack.not_ahead_below (List.suffix_cons ..) hahead

end Machine

/-! ## Whole runs -/

namespace Machine

variable {scene : Scene} {root node : Node} {s : RunState} {i j k : Nat} {q : Place}

/-- What is pending has been pending from the beginning. -/
theorem Pending.of_advance (hij : i ≤ j)
    (h : ((ofNode root s).advance scene j).Pending root q) :
    ((ofNode root s).advance scene i).Pending root q := by
  induction hij with
  | refl => exact h
  | @step j _ ih =>
    apply ih
    obtain ⟨-, hsame⟩ | ⟨p, hstack, hstep⟩ := cases_of_advance scene root s j
    · rwa [hsame] at h
    · exact h.of_step hstack hstep

/-- What neither runs nor is pending does not run later. -/
theorem not_running_advance (hij : i ≤ j)
    (hrunning : ¬ ((ofNode root s).advance scene i).Running root q)
    (hpending : ¬ ((ofNode root s).advance scene i).Pending root q) :
    ¬ ((ofNode root s).advance scene j).Running root q := by
  induction hij with
  | refl => exact hrunning
  | @step j hij ih =>
    obtain ⟨-, hsame⟩ | ⟨p, hstack, hstep⟩ := cases_of_advance scene root s j
    · rwa [hsame]
    · intro hnext
      rcases hnext.of_step hstack hstep with hbefore | hbefore
      · exact ih hbefore
      · -- what is pending now was pending at the start, which it was not
        exact hpending (hbefore.of_advance hij)

/-- If nothing is dropped, each place runs at some time or is still pending. -/
theorem running_or_pending (hkeeps : ∀ made < k, ¬ ((ofNode root s).advance scene made).Drops scene)
    (hnode : root.at? q = some node) :
    (∃ made, ((ofNode root s).advance scene made).Running root q) ∨
      ((ofNode root s).advance scene k).Pending root q := by
  have hbegin : Stacked root [.ofNode root] [] := .root (Frame.node_ofNode root)
  induction k with
  | zero =>
    -- at the start the root runs, and all the rest is ahead of its frame
    rcases Place.eq_or_exists_suffix (List.nil_suffix (l := q)) with rfl | ⟨i, hq⟩
    · exact .inl ⟨0, [], hbegin, List.suffix_rfl⟩
    · exact .inr ⟨[], hbegin, .here (by simp) hq⟩
  | succ k ih =>
    rcases ih fun made hmade => hkeeps made (by omega) with hran | hpending
    · exact .inl hran
    · obtain ⟨-, hsame⟩ | ⟨p, hstack, hstep⟩ := cases_of_advance scene root s k
      · rw [hsame]
        exact .inr hpending
      · rcases hpending.step (hkeeps k (by omega)) hstep hnode with hruns | hpending
        · exact .inl ⟨_, hruns⟩
        · exact .inr hpending

end Machine

/-- Each complement in a tree has a frame at some time of the run. -/
def RunsAllComplements (scene : Scene) (root : Node) (s : RunState) : Prop :=
  ∀ p location lookup complement, root.at? p = some (.query location lookup (some complement)) →
    ∃ made, ((Machine.ofNode root s).advance scene made).Running root (0 :: p)

/-- The steps of a run drop nothing just if all complements are run. -/
theorem runsAllComplements_iff {scene : Scene} {root : Node} {s : RunState} {k : Nat}
    (hend : ((Machine.ofNode root s).advance scene k).frames = [])
    (hbefore : ∀ made < k, ((Machine.ofNode root s).advance scene made).frames ≠ []) :
    RunsAllComplements scene root s ↔
      ∀ made < k, ¬ ((Machine.ofNode root s).advance scene made).Drops scene := by
  constructor
  · intro hall made hmade hdrops
    obtain ⟨hnone, -⟩ | ⟨p, hstack, hstep⟩ := Machine.cases_of_advance scene root s made
    · exact hbefore made hmade (Machine.step_eq_none_iff.mp hnone)
    · -- what is dropped has not run before, and does not run later
      obtain ⟨⟨location, lookup, complement, hquery⟩, hpending, hgone⟩ :=
        hdrops.step hstack hstep
      obtain ⟨time, hruns⟩ := hall p location lookup complement hquery
      rcases Nat.lt_or_ge made time with hlate | hearly
      · exact Machine.not_running_advance hlate hgone.1 hgone.2 hruns
      · exact hruns.not_pending (hpending.of_advance hearly)
  · intro hkeeps p location lookup complement hquery
    have hnode : root.at? (0 :: p) = some complement := by
      rw [Node.at?, hquery]
      rfl
    rcases Machine.running_or_pending hkeeps hnode with hruns | ⟨p, hstack, -⟩
    · exact hruns
    · -- nothing is pending at the end
      rw [hend] at hstack
      cases hstack

/-- **Steps.** A run of a tree with `n` nodes makes `2 * n - 1` steps at most, and so many just if
all complements in it are run; after that no step changes anything. All the time the frames are
those of the nodes on the way to some place, each of them the one that the frame below has asked for
last; so there are no more of them than the tree is high, and only the one on top can be that of a
text. -/
theorem run_steps (scene : Scene) (root : Node) (s : RunState) :
    (∃ k ≤ 2 * root.size - 1,
      (∀ made < k, ((Machine.ofNode root s).advance scene made).step scene =
        some ((Machine.ofNode root s).advance scene (made + 1))) ∧
      (∀ made ≥ k, ((Machine.ofNode root s).advance scene made).step scene = none ∧
        (Machine.ofNode root s).advance scene made = (Machine.ofNode root s).advance scene k) ∧
      (k = 2 * root.size - 1 ↔ RunsAllComplements scene root s)) ∧
    ∀ made,
      (((Machine.ofNode root s).advance scene made).frames = [] ∨
        ∃ p, Stacked root ((Machine.ofNode root s).advance scene made).frames p) ∧
      ((Machine.ofNode root s).advance scene made).depth ≤ root.height ∧
      ∀ location content,
        .text location content ∉ ((Machine.ofNode root s).advance scene made).frames.tail := by
  have hsize : (Machine.ofNode root s).stepsLeft = 2 * root.size - 1 := by
    have hroot := Frame.stepsLeft_ofNode root
    simp only [Machine.stepsLeft, Machine.ofNode, List.foldr_cons, List.foldr_nil]
    omega
  obtain ⟨k, hk, hend, hbefore, hlength⟩ :=
    Machine.exists_length scene (Machine.ofNode root s)
  rw [hsize] at hk hlength
  refine ⟨⟨k, hk, fun made hmade => ?_, fun made hmade => ?_, ?_⟩, fun made => ?_⟩
  · -- before the end there is a frame, so there is a step
    obtain ⟨hnone, -⟩ | ⟨p, -, hstep⟩ := Machine.cases_of_advance scene root s made
    · exact absurd (Machine.step_eq_none_iff.mp hnone) (hbefore made hmade)
    · exact hstep
  · -- from the end on everything stays as it is
    have hstays : (Machine.ofNode root s).advance scene made =
        (Machine.ofNode root s).advance scene k := by
      induction hmade with
      | refl => rfl
      | @step made _ ih =>
        rw [Machine.advance_succ, ih, Machine.step_eq_none_iff.mpr hend, Option.getD_none]
    exact ⟨hstays ▸ Machine.step_eq_none_iff.mpr hend, hstays⟩
  · rw [hlength, runsAllComplements_iff hend hbefore]
  · have hstacked := Machine.stacked_advance scene root s made
    refine ⟨hstacked, ?_⟩
    unfold Machine.depth
    rcases hstacked with hempty | ⟨p, hstack⟩
    · rw [hempty]
      exact ⟨Nat.zero_le _, fun _ _ => List.not_mem_nil⟩
    · exact ⟨hstack.length_le_height, hstack.not_text⟩

end Wordweave
