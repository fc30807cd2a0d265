import Wordweave.Proofs.Run.Evaluation

/-!
# Wordweave — the stack of a run is a path

A *place* of a tree is the way to one of its nodes: the numbers of the children on this way, the
last one first (`Node.at?`). The frames of a machine, the top one first, stand in the same order,
and they are always those of the nodes on the way to some place: at the bottom is the frame of the
root, and above each frame is that of the child which it has asked for last (`Stacked`).

A frame counts the children that it has asked for (`Frame.begun`). It asks for them in order, and
each time the count goes up by one (`Frame.begun_of_yield`); so a child that has its frame above is
the last one that was counted. This is what a step keeps (`Stacked.of_yield`, `Stacked.pop`).

Main result:

* `Machine.stacked_advance` — wherever a run is stopped, its frames are those on a way, or none are
  left.
-/

namespace Wordweave

/-! ## Places -/

/-- The way to a node: the numbers of the children on it, the last one first. -/
abbrev Place := List Nat

namespace Node

/-- The trees right below a node, in the order in which they are run. -/
def children : Node → List Node
  | .text _ _ => []
  | .sequence _ children => children
  | .query _ _ complement => complement.toList

mutual

/-- The number of nodes on a longest way down. -/
def height : Node → Nat
  | .text _ _ => 1
  | .sequence _ children => 1 + heightAll children
  | .query _ _ none => 1
  | .query _ _ (some complement) => 1 + complement.height

/-- The height of the highest one of several trees. -/
def heightAll : List Node → Nat
  | [] => 0
  | child :: rest => max child.height (heightAll rest)

end

/-- The node at a place. -/
def at? (root : Node) : Place → Option Node
  | [] => some root
  | i :: p => (root.at? p).bind fun node => node.children[i]?

theorem height_le_heightAll {child : Node} {children : List Node} (h : child ∈ children) :
    child.height ≤ heightAll children := by
  induction children with
  | nil => exact nomatch h
  | cons first rest ih =>
    rw [heightAll]
    rcases List.mem_cons.mp h with rfl | h
    · exact Nat.le_max_left ..
    · exact Nat.le_trans (ih h) (Nat.le_max_right ..)

theorem height_lt_of_mem_children {node child : Node} (h : child ∈ node.children) :
    child.height < node.height := by
  cases node with
  | text location content => exact nomatch h
  | sequence location children =>
    have hle : child.height ≤ heightAll children := height_le_heightAll h
    rw [height]
    omega
  | query location lookup complement =>
    cases complement with
    | none => exact nomatch h
    | some complement =>
      obtain rfl : child = complement := List.mem_singleton.mp h
      rw [height]
      omega

theorem height_pos (node : Node) : 0 < node.height := by
  rcases node with _ | _ | ⟨_, _, _ | complement⟩ <;> rw [height] <;> omega

/-- A tree is at least as high as the way to a node and the tree there together. -/
theorem length_add_height_le {root node : Node} {p : Place} (h : root.at? p = some node) :
    p.length + node.height ≤ root.height := by
  induction p generalizing node with
  | nil =>
    obtain rfl : root = node := Option.some.inj h
    simp
  | cons i p ih =>
    -- the last step of the way goes from the parent to a tree that is lower
    obtain ⟨parent, hparent, hchild⟩ := Option.bind_eq_some_iff.mp h
    have hless := height_lt_of_mem_children (List.mem_of_getElem? hchild)
    have hway := ih hparent
    rw [List.length_cons]
    omega

theorem exists_at?_of_suffix {root node : Node} {p q : Place} (hsuffix : p <:+ q)
    (h : root.at? q = some node) : ∃ above, root.at? p = some above := by
  obtain ⟨way, rfl⟩ := hsuffix
  induction way generalizing node with
  | nil => exact ⟨node, h⟩
  | cons i way ih =>
    obtain ⟨parent, hparent, -⟩ := Option.bind_eq_some_iff.mp h
    exact ih hparent

end Node

/-! ## What frames ask for -/

namespace Frame

/-- How many of its children a frame has asked for. -/
def begun : Frame → Nat
  | .text _ _ => 0
  | .sequence _ begun _ => begun.length
  | .query _ _ .fresh => 0
  | .query _ _ (.waiting _) => 1

@[simp] theorem node_ofNode (node : Node) : (ofNode node).node = node := by
  cases node <;> rfl

@[simp] theorem begun_ofNode (node : Node) : (ofNode node).begun = 0 := by
  cases node <;> rfl

/-- A frame asks for the first child that it has not asked for, and stays the frame of its node. -/
theorem begun_of_yield {scene : Scene} {frame resumed : Frame} {child : Node} {s t : RunState}
    (h : frame.resume scene s = (.yield resumed child, t)) :
    resumed.node = frame.node ∧ resumed.begun = frame.begun + 1 ∧
      frame.node.children[frame.begun]? = some child := by
  obtain ⟨location, begun, ahead, rfl, rfl, -⟩ | ⟨location, q, woven, u, rfl, hw, rfl, -⟩ :=
    cases_of_yield h
  · -- a sequence, which asks for the first child ahead
    simp [node, Frame.begun, Node.children]
  · -- a query whose term is woven around the complement: there is one
    have hcomplement := Query.complement_of_around hw
    simp [node, Frame.begun, Query.toNode, Node.children, hcomplement]

end Frame

/-! ## Stacks -/

/-- The frames of the nodes on the way to a place, the one at the place first. Each of them but the
root's is that of the child which the frame below has asked for last. -/
inductive Stacked (root : Node) : List Frame → Place → Prop
  | root {frame : Frame} (hnode : frame.node = root) : Stacked root [frame] []
  | child {top frame : Frame} {below : List Frame} {i : Nat} {p : Place}
      (hbelow : Stacked root (frame :: below) p) (hlast : frame.begun = i + 1)
      (hnode : frame.node.children[i]? = some top.node) :
      Stacked root (top :: frame :: below) (i :: p)

namespace Stacked

variable {root : Node} {top resumed : Frame} {frames below : List Frame} {p : Place}

/-- What is above a frame does not depend on how far it has come. -/
theorem congr_top (h : Stacked root (top :: below) p) (hnode : resumed.node = top.node) :
    Stacked root (resumed :: below) p := by
  cases h with
  | root htop => exact .root (hnode.trans htop)
  | child hbelow hlast htop => exact .child hbelow hlast (hnode ▸ htop)

/-- The frame of a child goes on top of the frame that asks for it. -/
theorem of_yield {scene : Scene} {child : Node} {s t : RunState}
    (h : Stacked root (top :: below) p) (hr : top.resume scene s = (.yield resumed child, t)) :
    Stacked root (.ofNode child :: resumed :: below) (top.begun :: p) := by
  obtain ⟨hnode, hbegun, hchild⟩ := Frame.begun_of_yield hr
  refine .child (h.congr_top hnode) hbegun ?_
  rw [hnode, hchild, Frame.node_ofNode]

/-- Without the frame on top there is none left, or the way is shorter by one child. -/
theorem pop (h : Stacked root (top :: below) p) :
    (p = [] ∧ below = []) ∨ ∃ i q, p = i :: q ∧ Stacked root below q := by
  cases h with
  | root hnode => exact .inl ⟨rfl, rfl⟩
  | child hbelow hlast hnode => exact .inr ⟨_, _, rfl, hbelow⟩

/-- The place is told by the frames. -/
theorem unique {q : Place} (hp : Stacked root frames p) (hq : Stacked root frames q) : p = q := by
  induction hp generalizing q with
  | root hnode => cases hq with | root _ => rfl
  | child hbelow hlast hnode ih =>
    cases hq with
    | child hbelow' hlast' hnode' =>
      -- the frame below has counted the children, so it tells which one is above
      obtain rfl := Nat.succ.inj (hlast.symm.trans hlast')
      rw [ih hbelow']

/-- With the frame on top the way was longer by one child. -/
theorem of_pop {q : Place} (h : Stacked root (top :: below) p) (hbelow : Stacked root below q) :
    ∃ i, p = i :: q := by
  obtain ⟨-, rfl⟩ | ⟨i, q', rfl, hbelow'⟩ := h.pop
  · exact nomatch hbelow
  · obtain rfl := hbelow'.unique hbelow
    exact ⟨i, rfl⟩

/-- The frame on top is that of the node at the place. -/
theorem at?_eq (h : Stacked root (top :: below) p) : root.at? p = some top.node := by
  -- the induction goes down the stack, so that each frame is on top once
  generalize hframes : top :: below = frames at h
  induction h generalizing top below with
  | root hnode =>
    obtain ⟨rfl, -⟩ := List.cons.inj hframes
    rw [hnode]
    rfl
  | child hbelow hlast hnode ih =>
    obtain ⟨rfl, -⟩ := List.cons.inj hframes
    rw [Node.at?, ih rfl, Option.bind_some, hnode]

theorem length_eq (h : Stacked root frames p) : frames.length = p.length + 1 := by
  induction h with
  | root hnode => rfl
  | child hbelow hlast hnode ih => rw [List.length_cons, ih, List.length_cons]

/-- A stack is no deeper than the tree. -/
theorem length_le_height (h : Stacked root frames p) : frames.length ≤ root.height := by
  have hlength := h.length_eq
  obtain ⟨top, below, rfl⟩ := List.exists_cons_of_length_eq_add_one hlength
  -- at the end of the way there is a tree still, which has a height
  have hway := Node.length_add_height_le h.at?_eq
  have hpos := top.node.height_pos
  omega

/-- A frame with others above it has asked for a child. -/
theorem begun_pos (h : Stacked root (top :: below) p) : ∀ frame ∈ below, 0 < frame.begun := by
  generalize hframes : top :: below = frames at h
  induction h generalizing top below with
  | root hnode =>
    obtain ⟨-, rfl⟩ := List.cons.inj hframes
    exact fun _ h => nomatch h
  | child hbelow hlast hnode ih =>
    obtain ⟨-, rfl⟩ := List.cons.inj hframes
    exact List.forall_mem_cons.mpr ⟨by omega, ih rfl⟩

/-- Frames of texts are only on top, as texts have no children. -/
theorem not_text (h : Stacked root frames p) (location : Location) (content : String) :
    .text location content ∉ frames.tail := by
  intro hmem
  cases frames with
  | nil => exact nomatch hmem
  | cons top below => exact Nat.lt_irrefl 0 (h.begun_pos _ hmem)

end Stacked

namespace Machine

variable {scene : Scene} {root : Node} {m next : Machine} {p : Place}

/-- A step goes one child further down the way, or one back up. -/
theorem stacked_step (hstack : Stacked root m.frames p) (h : m.step scene = some next) :
    next.frames = [] ∨ ∃ q, Stacked root next.frames q := by
  obtain ⟨top, below, hframes, ⟨frame, child, t, hr, rfl⟩ | ⟨t, hr, rfl⟩⟩ := cases_of_step h
  · rw [hframes] at hstack
    exact .inr ⟨_, hstack.of_yield hr⟩
  · rw [hframes] at hstack
    obtain ⟨-, rfl⟩ | ⟨i, q, -, hbelow⟩ := hstack.pop
    · exact .inl rfl
    · exact .inr ⟨q, hbelow⟩

theorem advance_succ (scene : Scene) (made : Nat) (m : Machine) :
    m.advance scene (made + 1) =
      ((m.advance scene made).step scene).getD (m.advance scene made) := by
  induction made generalizing m with
  | zero =>
    rw [advance, advance]
    cases m.step scene <;> rfl
  | succ made ih =>
    rw [advance, advance]
    cases hstep : m.step scene with
    | none => simp [hstep]
    | some next => exact ih next

/-- **The stack.** Wherever a run is stopped, its frames are those of the nodes on the way to some
place, or no frame is left. -/
theorem stacked_advance (scene : Scene) (root : Node) (s : RunState) (made : Nat) :
    ((ofNode root s).advance scene made).frames = [] ∨
      ∃ p, Stacked root ((ofNode root s).advance scene made).frames p := by
  induction made with
  | zero => exact .inr ⟨[], .root (Frame.node_ofNode root)⟩
  | succ made ih =>
    rw [advance_succ]
    cases hstep : ((ofNode root s).advance scene made).step scene with
    | none => exact ih
    | some next =>
      rcases ih with hempty | ⟨p, hstack⟩
      · -- without frames there is no step
        exact nomatch ((step_eq_none_iff.mpr hempty).symm.trans hstep)
      · exact stacked_step hstack hstep

/-- One step more changes nothing once no frame is left, and otherwise it begins at some place. -/
theorem cases_of_advance (scene : Scene) (root : Node) (s : RunState) (made : Nat) :
    (((ofNode root s).advance scene made).step scene = none ∧
      (ofNode root s).advance scene (made + 1) = (ofNode root s).advance scene made) ∨
    ∃ p, Stacked root ((ofNode root s).advance scene made).frames p ∧
      ((ofNode root s).advance scene made).step scene =
        some ((ofNode root s).advance scene (made + 1)) := by
  rw [advance_succ]
  rcases stacked_advance scene root s made with hempty | ⟨p, hstack⟩
  · have hstep : ((ofNode root s).advance scene made).step scene = none :=
      step_eq_none_iff.mpr hempty
    exact .inl ⟨hstep, by rw [hstep, Option.getD_none]⟩
  · cases hstep : ((ofNode root s).advance scene made).step scene with
    | none =>
      rw [step_eq_none_iff.mp hstep] at hstack
      exact nomatch hstack
    | some next => exact .inr ⟨p, hstack, rfl⟩

end Machine

end Wordweave
