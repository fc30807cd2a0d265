import Wordweave.Run.Weave

/-!
# Wordweave — running trees

Trees are run by a machine with a stack of frames, one for each node that has begun and not ended.
A step resumes the frame on top: it either ends, and its frame is taken off, or it asks for a tree
of its own to be run first, whose frame is then put on top. So trees are run depth first and in
order, however deep they are.

A machine ends because each step does some of the work that is left. `stepsLeft` counts it, and
`run` makes that many steps.
-/

namespace Wordweave

/-- How far a query has come. -/
inductive Phase
  /-- It has not begun. -/
  | fresh
  /-- Its complement is being run; the text, if there is one, is printed after it. -/
  | waiting (tail : Option String)
deriving DecidableEq

/-- A node that has begun and not ended. -/
inductive Frame
  | text (location : Location) (text : String)
  /-- The children that have begun are in reverse. -/
  | sequence (location : Location) (begun : List Node) (ahead : List Node)
  | query (location : Location) (query : Query) (phase : Phase)

namespace Frame

/-- The frame of a node that is about to begin. -/
def ofNode : Node → Frame
  | .text location content => .text location content
  | .sequence location children => .sequence location [] children
  | .query location lookup complement => .query location ⟨lookup, complement⟩ .fresh

/-- The node of a frame. -/
def node : Frame → Node
  | .text location content => .text location content
  | .sequence location begun ahead => .sequence location (begun.reverse ++ ahead)
  | .query location q _ => q.toNode location

/-- The number of steps that a frame takes at most, together with those of the trees it asks for. -/
def stepsLeft : Frame → Nat
  | .text _ _ => 1
  | .sequence _ _ ahead => 1 + 2 * Node.sizeAll ahead
  | .query _ q .fresh => 1 + 2 * q.complement.elim 0 Node.size
  | .query _ _ (.waiting _) => 1

end Frame

/-- What a frame does when it is resumed. -/
inductive Flow
  /-- It is to be resumed as `frame` once the child has been run. -/
  | yield (frame : Frame) (child : Node)
  | done

/-- Resumes a frame. -/
def Frame.resume (scene : Scene) (s : RunState) : Frame → Flow × RunState
  | .text _ content => (.done, s.print content)
  | .sequence _ _ [] => (.done, s)
  | .sequence location begun (child :: ahead) =>
    (.yield (.sequence location (child :: begun) ahead) child, s)
  | .query location q .fresh =>
    match q.weave scene s with
    | (.only units, s) => (.done, s.printAll units)
    | (.around woven complement, s) =>
      (.yield (.query location q (.waiting woven.tail)) complement, s.printAll woven.before)
  | .query _ _ (.waiting tail) => (.done, s.printAll (afterComplement tail))

/-- A stack of frames, the top one first, and the state of the run. -/
structure Machine where
  frames : List Frame
  state : RunState

namespace Machine

/-- The machine that is about to run a tree. -/
def ofNode (root : Node) (s : RunState) : Machine := ⟨[.ofNode root], s⟩

/-- The number of frames. -/
def depth (m : Machine) : Nat := m.frames.length

/-- One step; `none` if no frame is left. -/
def step (scene : Scene) (m : Machine) : Option Machine :=
  match m.frames with
  | [] => none
  | top :: below =>
    match top.resume scene m.state with
    | (.yield frame child, s) => some ⟨.ofNode child :: frame :: below, s⟩
    | (.done, s) => some ⟨below, s⟩

/-- The number of steps that are left at most. -/
def stepsLeft (m : Machine) : Nat := m.frames.foldr (·.stepsLeft + ·) 0

/-- Makes steps, at most `limit` of them, until no frame is left. -/
def advance (scene : Scene) : (limit : Nat) → Machine → Machine
  | 0, m => m
  | limit + 1, m =>
    match m.step scene with
    | some m => advance scene limit m
    | none => m

/-- Runs all frames. -/
def run (scene : Scene) (m : Machine) : Machine := m.advance scene m.stepsLeft

/-- The machines after each of at most `limit` steps, onto `done`, which is in reverse. -/
def visitedOnto (scene : Scene) (done : List Machine) : (limit : Nat) → Machine → List Machine
  | 0, _ => done.reverse
  | limit + 1, m =>
    match m.step scene with
    | some m => visitedOnto scene (m :: done) limit m
    | none => done.reverse

/-- The machines after each of at most `limit` steps. -/
def visited (scene : Scene) (limit : Nat) (m : Machine) : List Machine :=
  visitedOnto scene [] limit m

end Machine

/-- The state after a tree has been run. -/
def Node.run (scene : Scene) (root : Node) (s : RunState) : RunState :=
  ((Machine.ofNode root s).run scene).state

/-- What a program prints from a seed. -/
def Program.output (p : Program) (scene : Scene) (seed : UInt64) : Output :=
  (p.root.run scene (.start seed)).output

end Wordweave
