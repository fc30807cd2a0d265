import Wordweave.Wire.Tag
import Wordweave.Wire.Lookup

/-!
# Wordweave — writing trees

A tree is written in preorder: header, fields of the node, then its children; a sequence counts its
children and a query has one child, which may be absent.

Trees may be deep, so the writer keeps the nodes under way on a stack of its own. A node on the stack
is resumed once for each child and once more to end it. What has been written so far is held as
chunks, the last one first.
-/

namespace Wordweave.Wire

/-- A node under way, and how often it has been resumed. -/
structure WriteFrame where
  node : Node
  step : Nat

/-- What a node does when it is resumed. -/
inductive WriteFlow
  /-- Writes some bytes and then a child, or the mark of an absent one. -/
  | child (bytes : Bytes) (node : Option Node)
  /-- Writes some bytes and ends. -/
  | done (bytes : Bytes)

/-- The next child of a sequence, after the given bytes. -/
def childAt (bytes : Bytes) (children : List Node) (step : Nat) : WriteFlow :=
  match children[step]? with
  | some child => .child bytes (some child)
  | none => .done bytes

/-- Resumes a node. -/
def WriteFrame.resume (frame : WriteFrame) : Except Error WriteFlow :=
  match frame.node with
  | .text _ text => return .done (← writeText text)
  | .sequence _ children => do
    let count ← if frame.step = 0 then writeLength children.length else pure []
    return childAt count children frame.step
  | .query _ lookup complement =>
    if frame.step = 0 then return .child (← writeLookup lookup) complement else return .done []

/-- The nodes under way, the innermost first, and what has been written, the last chunk first. -/
structure WriteState where
  frames : List WriteFrame
  chunks : List Bytes

/-- Resumes the innermost node; `none` if there is none. -/
def WriteState.step? (s : WriteState) : Option (Except Error WriteState) :=
  match s.frames with
  | [] => none
  | frame :: below => some do
    match ← frame.resume with
    | .done bytes => return ⟨below, bytes :: s.chunks⟩
    | .child bytes child =>
      let resumed : WriteFrame := { frame with step := frame.step + 1 }
      let chunks := writeHeader? child :: bytes :: s.chunks
      match child with
      | some node => return ⟨⟨node, 0⟩ :: resumed :: below, chunks⟩
      | none => return ⟨resumed :: below, chunks⟩

/-- Resumes nodes until none is under way, at most `fuel` times. -/
def WriteState.run : (fuel : Nat) → WriteState → Except Error WriteState
  | 0, s => .ok s
  | fuel + 1, s =>
    match s.step? with
    | none => .ok s
    | some (.ok next) => run fuel next
    | some (.error e) => .error e

/-- A number of resumptions that is enough to write a tree: each node is resumed once to end it, a
query once more to begin it, and each child resumes its parent once. -/
def resumptions (node : Node) : Nat := 3 * node.size

/-- Writes a tree that may be absent. -/
def writeNode? : Option Node → Except Error Bytes
  | none => .ok (writeHeader? none)
  | some node => do
    let s ← WriteState.run (resumptions node) ⟨[⟨node, 0⟩], [writeHeader node]⟩
    return s.chunks.reverse.flatten

/-- Writes a tree. -/
def writeNode (node : Node) : Except Error Bytes := writeNode? (some node)

end Wordweave.Wire
