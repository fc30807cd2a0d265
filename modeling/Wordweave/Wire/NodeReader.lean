import Wordweave.Wire.Tag
import Wordweave.Wire.Lookup

/-!
# Wordweave — reading trees

A reader of one node does not read its children. Where a child begins it *requests* it and is
suspended; the child's own reader goes on top of the stack, and when it is complete the reader below
is resumed with the *reply*. So the depth of a tree costs no more than a longer stack.

Every resumption that requests a child reads a header of four bytes or more, and every other one
completes a node, whose header had been read. The number of bytes therefore bounds the number of
resumptions.
-/

namespace Wordweave.Wire

/-- The reader of one node: what it has read so far. -/
inductive NodeReader
  | text (location : Location)
  /-- `expected` is the number of children once it is known; `children` are in reverse. -/
  | sequence (location : Location) (expected : Option Nat) (children : List Node)
  | query (location : Location) (lookup : Option Lookup)

/-- The answer to a request: a node, or the news that it is absent. -/
structure Reply where
  node : Option Node

/-- What a reader does when it is resumed. -/
inductive ReadFlow
  /-- Asks for the next node, and goes on as the given reader when it comes. -/
  | request (suspended : NodeReader)
  | complete (node : Node)

namespace NodeReader

/-- The reader of a node whose header has been read. -/
def ofHeader : NodeKind × Location → NodeReader
  | (.text, location) => .text location
  | (.sequence, location) => .sequence location none []
  | (.query, location) => .query location none

/-- A sequence that knows the number of its children: it asks for the next one or is complete. -/
def continueSequence (location : Location) (expected : Nat) (children : List Node) : ReadFlow :=
  if children.length < expected then .request (.sequence location (some expected) children)
  else .complete (.sequence location children.reverse)

/-- Resumes a reader, with the reply to its request if it made one. -/
def resume (reader : NodeReader) (reply : Option Reply) : Reader ReadFlow :=
  match reader with
  | .text location => do return .complete (.text location (← readText))
  | .sequence location expected children => do
    let expected ← match expected with
      | some n => pure n
      | none => readLength
    match reply with
    | none => return continueSequence location expected children
    | some ⟨some child⟩ => return continueSequence location expected (child :: children)
    | some ⟨none⟩ => throw (.violation .absentChild)
  | .query location none => do return .request (.query location (some (← readLookup)))
  | .query location (some lookup) =>
    match reply with
    | some ⟨complement⟩ => return .complete (.query location lookup complement)
    | none => throw (.violation .noComplement)

end NodeReader

/-- The suspended readers, the innermost first, the reply to the innermost, and the bytes left. -/
structure ReadState where
  readers : List NodeReader
  reply : Option Reply
  input : Bytes

/-- Where a step of the reader leads. -/
inductive ReadStep
  | next (s : ReadState)
  | finished (node : Node) (rest : Bytes)

/-- Resumes the innermost reader. -/
def ReadState.step (s : ReadState) : Except Error ReadStep :=
  match s.readers with
  | [] => .error (.violation .noReader)
  | reader :: below =>
    match reader.resume s.reply s.input with
    | .error e => .error e
    | .ok (.complete node, rest) =>
      if below.isEmpty then .ok (.finished node rest)
      else .ok (.next ⟨below, some ⟨some node⟩, rest⟩)
    | .ok (.request suspended, rest) =>
      match readHeader rest with
      | .error e => .error e
      | .ok (some header, rest) =>
        .ok (.next ⟨NodeReader.ofHeader header :: suspended :: below, none, rest⟩)
      | .ok (none, rest) => .ok (.next ⟨suspended :: below, some ⟨none⟩, rest⟩)

/-- Steps until the outermost node is complete, at most `fuel` times; `none` if that is too few. -/
def ReadState.run : (fuel : Nat) → ReadState → Option (Except Error (Node × Bytes))
  | 0, _ => none
  | fuel + 1, s =>
    match s.step with
    | .error e => some (.error e)
    | .ok (.finished node rest) => some (.ok (node, rest))
    | .ok (.next next) => run fuel next

/-- A number of steps that is enough for some bytes. -/
def stepBound (input : Bytes) : Nat := input.length / 4 + 1

/-- Reads the rest of a tree whose header has been read. -/
def readOpened (bound : Nat) (header : NodeKind × Location) : Reader Node := fun input =>
  (ReadState.run bound ⟨[NodeReader.ofHeader header], none, input⟩).getD
    (.error (.violation .noReader))

/-- Reads a tree, or the mark of an absent one. -/
def readNode? : Reader (Option Node) := fun input =>
  match readHeader input with
  | .error e => .error e
  | .ok (none, rest) => .ok (none, rest)
  | .ok (some header, rest) =>
    match readOpened (stepBound input) header rest with
    | .error e => .error e
    | .ok (node, rest) => .ok (some node, rest)

end Wordweave.Wire
