import Wordweave.Wire.Codec
import Wordweave.Node

/-!
# Wordweave — tags of nodes

Every kind of node has a tag of four letters, which is written as the number that its bytes make. The
number `0` is no tag and marks an absent node. A node begins with its *header*: the tag, then the
line and the column unless the node is absent.
-/

namespace Wordweave.Wire

/-- The kinds of nodes. -/
inductive NodeKind
  | text
  | sequence
  | query
deriving DecidableEq

/-- The number that four bytes make. -/
def fourBytes (a b c d : UInt8) : UInt32 := UInt32.ofNat (ofLittleEndian [a, b, c, d])

namespace NodeKind

/-- All kinds. -/
def all : List NodeKind := [text, sequence, query]

/-- The tag of a kind. -/
def tag : NodeKind → UInt32
  | text => fourBytes 't'.toUInt8 'e'.toUInt8 'x'.toUInt8 't'.toUInt8
  | sequence => fourBytes 's'.toUInt8 'e'.toUInt8 'q'.toUInt8 'u'.toUInt8
  | query => fourBytes 'q'.toUInt8 'u'.toUInt8 'e'.toUInt8 'r'.toUInt8

/-- The kind of a tag. -/
def ofTag? (tag : UInt32) : Option NodeKind := all.find? (·.tag == tag)

/-- The kind of a node. -/
def ofNode : Node → NodeKind
  | .text _ _ => text
  | .sequence _ _ => sequence
  | .query _ _ _ => query

end NodeKind

/-- What stands for a tag where a node is absent. -/
def absentTag : UInt32 := 0

/-- Writes the header of a node. -/
def writeHeader (node : Node) : Bytes :=
  writeU32 (NodeKind.ofNode node).tag ++ writeU32 node.location.line ++
    writeU32 node.location.column

/-- Writes the header of a node that may be absent. -/
def writeHeader? : Option Node → Bytes
  | some node => writeHeader node
  | none => writeU32 absentTag

/-- Reads a header; `none` is an absent node. The tag is judged before the place is read. -/
def readHeader : Reader (Option (NodeKind × Location)) := do
  let tag ← readU32
  if tag = absentTag then return none
  match NodeKind.ofTag? tag with
  | none => throw (.unknownNode tag)
  | some kind =>
    let line ← readU32
    return some (kind, ⟨line, ← readU32⟩)

end Wordweave.Wire
