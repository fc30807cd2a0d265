import Wordweave.Wire.Codec
import Wordweave.Carrier

/-!
# Wordweave — carriers as bytes

A carrier is the number of kinds that are there and, for each, the number of the kind, of two bytes,
and the list of its names. A reader adds the ties one by one, so it never makes an empty list and
never repeats a name.
-/

namespace Wordweave.Wire

/-- The number of a kind of tie. -/
def kindTag (kind : TieKind) : UInt16 := UInt16.ofNat kind.rank.val

/-- The kind of a number. -/
def kindOfTag? (tag : UInt16) : Option TieKind := TieKind.all.find? (kindTag · == tag)

/-- Writes a kind with its names. -/
def writeComponent (component : TieKind × List String) : Except Error Bytes := do
  return writeU16 (kindTag component.1) ++ (← writeList writeText component.2)

/-- Writes a carrier. -/
def writeCarrier (c : Carrier) : Except Error Bytes := writeList writeComponent c.components

/-- Reads a kind with its names. -/
def readComponent : Reader (List Tie) := do
  let tag ← readU16
  match kindOfTag? tag with
  | some kind => return (← readList readText).map (⟨kind, ·⟩)
  | none => throw (.unknownTieKind tag)

/-- Reads a carrier. -/
def readCarrier : Reader Carrier := do return Carrier.empty.addAll (← readList readComponent).flatten

end Wordweave.Wire
