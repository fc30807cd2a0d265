import Wordweave.Wire.Error

/-!
# Wordweave — numbers and texts as bytes

The small values of the binary format. Numbers are little-endian and of fixed width. A text is the
number of its bytes, as a signed number of four bytes, followed by the bytes; the length `-1` stands
for an absent text. Lists are a count of the same form followed by their members.

A reader takes bytes from the front and leaves the rest. Writing fails only where a length does not
fit its number.
-/

namespace Wordweave.Wire

/-- Bytes in order. -/
abbrev Bytes := List UInt8

/-- Takes a value from the front of some bytes and leaves the rest. -/
abbrev Reader (α : Type) := StateT Bytes (Except Error) α

/-! ## Fixed width -/

/-- The lowest `width` bytes of a number, lowest first. -/
def littleEndian : (width : Nat) → Nat → Bytes
  | 0, _ => []
  | width + 1, n => UInt8.ofNat n :: littleEndian width (n / 256)

/-- The number that bytes write, lowest first. -/
def ofLittleEndian : Bytes → Nat
  | [] => 0
  | b :: rest => b.toNat + 256 * ofLittleEndian rest

/-- Reads a number of `width` bytes. -/
def readFixed (width : Nat) : Reader Nat := fun input =>
  let (front, rest) := input.splitAt width
  if front.length = width then .ok (ofLittleEndian front, rest) else .error .endOfBytes

/-- Reads a number of two bytes. -/
def readU16 : Reader UInt16 := do return UInt16.ofNat (← readFixed 2)

/-- Reads a number of four bytes. -/
def readU32 : Reader UInt32 := do return UInt32.ofNat (← readFixed 4)

/-- Reads a signed number of four bytes. -/
def readI32 : Reader Int := do return (← readU32).toInt32.toInt

/-- Writes a number of two bytes. -/
def writeU16 (n : UInt16) : Bytes := littleEndian 2 n.toNat

/-- Writes a number of four bytes. -/
def writeU32 (n : UInt32) : Bytes := littleEndian 4 n.toNat

/-- Writes a signed number of four bytes. -/
def writeI32 (n : Int) : Bytes := writeU32 (Int32.ofInt n).toUInt32

/-- Reads a truth value, a byte `0` or `1`. -/
def readBool : Reader Bool := do
  let n ← readFixed 1
  match n with
  | 0 => return false
  | 1 => return true
  | n => throw (.invalidBool (UInt8.ofNat n))

/-- Writes a truth value. -/
def writeBool (b : Bool) : Bytes := [if b then 1 else 0]

/-! ## Lengths and texts -/

/-- The largest length. -/
def lengthLimit : Nat := 0x7fffffff

/-- Writes a length. -/
def writeLength (n : Nat) : Except Error Bytes :=
  if n ≤ lengthLimit then .ok (writeU32 (UInt32.ofNat n)) else .error (.invalidLength lengthLimit)

/-- Reads a length, which is not negative. -/
def readLength : Reader Nat := do
  let n ← readI32
  if n < 0 then throw (.invalidLength n) else return n.toNat

/-- Reads just so many bytes. -/
def readBytes (n : Nat) : Reader Bytes := fun input =>
  let (front, rest) := input.splitAt n
  if front.length = n then .ok (front, rest) else .error (.tooFewBytes n front.length)

/-- The length that marks an absent text. -/
def absentLength : Int := -1

/-- Reads a text that may be absent. -/
def readText? : Reader (Option String) := do
  let n ← readI32
  if n = absentLength then return none
  if n < 0 then throw (.invalidLength n)
  let bytes ← readBytes n.toNat
  match Text.Utf8.decode bytes with
  | .ok text => return some text
  | .error fault => throw (.invalidText bytes fault)

/-- Reads a text that must be there. -/
def readText : Reader String := do
  match ← readText? with
  | some text => return text
  | none => throw .missingText

/-- Writes a text. -/
def writeText (text : String) : Except Error Bytes := do
  let bytes := Text.Utf8.encode text
  return (← writeLength bytes.length) ++ bytes

/-- Writes a text that may be absent. -/
def writeText? : Option String → Except Error Bytes
  | some text => writeText text
  | none => .ok (writeI32 absentLength)

/-! ## Lists -/

/-- Reads `n` values onto `done`, which is in reverse. -/
def readEachOnto {α : Type} (read : Reader α) : (n : Nat) → (done : List α) → Reader (List α)
  | 0, done => fun input => .ok (done.reverse, input)
  | n + 1, done => fun input =>
    match read input with
    | .ok (a, rest) => readEachOnto read n (a :: done) rest
    | .error e => .error e

/-- Reads `n` values. -/
def readEach {α : Type} (read : Reader α) (n : Nat) : Reader (List α) := readEachOnto read n []

/-- Reads a counted list. -/
def readList {α : Type} (read : Reader α) : Reader (List α) := do readEach read (← readLength)

/-- Writes values one after the other. -/
def writeEach {α : Type} (write : α → Except Error Bytes) (values : List α) : Except Error Bytes := do
  return (← values.mapM write).flatten

/-- Writes a counted list. -/
def writeList {α : Type} (write : α → Except Error Bytes) (values : List α) : Except Error Bytes := do
  return (← writeLength values.length) ++ (← writeEach write values)

end Wordweave.Wire
