import Wordweave.Text.Utf8

/-!
# Wordweave — errors of the binary format

Everything that can go wrong while a compiled program is written or read. A filter of an unknown
kind is not among them: readers skip it.
-/

namespace Wordweave.Wire

/-- States that a reader of nodes must not be left in. -/
inductive Violation
  /-- No reader is left although no node is complete. -/
  | noReader
  /-- A query is resumed without the answer to its request. -/
  | noComplement
  /-- A child of a sequence is the absent node. -/
  | absentChild
  /-- A program consists of the absent node. -/
  | absentRoot
deriving DecidableEq

/-- The wording of a violation. -/
def Violation.message : Violation → String
  | .noReader => "decoder stack emptied before completion"
  | .noComplement => "query resumed without its complement"
  | .absentChild => "sequence child is absent"
  | .absentRoot => "program has no root node"

/-- What is wrong with bytes, or with a tree that cannot be written. -/
inductive Error
  /-- The bytes end inside a number. -/
  | endOfBytes
  /-- Fewer bytes are left than announced. -/
  | tooFewBytes (expected found : Nat)
  /-- The bytes of a text are none; they are kept together with their fault. -/
  | invalidText (bytes : List UInt8) (fault : Text.Utf8.Fault)
  | invalidBool (byte : UInt8)
  | invalidLength (length : Int)
  | missingText
  | unknownNode (tag : UInt32)
  | unknownTieKind (tag : UInt16)
  /-- The text of a pattern filter writes no pattern. What is wrong with it is settled by the text,
  which is kept. -/
  | invalidFilter (source : String)
  | wrongMagic
  | unknownVersion (version : UInt16)
  | bodyTooLarge (length : Nat)
  | wrongDigest
  | violation (v : Violation)
deriving DecidableEq

/-- A number in hexadecimal with `0x` in front and at least `width` digits. -/
def hexNumber (width n : Nat) : String :=
  let digits := Nat.toDigits 16 n
  "0x" ++ String.ofList (List.replicate (width - digits.length) '0' ++ digits)

/-- The wording of an error. Of a pattern it gives the text, in place of what is wrong with it. -/
def Error.message : Error → String
  | .endOfBytes => "I/O error: failed to fill whole buffer"
  | .tooFewBytes expected found => s!"I/O error: expected {expected} bytes, found {found}"
  | .invalidText _ fault => "String is not valid UTF-8: " ++ fault.message
  | .invalidBool byte => "Invalid boolean byte: " ++ hexNumber 2 byte.toNat
  | .invalidLength length => s!"Invalid length prefix: {length}"
  | .missingText => "Expected a string but found the absent marker"
  | .unknownNode tag => "Unknown node tag " ++ hexNumber 8 tag.toNat
  | .unknownTieKind tag => s!"Unknown carrier component type {tag.toNat}"
  | .invalidFilter source => "Invalid filter: " ++ source
  | .wrongMagic => "Not a compiled program (bad magic)"
  | .unknownVersion version => s!"Unsupported program format version {version.toNat}"
  | .bodyTooLarge length => s!"Program body of {length} bytes exceeds the u32 length field"
  | .wrongDigest => "Program body checksum mismatch"
  | .violation v => "Decoder protocol violation: " ++ v.message

end Wordweave.Wire
