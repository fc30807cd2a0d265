import Wordweave.Wire.Digest
import Wordweave.Wire.NodeWriter
import Wordweave.Wire.NodeReader

/-!
# Wordweave — compiled programs

A compiled program is a container around the bytes of its tree, the *body*: eight bytes of magic, a
version of two bytes, the name of the program, which may be absent, the length of the body in four
bytes, its SHA-256 digest and the body. The digest is checked before the body is read. Bytes after
the body, and bytes of the body after its tree, are not looked at.
-/

namespace Wordweave.Wire

/-- The bytes that every compiled program begins with. -/
def magic : Bytes := Text.Utf8.encode "PHRSPGM\x00"

/-- The version of the format. -/
def formatVersion : UInt16 := 1

/-- The number of bytes of a digest. -/
def digestLength : Nat := 32

/-- Writes the length of a body. -/
def writeBodyLength (n : Nat) : Except Error Bytes :=
  if n < 0x100000000 then .ok (writeU32 (UInt32.ofNat n)) else .error (.bodyTooLarge n)

/-- Writes a program. -/
def writeProgram (p : Program) : Except Error Bytes := do
  let body ← writeNode p.root
  let length ← writeBodyLength body.length
  let name ← writeText? p.name
  return magic ++ writeU16 formatVersion ++ name ++ length ++ Digest.sha256 body ++ body

/-- The tree of a body. -/
def readBody (body : Bytes) : Except Error Node :=
  match readNode? body with
  | .error e => .error e
  | .ok (some root, _) => .ok root
  | .ok (none, _) => .error (.violation .absentRoot)

/-- Reads a program. -/
def readProgram : Reader Program := do
  if (← readBytes magic.length) != magic then throw .wrongMagic
  let version ← readU16
  if version != formatVersion then throw (.unknownVersion version)
  let name ← readText?
  let length ← readU32
  let digest ← readBytes digestLength
  let body ← readBytes length.toNat
  if Digest.sha256 body != digest then throw .wrongDigest
  return ⟨name, ← readBody body⟩

/-- The program of some bytes. -/
def programOfBytes (bytes : Bytes) : Except Error Program := (readProgram bytes).map (·.1)

/-- Whether bytes begin as a compiled program does. -/
def isCompiled (bytes : Bytes) : Bool := magic.isPrefixOf bytes

end Wordweave.Wire
