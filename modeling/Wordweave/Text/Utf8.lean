/-!
# Wordweave — UTF-8

Texts as bytes. A text is read byte by byte by an automaton that is either between two characters
or inside one, where it knows which bytes may follow. Overlong forms, surrogates and code points
beyond the last one are ruled out by the range of the second byte.

A byte string that is no text has a fault at a definite place: the longest prefix that is a text,
and there either a byte that cannot follow or the end of the bytes inside a character.
-/

namespace Wordweave.Text.Utf8

/-- Why bytes are no text. Both forms give the length of the longest prefix that is one. -/
inductive Fault
  /-- `length` bytes there begin no character. -/
  | invalid (index length : Nat)
  /-- The bytes end inside a character. -/
  | incomplete (index : Nat)
deriving DecidableEq

/-- The wording of a fault. -/
def Fault.message : Fault → String
  | .invalid index length =>
    s!"invalid utf-8 sequence of {length} bytes from index {index}"
  | .incomplete index => s!"incomplete utf-8 byte sequence from index {index}"

/-- The bytes of a text. -/
def encode (text : String) : List UInt8 := text.toList.flatMap String.utf8EncodeChar

/-- A character whose first bytes have been read: how many are missing, the range of the next one,
the bits so far and the number of bytes read. -/
structure Opened where
  missing : Nat
  low : UInt8
  high : UInt8
  bits : Nat
  length : Nat
deriving DecidableEq

/-- What a first byte begins. -/
inductive Lead
  | whole (c : Char)
  | opens (o : Opened)
  | nothing

/-- What a byte begins. -/
def lead (b : UInt8) : Lead :=
  if b < 0x80 then .whole (Char.ofNat b.toNat)
  else if b < 0xC2 then .nothing
  else if b < 0xE0 then .opens ⟨1, 0x80, 0xBF, b.toNat % 32, 1⟩
  else if b < 0xF0 then
    .opens ⟨2, if b = 0xE0 then 0xA0 else 0x80, if b = 0xED then 0x9F else 0xBF, b.toNat % 16, 1⟩
  else if b < 0xF5 then
    .opens ⟨3, if b = 0xF0 then 0x90 else 0x80, if b = 0xF4 then 0x8F else 0xBF, b.toNat % 8, 1⟩
  else .nothing

/-- Whether a byte may come next in an opened character. -/
def Opened.admits (o : Opened) (b : UInt8) : Bool := decide (o.low ≤ b) && decide (b ≤ o.high)

/-- The bits of an opened character after one more byte. -/
def Opened.bitsAfter (o : Opened) (b : UInt8) : Nat := o.bits * 64 + b.toNat % 64

/-- An opened character after one more byte. -/
def Opened.after (o : Opened) (b : UInt8) : Opened :=
  ⟨o.missing - 1, 0x80, 0xBF, o.bitsAfter b, o.length + 1⟩

/-- Reads characters onto `done`, which is in reverse. `index` counts the bytes of the characters
read, and `state` is the one under way. -/
def scan (index : Nat) (state : Option Opened) (done : List Char) :
    List UInt8 → Except Fault (List Char)
  | [] =>
    match state with
    | none => .ok done.reverse
    | some _ => .error (.incomplete index)
  | b :: rest =>
    match state with
    | none =>
      match lead b with
      | .whole c => scan (index + 1) none (c :: done) rest
      | .opens o => scan index (some o) done rest
      | .nothing => .error (.invalid index 1)
    | some o =>
      if o.admits b then
        if o.missing ≤ 1 then
          scan (index + o.length + 1) none (Char.ofNat (o.bitsAfter b) :: done) rest
        else scan index (some (o.after b)) done rest
      else .error (.invalid index o.length)

/-- The text of some bytes. -/
def decode (bytes : List UInt8) : Except Fault String :=
  (scan 0 none [] bytes).map String.ofList

/-- Reads characters onto `done`, which is in reverse, and puts `broken n` wherever `n` bytes belong
to none. -/
def scanAny (broken : Nat → List (Option Char)) (state : Option Opened)
    (done : List (Option Char)) : List UInt8 → List (Option Char)
  | [] => (match state with
    | some o => broken o.length ++ done
    | none => done).reverse
  | b :: rest =>
    let begun (done : List (Option Char)) : Option Opened × List (Option Char) :=
      match lead b with
      | .whole c => (none, some c :: done)
      | .opens o => (some o, done)
      | .nothing => (none, broken 1 ++ done)
    let (state, done) :=
      match state with
      | none => begun done
      | some o =>
        if o.admits b then
          if o.missing ≤ 1 then (none, some (Char.ofNat (o.bitsAfter b)) :: done)
          else (some (o.after b), done)
        else begun (broken o.length ++ done)
    scanAny broken state done rest

/-- The characters of some bytes, with a `none` for every byte that belongs to none. -/
def glyphs (bytes : List UInt8) : List (Option Char) :=
  scanAny (fun n => List.replicate n none) none [] bytes

/-- The text of some bytes, with one replacement character wherever bytes belong to none. -/
def decodeAny (bytes : List UInt8) : String :=
  String.ofList ((scanAny (fun _ => [none]) none [] bytes).map (·.getD '\uFFFD'))

end Wordweave.Text.Utf8
