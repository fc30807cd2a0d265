import Wordweave.Json.Decimal
import Wordweave.Text.CodePoints
import Wordweave.Text.Utf8

/-!
# Wordweave — reading JSON

A reader takes one value from the front of a text and leaves the rest. It reads from left to right
and stops at the first thing that is wrong, so what it reports does not depend on what comes later.

A text may come from a file and hold bytes that belong to no character; each is a `none` among the
characters, and is refused where a value or a text holds it. Arrays and objects may nest 127 deep.
A value that nobody asks for is only passed over (`Care.skip`): it must be written properly, but its
depth, the size of its numbers and the characters of its texts are not looked at.

Every step takes some of the text, so its length bounds the number of steps under way.
-/

namespace Wordweave.Json

namespace Reader

/-- A text, with `none` where bytes belong to no character. -/
abbrev Glyphs := List (Option Char)

/-- How closely a value is looked at. -/
inductive Care
  /-- All of it is kept; `room` further arrays and objects may open inside each other. -/
  | keep (room : Nat)
  /-- It is passed over. -/
  | skip

/-- How many arrays and objects may be open at once. -/
def nestingLimit : Nat := 127

/-- The care inside one more array or object, if one may open. -/
def Care.inner? : Care → Option Care
  | .keep 0 => none
  | .keep (room + 1) => some (.keep room)
  | .skip => some .skip

/-- Whether the value is kept. -/
def Care.keeps : Care → Bool
  | .keep _ => true
  | .skip => false

/-- Whether a glyph is a blank of the format. -/
def isSpacing (g : Option Char) : Bool :=
  g == some ' ' || g == some '\n' || g == some '\t' || g == some '\r'

/-- The text after its blanks. -/
def skipSpacing (input : Glyphs) : Glyphs := input.dropWhile isSpacing

/-- Passes the given characters. -/
def expect : List Char → Glyphs → Except Fault Glyphs
  | [], input => .ok input
  | _ :: _, [] => .error .endsEarly
  | c :: rest, g :: input => if g = some c then expect rest input else .error .malformed

/-! ## Texts -/

/-- The number of bytes that a glyph takes. -/
def glyphBytes : Option Char → Nat
  | some c => c.utf8Size
  | none => 1

/-- The four hexadecimal digits at the front of a text. -/
def fourDigits : Glyphs → Except Fault (Nat × Glyphs)
  | a :: b :: c :: d :: rest =>
    match [a, b, c, d].mapM fun g => g.bind Text.hexDigit? with
    | some digits => .ok (digits.foldl (16 * · + ·) 0, rest)
    | none => .error .malformed
  | short => .error (if short.foldl (fun n g => n + glyphBytes g) 0 < 4 then .endsEarly else .malformed)

/-- The character of an escape `u`, at its digits. A character beyond the first 65536 takes two of
them, a high half and a low half; halves that are kept must come in pairs. -/
def unicodeEscape (care : Care) (input : Glyphs) : Except Fault (Char × Glyphs) := do
  let (high, rest) ← fourDigits input
  if !care.keeps then return ('\x00', rest)
  if 0xDC00 ≤ high ∧ high ≤ 0xDFFF then throw .malformed
  if high < 0xD800 ∨ 0xDFFF < high then return (Char.ofNat high, rest)
  let rest ← expect ['\\', 'u'] rest
  let (low, rest) ← fourDigits rest
  if low < 0xDC00 ∨ 0xDFFF < low then throw .malformed
  return (Char.ofNat (0x10000 + (high - 0xD800) * 0x400 + (low - 0xDC00)), rest)

/-- The character of an escape, after its backslash. -/
def escape (care : Care) : Glyphs → Except Fault (Char × Glyphs)
  | [] => .error .endsEarly
  | some '"' :: rest => .ok ('"', rest)
  | some '\\' :: rest => .ok ('\\', rest)
  | some '/' :: rest => .ok ('/', rest)
  | some 'b' :: rest => .ok ('\x08', rest)
  | some 'f' :: rest => .ok ('\x0c', rest)
  | some 'n' :: rest => .ok ('\n', rest)
  | some 'r' :: rest => .ok ('\r', rest)
  | some 't' :: rest => .ok ('\t', rest)
  | some 'u' :: rest => unicodeEscape care rest
  | _ :: _ => .error .malformed

/-- The characters of a text up to its closing quote, onto `done`, which is in reverse. `broken`
tells whether bytes that belong to no character have been passed. -/
def stringBody (care : Care) (broken : Bool) (done : List Char) :
    (fuel : Nat) → Glyphs → Except Fault (String × Glyphs)
  | _, [] => .error .endsEarly
  | 0, _ :: _ => .error .endsEarly
  | fuel + 1, g :: rest =>
    match g with
    | none => stringBody care true done fuel rest
    | some '"' =>
      if broken && care.keeps then .error .malformed else .ok (String.ofList done.reverse, rest)
    | some '\\' =>
      match escape care rest with
      | .ok (c, rest) => stringBody care broken (c :: done) fuel rest
      | .error e => .error e
    | some c =>
      if c.toNat < 0x20 then .error .malformed else stringBody care broken (c :: done) fuel rest

/-! ## Numbers -/

/-- The digits at the front of a text. -/
def leadingDigits (done : List Nat) : Glyphs → List Nat × Glyphs
  | some c :: rest =>
    if c.isDigit then leadingDigits ((c.toNat - '0'.toNat) :: done) rest
    else (done.reverse, some c :: rest)
  | rest => (done.reverse, rest)

/-- The digits at the front of a text, of which there must be one. A number that is cut off by the end
of the text ends early if it is kept, and is malformed if it is passed over. -/
def someDigits (care : Care) (input : Glyphs) : Except Fault (List Nat × Glyphs) :=
  match leadingDigits [] input with
  | ([], []) => .error (if care.keeps then .endsEarly else .malformed)
  | ([], _) => .error .malformed
  | found => .ok found

/-- The digits before the point: a leading zero stands alone. -/
def wholeDigits (care : Care) (input : Glyphs) : Except Fault (List Nat × Glyphs) := do
  let (digits, rest) ← someDigits care input
  match digits with
  | 0 :: _ :: _ => throw .malformed
  | _ => return (digits, rest)

/-- The digits after a point, if there is one. -/
def fractionDigits (care : Care) : Glyphs → Except Fault (Option (List Nat) × Glyphs)
  | some '.' :: rest => do
    let (digits, rest) ← someDigits care rest
    return (some digits, rest)
  | input => .ok (none, input)

/-- The exponent of a number, if it has one. -/
def exponent (care : Care) : Glyphs → Except Fault (Option Int × Glyphs)
  | some 'e' :: rest | some 'E' :: rest => do
    let (negative, rest) := match rest with
      | some '+' :: rest => (false, rest)
      | some '-' :: rest => (true, rest)
      | rest => (false, rest)
    let (digits, rest) ← someDigits care rest
    let size : Nat := digits.foldl (10 * · + ·) 0
    return (some (if negative then -(size : Int) else size), rest)
  | input => .ok (none, input)

/-- The largest number of 64 bits. -/
def wordLimit : Nat := 0xffffffffffffffff

/-- Digits as a number of 64 bits: the digits that fit, and how many do not. -/
def fittingDigits (value : Nat) : List Nat → Nat × List Nat
  | [] => (value, [])
  | d :: rest =>
    if 10 * value + d ≤ wordLimit then fittingDigits (10 * value + d) rest else (value, d :: rest)

/-- The number of some digits, a fraction and an exponent. -/
def numberOf (negative : Bool) (whole : List Nat) (fraction : Option (List Nat))
    (power : Option Int) : Number :=
  let (value, excess) := fittingDigits 0 whole
  match fraction, power with
  | none, none =>
    if excess.isEmpty && !negative then .int value
    else if excess.isEmpty && decide (value ≠ 0) && decide (value ≤ 0x8000000000000000) then .int (-value)
    else .decimal negative value excess.length
  | fraction, power =>
    let fraction := fraction.getD []
    let (value, dropped) := fittingDigits value fraction
    .decimal negative value (excess.length - (fraction.length - dropped.length) + power.getD 0)

/-- A number, after its sign. One that is kept must not be too large for a float. -/
def number (care : Care) (negative : Bool) (input : Glyphs) : Except Fault (Json × Glyphs) := do
  let (whole, rest) ← wholeDigits care input
  let (fraction, rest) ← fractionDigits care rest
  let (power, rest) ← exponent care rest
  let n := numberOf negative whole fraction power
  if care.keeps then
    match n with
    | .int _ => pure ()
    | n => if n.toFloat?.isNone then throw .malformed
  return (.number n, rest)

/-! ## Values -/

/-- The name of a member, at its opening quote. -/
def memberName (care : Care) (fuel : Nat) (input : Glyphs) : Except Fault (String × Glyphs) :=
  match skipSpacing input with
  | [] => .error .endsEarly
  | some '"' :: rest => stringBody care false [] fuel rest
  | _ :: _ => .error .malformed

/-- Passes the colon after a name. -/
def colon (input : Glyphs) : Except Fault Glyphs := expect [':'] (skipSpacing input)

/-- What follows a member of an array or an object. -/
inductive Following
  | another (rest : Glyphs)
  | close (rest : Glyphs)

/-- What follows a member: a comma and another one, or the closing bracket. -/
def following (bracket : Char) (input : Glyphs) : Except Fault Following :=
  match skipSpacing input with
  | [] => .error .endsEarly
  | some c :: rest =>
    if c = bracket then .ok (.close rest)
    else if c = ',' then
      match skipSpacing rest with
      | [] => .error .endsEarly
      | g :: rest => if g = some bracket then .error .malformed else .ok (.another (g :: rest))
    else .error .malformed
  | none :: _ => .error .malformed

mutual

/-- A value. -/
def value : (fuel : Nat) → Care → Glyphs → Except Fault (Json × Glyphs)
  | 0, _, _ => .error .endsEarly
  | fuel + 1, care, input =>
    match skipSpacing input with
    | [] => .error .endsEarly
    | some 'n' :: rest => do return (.null, ← expect ['u', 'l', 'l'] rest)
    | some 't' :: rest => do return (.bool true, ← expect ['r', 'u', 'e'] rest)
    | some 'f' :: rest => do return (.bool false, ← expect ['a', 'l', 's', 'e'] rest)
    | some '"' :: rest => do
      let (s, rest) ← stringBody care false [] fuel rest
      return (.string s, rest)
    | some '[' :: rest =>
      match care.inner? with
      | none => .error .malformed
      | some inner =>
        match skipSpacing rest with
        | some ']' :: rest => .ok (.array [], rest)
        | rest => items fuel inner [] rest
    | some '\x7b' :: rest =>
      match care.inner? with
      | none => .error .malformed
      | some inner =>
        match skipSpacing rest with
        | some '\x7d' :: rest => .ok (.object [], rest)
        | rest => members fuel inner [] rest
    | some '-' :: rest => number care true rest
    | some c :: rest => if c.isDigit then number care false (some c :: rest) else .error .malformed
    | none :: _ => .error .malformed

/-- The items of an array up to its end, onto `done`, which is in reverse. -/
def items : (fuel : Nat) → Care → List Json → Glyphs → Except Fault (Json × Glyphs)
  | 0, _, _, _ => .error .endsEarly
  | fuel + 1, care, done, input =>
    match value fuel care input with
    | .error e => .error e
    | .ok (item, rest) =>
      match following ']' rest with
      | .error e => .error e
      | .ok (.close rest) => .ok (.array (item :: done).reverse, rest)
      | .ok (.another rest) => items fuel care (item :: done) rest

/-- The members of an object up to its end, onto `done`, which is in reverse. -/
def members : (fuel : Nat) → Care → List (String × Json) → Glyphs → Except Fault (Json × Glyphs)
  | 0, _, _, _ => .error .endsEarly
  | fuel + 1, care, done, input =>
    match memberName care fuel input with
    | .error e => .error e
    | .ok (name, rest) =>
      match colon rest with
      | .error e => .error e
      | .ok rest =>
        match value fuel care rest with
        | .error e => .error e
        | .ok (item, rest) =>
          match following '\x7d' rest with
          | .error e => .error e
          | .ok (.close rest) => .ok (.object ((name, item) :: done).reverse, rest)
          | .ok (.another rest) => members fuel care ((name, item) :: done) rest

end

/-! ## Whole texts -/

/-- A number of steps that is enough for a text. -/
def stepsFor (input : Glyphs) : Nat := 2 * input.length + 2

/-- Makes sure that only blanks are left. -/
def finish {α : Type} : α × Glyphs → Except Fault α
  | (a, rest) => if (skipSpacing rest).isEmpty then .ok a else .error .malformed

/-- The glyphs of a text. -/
def glyphsOf (text : String) : Glyphs := text.toList.map some

end Reader

/-- The value of some glyphs, with nothing after it. -/
def ofGlyphs (input : Reader.Glyphs) : Except Fault Json :=
  Reader.value (Reader.stepsFor input) (.keep Reader.nestingLimit) input >>= Reader.finish

/-- The value of a text. -/
def ofText (text : String) : Except Fault Json := ofGlyphs (Reader.glyphsOf text)

end Wordweave.Json
