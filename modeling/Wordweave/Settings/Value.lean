import Wordweave.Decimal.Shortest
import Wordweave.Json.Decimal
import Wordweave.Text.Lowercase
import Wordweave.Toml.Value

/-!
# Wordweave — values of settings

Settings come from texts of several formats and from the environment, where every value is a text.
So a value is taken for what it can be read as: a number for a text, a text for a number, and the
words for yes and no for one and zero.
-/

namespace Wordweave

/-- A value that is given to a setting. Of tables it is only known whether they are empty. -/
inductive SettingValue
  | null
  | bool (b : Bool)
  | integer (n : Int)
  | float (f : Float)
  | text (s : String)
  | array
  | table (isEmpty : Bool)

namespace SettingValue

/-- A JSON value. Integers that need all 64 bits count as floats. -/
def ofJson : Json → SettingValue
  | .null => .null
  | .bool b => .bool b
  | .number n =>
    match n with
    | .int i => if i < 0x8000000000000000 then .integer i else .float (Float.ofInt i)
    | n => .float (n.toFloat?.getD (1 / 0))
  | .string s => .text s
  | .array _ => .array
  | .object members => .table members.isEmpty

/-- A TOML value. -/
def ofToml : Toml → SettingValue
  | .string s => .text s
  | .integer n => .integer n
  | .float f => .float f
  | .boolean b => .bool b
  | .moment m => .text m.text
  | .array _ => .array
  | .table entries => .table entries.isEmpty

/-- The text of a value. -/
def toText? : SettingValue → Option String
  | .bool b => some (if b then "true" else "false")
  | .integer n => some (toString n)
  | .float f => some (Decimal.text f)
  | .text s => some s
  | .null | .array | .table _ => none

end SettingValue

/-! ## Numbers in texts -/

/-- A natural number below `2^64` in digits, with or without a plus. -/
def wordOfText? (s : String) : Option UInt64 :=
  let digits := match s.toList with
    | '+' :: rest => rest
    | cs => cs
  if digits.isEmpty || !digits.all Char.isDigit then none
  else
    let n := digits.foldl (fun n c => 10 * n + (c.toNat - '0'.toNat)) 0
    if n < 0x10000000000000000 then some (UInt64.ofNat n) else none

/-- The words for one. -/
def yesWords : List String := ["true", "on", "yes"]

/-- The words for zero. -/
def noWords : List String := ["false", "off", "no"]

/-- The number of a value. A float is rounded, a half away from zero, and brought into range. -/
def SettingValue.toWord? : SettingValue → Option UInt64
  | .bool b => some (if b then 1 else 0)
  | .integer n => if 0 ≤ n ∧ n < 0x10000000000000000 then some (UInt64.ofNat n.toNat) else none
  | .float f => some f.round.toUInt64
  | .text s =>
    let word := Text.lowercase s
    if yesWords.contains word then some 1
    else if noWords.contains word then some 0
    else wordOfText? s
  | .null | .array | .table _ => none

end Wordweave
