/-!
# Wordweave — JSON values

Values as a text gives them: the members of an object stay in order and may repeat a name, and a
number is an integer of 64 bits or a decimal of which the digits and the exponent are kept.
-/

namespace Wordweave

namespace Json

/-- A number. An integer is signed or unsigned and of 64 bits; everything else, `-0` included, is a
decimal: `digits · 10^exponent`, where further digits than fit 64 bits have been dropped. -/
inductive Number
  | int (n : Int)
  | decimal (negative : Bool) (digits : Nat) (exponent : Int)
deriving DecidableEq

/-- Why a text or a value is not what is expected. -/
inductive Fault
  /-- A value of the wrong form stands there. -/
  | mismatch
  /-- The text is not written as it should be. -/
  | malformed
  /-- The text ends too early. -/
  | endsEarly
deriving DecidableEq

end Json

/-- A JSON value. -/
inductive Json
  | null
  | bool (b : Bool)
  | number (n : Json.Number)
  | string (s : String)
  | array (items : List Json)
  | object (members : List (String × Json))

namespace Json

/-- A natural number as a value. -/
def ofNat (n : Nat) : Json := .number (.int n)

/-- A list of texts as a value. -/
def ofStrings (texts : List String) : Json := .array (texts.map .string)

/-- A text that may be absent as a value. -/
def ofString? : Option String → Json
  | some s => .string s
  | none => .null

/-- The member of a name, if the value is an object that has one. -/
def get? (name : String) : Json → Option Json
  | .object members => (members.find? (·.1 == name)).map (·.2)
  | _ => none

end Json

end Wordweave
