import Wordweave.Json.Value

/-!
# Wordweave — decimals as floats

The float that a decimal stands for: its digits, rounded to a float, times or divided by a power of
ten, itself rounded. Powers beyond the largest are applied in parts. A decimal whose float would be
infinite has none.
-/

namespace Wordweave.Json

/-- The largest exponent of ten that a float has. -/
def powerLimit : Nat := 308

/-- A power of ten. -/
def powerOfTen (n : Nat) : Float := Float.ofScientific 1 false n

/-- Divides by `10^exponent`, in parts of the largest power. -/
def divideByPower (value : Float) : (parts : Nat) → (exponent : Nat) → Float
  | 0, exponent => value / powerOfTen exponent
  | parts + 1, exponent =>
    if exponent ≤ powerLimit then value / powerOfTen exponent
    else if value == 0 then value
    else divideByPower (value / powerOfTen powerLimit) parts (exponent - powerLimit)

/-- The float of a number; `none` if it is too large. -/
def Number.toFloat? : Number → Option Float
  | .int n => some (Float.ofInt n)
  | .decimal negative digits exponent =>
    let value := digits.toUInt64.toFloat
    let size? : Option Float :=
      if exponent < 0 then
        -- Three parts bring every value to zero, so more of them need not be looked at.
        some (divideByPower value 3 (min exponent.natAbs (3 * powerLimit)))
      else if exponent ≤ powerLimit then
        let scaled := value * powerOfTen exponent.toNat
        if scaled.isInf then none else some scaled
      else if value == 0 then some value
      else none
    size?.map fun size => if negative then -size else size

end Wordweave.Json
