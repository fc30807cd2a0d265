/-!
# Wordweave — the shortest decimal of a float

A finite float is `m · 2^q`, and all reals between half the way to its neighbours round to it, the
ends included if `m` is even. The shortest decimal is the one with the fewest digits among these
reals, and of those with as few the nearest; of two that are equally near it is the greater.

The decimals with `n` digits form a grid around the float. If any point of it lies between the ends,
so does one of the two next to the float, so only these are looked at, for one digit, two digits and
so on. Seventeen digits always do.
-/

namespace Wordweave.Decimal

/-- A float that is finite and not negative, as `m · 2^q`. -/
structure Binary where
  m : Nat
  q : Int
deriving DecidableEq

/-- The exponent of the smallest floats. -/
def leastExponent : Int := -1074

/-- The number of bits of a float's fraction. -/
def fractionBits : Nat := 52

/-- The parts of a finite float without its sign. -/
def Binary.ofBits (bits : UInt64) : Binary :=
  let n := bits.toNat
  let fraction : Nat := n % Nat.pow 2 fractionBits
  let exponent : Nat := n / Nat.pow 2 fractionBits % 2048
  if exponent = 0 then ⟨fraction, leastExponent⟩
  else ⟨fraction + Nat.pow 2 fractionBits, (exponent : Int) - 1075⟩

/-- Digits and a power of ten. -/
structure Digits where
  digits : Nat
  exponent : Int
deriving DecidableEq

/-- Four times a float and the two ends around it, over a common denominator. -/
structure Interval where
  low : Nat
  value : Nat
  high : Nat
  denominator : Nat
  closed : Bool

/-- The reals that round to a float. Below a power of two the neighbour is half as far away. -/
def Binary.interval (b : Binary) : Interval :=
  let below := if b.m = Nat.pow 2 fractionBits ∧ leastExponent < b.q then 1 else 2
  let up := Nat.pow 2 b.q.toNat
  ⟨(4 * b.m - below) * up, 4 * b.m * up, (4 * b.m + 2) * up, 4 * Nat.pow 2 (-b.q).toNat, b.m % 2 = 0⟩

/-- An interval in units of `10^exponent`. -/
def Interval.scaled (i : Interval) (exponent : Int) : Interval :=
  let up := Nat.pow 10 (-exponent).toNat
  ⟨i.low * up, i.value * up, i.high * up, i.denominator * Nat.pow 10 exponent.toNat, i.closed⟩

/-- Whether a natural number lies in an interval. -/
def Interval.contains (i : Interval) (n : Nat) : Bool :=
  let x := n * i.denominator
  if i.closed then i.low ≤ x && x ≤ i.high else i.low < x && x < i.high

/-- The natural number in an interval that is nearest to its float, of the two next to it. -/
def Interval.nearest? (i : Interval) : Option Nat :=
  let below := i.value / i.denominator
  let rest := i.value % i.denominator
  let belowFits := i.contains below
  let aboveFits := i.contains (below + 1)
  if aboveFits && (!belowFits || i.denominator ≤ 2 * rest) then some (below + 1)
  else if belowFits then some below
  else none

/-- The number of digits before the point of `value / denominator`; zero or less if there are only
zeros before the first digit. -/
def magnitude (value denominator : Nat) : Int :=
  if denominator ≤ value then (Nat.toDigits 10 (value / denominator)).length
  else
    -- How many times ten fits in between.
    let gap := (Nat.toDigits 10 ((denominator - 1) / value)).length
    1 - (gap : Int)

/-- The shortest decimal with `n` digits or more, if `tries` lengths are looked at. -/
def shortestFrom (i : Interval) (size : Int) : (tries n : Nat) → Digits
  | 0, n => ⟨(i.scaled (size - n)).value / (i.scaled (size - n)).denominator, size - n⟩
  | tries + 1, n =>
    match (i.scaled (size - n)).nearest? with
    | some digits => ⟨digits, size - n⟩
    | none => shortestFrom i size tries (n + 1)

/-- The shortest decimal of a float. -/
def Binary.shortest (b : Binary) : Digits :=
  if b.m = 0 then ⟨0, 0⟩
  else
    let i := b.interval
    shortestFrom i (magnitude i.value i.denominator) 17 1

/-! ## Text -/

/-- Digits without zeros at their end. -/
def Digits.trimmed (d : Digits) : List Char × Int :=
  let digits := Nat.toDigits 10 d.digits
  let kept := (digits.reverse.dropWhile (· == '0')).reverse
  (kept, d.exponent + (digits.length - kept.length))

/-- A decimal with a point where it is needed, and never with an exponent. -/
def Digits.positional (d : Digits) : List Char :=
  let (digits, exponent) := d.trimmed
  if digits.isEmpty then ['0']
  else if 0 ≤ exponent then digits ++ List.replicate exponent.toNat '0'
  else
    let places := exponent.natAbs
    if places < digits.length then
      digits.take (digits.length - places) ++ '.' :: digits.drop (digits.length - places)
    else '0' :: '.' :: List.replicate (places - digits.length) '0' ++ digits

/-- The text of a float. -/
def text (f : Float) : String :=
  if f.isNaN then "NaN"
  else
    let bits := f.toBits
    let sign := if bits.toNat < 0x8000000000000000 then [] else ['-']
    let size := if f.isInf then ['i', 'n', 'f'] else (Binary.ofBits bits).shortest.positional
    String.ofList (sign ++ size)

end Wordweave.Decimal
