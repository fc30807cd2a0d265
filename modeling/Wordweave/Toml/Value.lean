/-!
# Wordweave — TOML values

The values of the format. Dates and times are kept by their parts and have one text each, whatever
form they were written in.
-/

namespace Wordweave

namespace Toml

/-- A day of the calendar. -/
structure Date where
  year : Nat
  month : Nat
  day : Nat
deriving DecidableEq

/-- A time of day. -/
structure Clock where
  hour : Nat
  minute : Nat
  second : Nat
  nanosecond : Nat
deriving DecidableEq

/-- How far a clock is from universal time. -/
inductive Offset
  | universal
  | minutes (n : Int)
deriving DecidableEq

/-- A date, a time, or both, and then perhaps an offset. -/
inductive Moment
  | date (date : Date)
  | clock (clock : Clock)
  | both (date : Date) (clock : Clock) (offset : Option Offset)
deriving DecidableEq

/-- A number in at least `width` digits. -/
def padded (width n : Nat) : List Char :=
  let digits := Nat.toDigits 10 n
  List.replicate (width - digits.length) '0' ++ digits

/-- The text of a date. -/
def Date.text (d : Date) : List Char :=
  padded 4 d.year ++ '-' :: padded 2 d.month ++ '-' :: padded 2 d.day

/-- The text of a time. Zeros at the end of the fraction are left out, and so is a fraction of
zeros. -/
def Clock.text (c : Clock) : List Char :=
  let fraction := ((padded 9 c.nanosecond).reverse.dropWhile (· == '0')).reverse
  padded 2 c.hour ++ ':' :: padded 2 c.minute ++ ':' :: padded 2 c.second ++
    if fraction.isEmpty then [] else '.' :: fraction

/-- The text of an offset. -/
def Offset.text : Offset → List Char
  | .universal => ['Z']
  | .minutes n =>
    (if n < 0 then '-' else '+') :: padded 2 (n.natAbs / 60) ++ ':' :: padded 2 (n.natAbs % 60)

/-- The text of a moment. -/
def Moment.text : Moment → String
  | .date d => String.ofList d.text
  | .clock c => String.ofList c.text
  | .both d c offset => String.ofList (d.text ++ 'T' :: c.text ++ (offset.map (·.text)).getD [])

end Toml

/-- A value of the format. -/
inductive Toml
  | string (s : String)
  | integer (n : Int)
  | float (f : Float)
  | boolean (b : Bool)
  | moment (m : Toml.Moment)
  | array (items : List Toml)
  | table (entries : List (String × Toml))

end Wordweave
