import Wordweave.Text.CodePoints

/-!
# Wordweave — sets of characters

A set of characters is kept as the ranges of code points that it covers, in ascending order, with at
least one code point between two of them. The set operations keep that form, so two sets that were
made by them hold the same code points only if they are equal.

A range may run across the surrogates, which no character has, but it begins and ends at characters.
Where a complement needs the neighbour of a character, the surrogates are passed over; the two
characters at their sides are nevertheless no neighbours when ranges are joined.
-/

namespace Wordweave.Text

/-- The code points from `low` to `high`. -/
structure CodeRange where
  low : Nat
  high : Nat
deriving DecidableEq

/-- Whether a range covers a code point. -/
def CodeRange.contains (r : CodeRange) (n : Nat) : Bool := decide (r.low ≤ n) && decide (n ≤ r.high)

/-- The part that two ranges share. -/
def CodeRange.inter? (a b : CodeRange) : Option CodeRange :=
  let low := max a.low b.low
  let high := min a.high b.high
  if low ≤ high then some ⟨low, high⟩ else none

/-- The last code point. -/
def lastCode : Nat := 0x10FFFF

/-- The next character after a code point. -/
def nextCode (n : Nat) : Nat := if n = 0xD7FF then 0xE000 else n + 1

/-- The last character before a code point. -/
def prevCode (n : Nat) : Nat := if n = 0xE000 then 0xD7FF else n - 1

/-- A set of characters. -/
structure CharSet where
  ranges : List CodeRange
deriving DecidableEq

namespace CharSet

/-- The set without characters. -/
def empty : CharSet := ⟨[]⟩

/-- The characters from `low` to `high`. -/
def range (low high : Char) : CharSet := ⟨[⟨low.toNat, high.toNat⟩]⟩

/-- The set of one character. -/
def only (c : Char) : CharSet := .range c c

/-- All characters. -/
def all : CharSet := ⟨[⟨0, lastCode⟩]⟩

/-- Whether a character is in a set. -/
def contains (s : CharSet) (c : Char) : Bool := s.ranges.any (·.contains c.toNat)

/-- Whether a set holds nothing. -/
def isEmpty (s : CharSet) : Bool := s.ranges.isEmpty

/-- The only character of a set. -/
def only? (s : CharSet) : Option Char :=
  match s.ranges with
  | [r] => if r.low = r.high then some (Char.ofNat r.low) else none
  | _ => none

/-! ## Set operations -/

/-- Puts a range into its place; ranges that meet or touch become one. -/
def insertRange (r : CodeRange) : List CodeRange → List CodeRange
  | [] => [r]
  | a :: rest =>
    if r.high + 1 < a.low then r :: a :: rest
    else if a.high + 1 < r.low then a :: insertRange r rest
    else insertRange ⟨min r.low a.low, max r.high a.high⟩ rest

/-- The set that some ranges cover. -/
def ofRanges (ranges : List CodeRange) : CharSet := ⟨ranges.foldr insertRange []⟩

/-- The characters of either set. -/
def union (a b : CharSet) : CharSet := ⟨a.ranges.foldr insertRange b.ranges⟩

/-- The characters of some set of a list. -/
def unions (sets : List CharSet) : CharSet := sets.foldr union empty

/-- The characters of both sets. -/
def inter (a b : CharSet) : CharSet :=
  ⟨a.ranges.flatMap fun r => b.ranges.filterMap r.inter?⟩

/-- What is left of a range without some others, which ascend. -/
def cutRange (r : CodeRange) : List CodeRange → List CodeRange
  | [] => [r]
  | a :: rest =>
    if a.high < r.low ∨ r.high < a.low then cutRange r rest
    else
      let before := if r.low < a.low then [⟨r.low, prevCode a.low⟩] else []
      let after := if a.high < r.high then cutRange ⟨nextCode a.high, r.high⟩ rest else []
      before ++ after

/-- The characters of the first set that the second lacks. -/
def diff (a b : CharSet) : CharSet := ⟨a.ranges.flatMap fun r => cutRange r b.ranges⟩

/-- The characters of just one of two sets. -/
def symmDiff (a b : CharSet) : CharSet := (a.union b).diff (a.inter b)

/-- The ranges between some ascending ranges, from `low` on. Between the two characters at the sides
of the surrogates there is none to tell them apart, and both of them are taken. -/
def gapsFrom (low : Nat) : List CodeRange → List CodeRange
  | [] => if low ≤ lastCode then [⟨low, lastCode⟩] else []
  | r :: rest =>
    let gap :=
      if r.low = 0 then []
      else
        let high := prevCode r.low
        [⟨min low high, max low high⟩]
    gap ++ gapsFrom (nextCode r.high) rest

/-- The characters that a set lacks. -/
def compl (s : CharSet) : CharSet := ⟨gapsFrom 0 s.ranges⟩

/-! ## The written form -/

/-- The ranges of a run. -/
def rangesOfRun (run : Run) : List CodeRange :=
  if run.step = 1 then [⟨run.low, run.high⟩] else run.codes.map fun n => ⟨n, n⟩

/-- The set that a text of ascending runs describes. -/
def ofText (text : String) : CharSet :=
  ofRanges ((words text).flatMap fun word => rangesOfRun (leadingRun word).1)

end CharSet

end Wordweave.Text
