import Wordweave.Pattern.Basic

/-!
# Wordweave — walks through a text

On a text of `n` characters there are `n + 1` places. A pattern leads from places to places: from
where a stretch that it stands for begins to where it ends. A set of places is a number whose bit
`i` tells whether place `i` belongs to it.

A pattern fits the text if it leads anywhere from the set of all places. Leading respects unions, so
a repetition only has to look at the places that are new since the round before, and as every round
that goes on has a new place, `n + 1` rounds are as good as any number.
-/

namespace Wordweave.Pattern

/-- The steps that a pattern allows on a given text. -/
inductive Walk
  /-- One character on, from each set of places in turn. -/
  | steps (places : List Nat)
  /-- No step, at some places. -/
  | stay (places : Nat)
  | seq (first rest : Walk)
  | either (first rest : Walk)
  | times (body : Walk) (least : Nat) (most : Option Nat)

/-- Takes exactly `n` rounds, or as many as make a difference. -/
def rounds (step : Nat → Nat) : Nat → Nat → Nat
  | 0, places => places
  | n + 1, places =>
    let next := step places
    if next = places then places else rounds step n next

/-- All places that at most `n` rounds lead to, when `seen` are those known before and `fresh` those
of the last round. -/
def spread (step : Nat → Nat) : (n : Nat) → (fresh seen : Nat) → Nat
  | 0, _, seen => seen
  | n + 1, fresh, seen =>
    let reached := step fresh
    let fresh := reached ^^^ (reached &&& seen)
    if fresh = 0 then seen else spread step n fresh (seen ||| fresh)

/-- Where a walk leads from a set of places, on a text of `size` characters. -/
def Walk.lead (size : Nat) : Walk → Nat → Nat
  | .steps sets, places => sets.foldl (fun places set => (places &&& set) <<< 1) places
  | .stay set, places => places &&& set
  | .seq p q, places => q.lead size (p.lead size places)
  | .either p q, places => p.lead size places ||| q.lead size places
  | .times p least most, places =>
    let enough := size + 1
    let start := rounds (p.lead size) (min least enough) places
    let more := match most with
      | some most => min (most - least) enough
      | none => enough
    spread (p.lead size) more start start

/-! ## From patterns to walks -/

/-- The set of the places where a list of answers is yes. -/
def placesOf (answers : List Bool) : Nat :=
  answers.foldr (fun answer places => 2 * places + answer.toNat) 0

/-- The places of a text, each with the characters before and after it. -/
def neighbours (before : Option Char) : List Char → List (Option Char × Option Char)
  | [] => [(before, none)]
  | c :: rest => (before, some c) :: neighbours (some c) rest

/-- The walk of a pattern on a text. -/
def walk (text : List Char) : Pattern → Walk
  | .empty => .steps []
  | .literal chars => .steps (chars.map fun c => placesOf (text.map (· == c)))
  | .one set => .steps [placesOf (text.map set.contains)]
  | .anchor place =>
    .stay (placesOf ((neighbours none text).map fun (before, next) => place.fits before next))
  | .group _ p => p.walk text
  | .seq p q => .seq (p.walk text) (q.walk text)
  | .either p q => .either (p.walk text) (q.walk text)
  | .times p least most _ => .times (p.walk text) least most

/-- Whether a pattern fits some stretch of a text. -/
def isMatch (p : Pattern) (text : String) : Bool :=
  let chars := text.toList
  (p.walk chars).lead chars.length ((1 <<< (chars.length + 1)) - 1) != 0

end Wordweave.Pattern
