/-!
# Wordweave — written code points

Sets of characters and maps between them are written the way the character database publishes
them. `41-5A` is every code point from `41` to `5A` in hexadecimal, `61` is one code point, and
`100-12E/2` is every second one from `100` to `12E`, the usual pattern of a script that writes its
capital and its small letters in turn. A map adds a target: `41-5A:61` sends `41` to `61`, `42` to
`62`, and so on. Blanks divide the words of a text.
-/

namespace Wordweave.Text

/-- The value of a hexadecimal digit. -/
def hexDigit? (c : Char) : Option Nat :=
  if '0' ≤ c ∧ c ≤ '9' then some (c.toNat - '0'.toNat)
  else if 'a' ≤ c ∧ c ≤ 'f' then some (c.toNat - 'a'.toNat + 10)
  else if 'A' ≤ c ∧ c ≤ 'F' then some (c.toNat - 'A'.toNat + 10)
  else none

/-- The hexadecimal number at the front of a text, and what follows it. -/
def leadingHex (value : Nat) : List Char → Nat × List Char
  | [] => (value, [])
  | c :: rest =>
    match hexDigit? c with
    | some digit => leadingHex (16 * value + digit) rest
    | none => (value, c :: rest)

/-- Every `step`-th code point from `low` to `high`. -/
structure Run where
  low : Nat
  high : Nat
  step : Nat

/-- Whether a run holds a code point. -/
def Run.contains (r : Run) (n : Nat) : Bool :=
  decide (r.low ≤ n) && decide (n ≤ r.high) && (n - r.low) % r.step == 0

/-- The code points of a run. -/
def Run.codes (r : Run) : List Nat :=
  (List.range ((r.high - r.low) / r.step + 1)).map fun i => r.low + i * r.step

/-- The run at the front of a text, and what follows it. -/
def leadingRun (text : List Char) : Run × List Char :=
  let (low, rest) := leadingHex 0 text
  match rest with
  | '-' :: rest =>
    let (high, rest) := leadingHex 0 rest
    match rest with
    | '/' :: rest =>
      let (step, rest) := leadingHex 0 rest
      (⟨low, high, step⟩, rest)
    | rest => (⟨low, high, 1⟩, rest)
  | rest => (⟨low, low, 1⟩, rest)

/-- The words of a text, which blanks divide. -/
def words (text : String) : List (List Char) :=
  let (word, done) := text.toList.foldl
    (fun (word, done) c =>
      if c.isWhitespace then ([], if word.isEmpty then done else word.reverse :: done)
      else (c :: word, done))
    (([], []) : List Char × List (List Char))
  (if word.isEmpty then done else word.reverse :: done).reverse

/-! ## Maps -/

/-- A run together with the image of its lowest code point. -/
structure Shift where
  run : Run
  target : Nat

/-- The image of a code point of the run. -/
def Shift.apply (s : Shift) (n : Nat) : Nat := s.target + (n - s.run.low)

/-- A map on code points; those outside every run stay as they are. -/
structure CaseMap where
  shifts : List Shift

namespace CaseMap

/-- The map that a text of runs with targets describes. -/
def ofText (text : String) : CaseMap :=
  ⟨(words text).map fun word =>
    let (run, rest) := leadingRun word
    ⟨run, (leadingHex 0 (rest.drop 1)).1⟩⟩

/-- The image of a character. -/
def apply (map : CaseMap) (c : Char) : Char :=
  match map.shifts.find? (·.run.contains c.toNat) with
  | some shift => Char.ofNat (shift.apply c.toNat)
  | none => c

/-- The code points that the map moves, each with its image. -/
def pairs (map : CaseMap) : List (Nat × Nat) :=
  map.shifts.flatMap fun shift => shift.run.codes.map fun n => (n, shift.apply n)

end CaseMap

end Wordweave.Text
