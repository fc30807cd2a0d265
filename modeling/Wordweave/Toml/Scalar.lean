import Wordweave.Text.CodePoints
import Wordweave.Toml.Value

/-!
# Wordweave — TOML texts, numbers and moments

Readers of what stands on one place of a TOML text. Each takes a value from the front and leaves the
rest; `none` says that no such value stands there. What follows a value is looked at by whoever asked
for it, so a value that breaks off in the middle is refused there.
-/

namespace Wordweave.Toml

/-- A blank within a line. -/
def isBlank (c : Char) : Bool := c == ' ' || c == '\t'

/-- A character that may stand in a comment: no control character but the tab. -/
def isPrintable (c : Char) : Bool := c == '\t' || (0x20 ≤ c.toNat && c.toNat != 0x7F)

/-- The text after its blanks. -/
def skipBlanks (input : List Char) : List Char := input.dropWhile isBlank

/-- Passes the given characters. -/
def expect? : List Char → List Char → Option (List Char)
  | [], input => some input
  | _ :: _, [] => none
  | c :: rest, d :: input => if c = d then expect? rest input else none

/-- Passes the end of a line. -/
def endOfLine? : List Char → Option (List Char)
  | '\n' :: rest => some rest
  | '\r' :: '\n' :: rest => some rest
  | _ => none

/-! ## Texts -/

/-- The character of a code point in `count` hexadecimal digits. -/
def codePoint? (count : Nat) (input : List Char) : Option (Char × List Char) := do
  let front := input.take count
  if front.length ≠ count then none
  let digits ← front.mapM Text.hexDigit?
  let n := digits.foldl (16 * · + ·) 0
  if n.isValidChar then some (Char.ofNat n, input.drop count) else none

/-- The character of an escape, after its backslash. -/
def escape? : List Char → Option (Char × List Char)
  | 'b' :: rest => some ('\x08', rest)
  | 't' :: rest => some ('\t', rest)
  | 'n' :: rest => some ('\n', rest)
  | 'f' :: rest => some ('\x0c', rest)
  | 'r' :: rest => some ('\r', rest)
  | '"' :: rest => some ('"', rest)
  | '\\' :: rest => some ('\\', rest)
  | 'u' :: rest => codePoint? 4 rest
  | 'U' :: rest => codePoint? 8 rest
  | _ => none

/-- A quoted text on one line up to its closing quote, onto `done`, which is in reverse. -/
def basicBody (done : List Char) : (fuel : Nat) → List Char → Option (String × List Char)
  | 0, _ | _, [] => none
  | fuel + 1, c :: rest =>
    if c = '"' then some (String.ofList done.reverse, rest)
    else if c = '\\' then do
      let (c, rest) ← escape? rest
      basicBody (c :: done) fuel rest
    else if isPrintable c then basicBody (c :: done) fuel rest
    else none

/-- A literal text on one line up to its closing quote. -/
def literalBody (done : List Char) : List Char → Option (String × List Char)
  | [] => none
  | c :: rest =>
    if c = '\'' then some (String.ofList done.reverse, rest)
    else if isPrintable c then literalBody (c :: done) rest
    else none

/-- What a run of `count` quotes means inside a text of many lines: quotes, or quotes and the end.
The end takes three, and at most two may stand before it. -/
inductive QuoteRun
  | inside
  | closing (kept : Nat)
  | tooMany

/-- The meaning of a run of quotes. -/
def quoteRun (count : Nat) : QuoteRun :=
  if count < 3 then .inside else if count ≤ 5 then .closing (count - 3) else .tooMany

/-- The text after blanks and line ends. -/
def skipLines : (fuel : Nat) → List Char → List Char
  | 0, input => input
  | fuel + 1, input =>
    let input := skipBlanks input
    match endOfLine? input with
    | some rest => skipLines fuel rest
    | none => input

/-- The text after a backslash that ends a line: all blanks and line ends are passed over. -/
def lineContinuation? (input : List Char) : Option (List Char) := do
  let rest ← endOfLine? (skipBlanks input)
  return skipLines (rest.length + 1) rest

/-- A text of many lines between three quotes of the kind `quote`, up to its end. Escapes are read
if `escapes` says so. -/
def longBody (quote : Char) (escapes : Bool) (done : List Char) :
    (fuel : Nat) → List Char → Option (String × List Char)
  | 0, _ | _, [] => none
  | fuel + 1, c :: rest =>
    if c = quote then
      let others := rest.takeWhile (· == quote)
      let rest := rest.drop others.length
      match quoteRun (others.length + 1) with
      | .inside => longBody quote escapes (quote :: others ++ done) fuel rest
      | .closing kept => some (String.ofList (List.replicate kept quote ++ done).reverse, rest)
      | .tooMany => none
    else if c = '\\' && escapes then
      match escape? rest with
      | some (c, rest) => longBody quote escapes (c :: done) fuel rest
      | none =>
        match lineContinuation? rest with
        | some rest => longBody quote escapes done fuel rest
        | none => none
    else if isPrintable c then longBody quote escapes (c :: done) fuel rest
    else
      match endOfLine? (c :: rest) with
      | some rest => longBody quote escapes ('\n' :: done) fuel rest
      | none => none

/-- A text of many lines, after its opening quotes. A line end there is no part of it. -/
def longText? (quote : Char) (escapes : Bool) (input : List Char) : Option (String × List Char) :=
  let input := (endOfLine? input).getD input
  longBody quote escapes [] (input.length + 1) input

/-- A text of one line, at its quote. -/
def shortText? : List Char → Option (String × List Char)
  | '"' :: rest => basicBody [] (rest.length + 1) rest
  | '\'' :: rest => literalBody [] rest
  | _ => none

/-- A text, at its quote. -/
def text? : List Char → Option (String × List Char)
  | '"' :: '"' :: '"' :: rest => longText? '"' true rest
  | '\'' :: '\'' :: '\'' :: rest => longText? '\'' false rest
  | input => shortText? input

/-! ## Keys -/

/-- A character of a key without quotes. -/
def isKeyChar (c : Char) : Bool := c.isAlphanum || c == '-' || c == '_'

/-- One part of a key. -/
def keyPart? (input : List Char) : Option (String × List Char) :=
  match input with
  | '"' :: _ | '\'' :: _ => shortText? input
  | _ =>
    let name := input.takeWhile isKeyChar
    if name.isEmpty then none else some (String.ofList name, input.drop name.length)

/-- The parts of a key, which points divide, onto `done`, which is in reverse. -/
def keyParts? (done : List String) : (fuel : Nat) → List Char → Option (List String × List Char)
  | 0, _ => none
  | fuel + 1, input => do
    let (part, rest) ← keyPart? (skipBlanks input)
    match skipBlanks rest with
    | '.' :: rest => keyParts? (part :: done) fuel rest
    | rest => some ((part :: done).reverse, rest)

/-- How many parts a key must stay below, and how deep values must stay below. -/
def nestingLimit : Nat := 80

/-- A key with the blanks around it. -/
def key? (input : List Char) : Option (List String × List Char) := do
  let (parts, rest) ← keyParts? [] (input.length + 1) input
  if parts.length < nestingLimit then some (parts, rest) else none

/-! ## Numbers -/

/-- Digits of a base, of which there must be one, with single underscores between them. -/
def digits? (digit : Char → Option Nat) (input : List Char) : Option (List Nat × List Char) :=
  let rec
    /-- The digits after a first one, onto `done`, which is in reverse. -/
    more (done : List Nat) : List Char → List Nat × List Char
    | '_' :: c :: rest =>
      match digit c with
      | some d => more (d :: done) rest
      | none => (done.reverse, '_' :: c :: rest)
    | c :: rest =>
      match digit c with
      | some d => more (d :: done) rest
      | none => (done.reverse, c :: rest)
    | [] => (done.reverse, [])
  match input with
  | c :: rest => (digit c).map fun d => more [d] rest
  | [] => none

/-- The value of a digit below ten. -/
def decimalDigit? (c : Char) : Option Nat := if c.isDigit then some (c.toNat - '0'.toNat) else none

/-- The value of a digit of a base up to sixteen. -/
def digitBelow? (base : Nat) (c : Char) : Option Nat := (Text.hexDigit? c).filter (· < base)

/-- A sign, if there is one: whether it is a minus. -/
def sign : List Char → Bool × List Char
  | '-' :: rest => (true, rest)
  | '+' :: rest => (false, rest)
  | input => (false, input)

/-- The digits before a point: a leading zero stands alone. -/
def wholeDigits? : List Char → Option (List Nat × List Char)
  | '0' :: rest => some ([0], rest)
  | input => digits? decimalDigit? input

/-- The number of some digits of a base. -/
def ofDigits (base : Nat) (digits : List Nat) : Nat := digits.foldl (base * · + ·) 0

/-- An integer, if it fits 64 bits. -/
def fitting? (n : Int) : Option Int := if -0x8000000000000000 ≤ n ∧ n < 0x8000000000000000 then some n else none

/-- An integer of a base that is named after a zero. -/
def basedInteger? (base : Nat) (input : List Char) : Option (Int × List Char) := do
  let (digits, rest) ← digits? (digitBelow? base) input
  return (← fitting? (ofDigits base digits), rest)

/-- An integer. -/
def integer? : List Char → Option (Int × List Char)
  | '0' :: 'x' :: rest => basedInteger? 16 rest
  | '0' :: 'o' :: rest => basedInteger? 8 rest
  | '0' :: 'b' :: rest => basedInteger? 2 rest
  | input => do
    let (negative, rest) := sign input
    let (digits, rest) ← wholeDigits? rest
    let n : Int := ofDigits 10 digits
    return (← fitting? (if negative then -n else n), rest)

/-- The digits after a point, if there is one. -/
def fractionDigits? : List Char → Option (Option (List Nat) × List Char)
  | '.' :: rest => (digits? decimalDigit? rest).map fun (digits, rest) => (some digits, rest)
  | input => some (none, input)

/-- The exponent of a float, if it has one. -/
def exponent? (input : List Char) : Option (Option Int × List Char) :=
  match input with
  | 'e' :: rest | 'E' :: rest => do
    let (negative, rest) := sign rest
    let (digits, rest) ← digits? decimalDigit? rest
    let n : Int := ofDigits 10 digits
    return (some (if negative then -n else n), rest)
  | _ => some (none, input)

/-- No float has a power of ten beyond this in front of its first digit or behind its point. -/
def magnitudeLimit : Int := 400

/-- The float nearest to `digits · 10^exponent`, where `count` is the number of digits. -/
def nearestFloat (digits count : Nat) (exponent : Int) : Float :=
  let magnitude := exponent + count
  if digits = 0 || magnitude < -magnitudeLimit then 0
  else if magnitude > magnitudeLimit then 1 / 0
  else Float.ofScientific digits (exponent < 0) exponent.natAbs

/-- A float in digits. One that is too large is infinite, which only a minus makes up for. -/
def decimalFloat? (input : List Char) : Option (Float × List Char) := do
  let (negative, rest) := sign input
  let (whole, rest) ← wholeDigits? rest
  let (fraction, rest) ← fractionDigits? rest
  let (power, rest) ← exponent? rest
  if fraction.isNone && power.isNone then none
  let fraction := fraction.getD []
  let digits := (whole ++ fraction).dropWhile (· == 0)
  let f := nearestFloat (ofDigits 10 digits) digits.length (power.getD 0 - fraction.length)
  if negative then some (-f, rest) else if f.isInf then none else some (f, rest)

/-- A float that is no number, or infinite. -/
def namedFloat? (input : List Char) : Option (Float × List Char) :=
  let (negative, rest) := sign input
  match rest with
  | 'i' :: 'n' :: 'f' :: rest => some (if negative then -1 / 0 else 1 / 0, rest)
  | 'n' :: 'a' :: 'n' :: rest => some (0 / 0, rest)
  | _ => none

/-- A float. -/
def float? (input : List Char) : Option (Float × List Char) :=
  (decimalFloat? input).or (namedFloat? input)

/-! ## Moments -/

/-- A number in just `count` digits. -/
def fixedDigits? (count : Nat) (input : List Char) : Option (Nat × List Char) := do
  let front := input.take count
  if front.length ≠ count then none
  return (ofDigits 10 (← front.mapM decimalDigit?), input.drop count)

/-- A number in just `count` digits and within bounds. -/
def numberWithin? (count low high : Nat) (input : List Char) : Option (Nat × List Char) :=
  (fixedDigits? count input).filter fun (n, _) => low ≤ n && n ≤ high

/-- Whether a year has a leap day. -/
def isLeapYear (year : Nat) : Bool := year % 4 == 0 && (year % 100 != 0 || year % 400 == 0)

/-- The number of days of a month. -/
def daysOfMonth (year month : Nat) : Nat :=
  if month = 2 then if isLeapYear year then 29 else 28
  else if month = 4 ∨ month = 6 ∨ month = 9 ∨ month = 11 then 30
  else 31

/-- A date. -/
def date? (input : List Char) : Option (Date × List Char) := do
  let (year, rest) ← fixedDigits? 4 input
  let (month, rest) ← numberWithin? 2 1 12 (← expect? ['-'] rest)
  let (day, rest) ← numberWithin? 2 1 (daysOfMonth year month) (← expect? ['-'] rest)
  return (⟨year, month, day⟩, rest)

/-- The nanoseconds of a fraction; further digits are passed over. -/
def nanoseconds? : List Char → Option (Nat × List Char)
  | '.' :: rest =>
    let digits := rest.takeWhile Char.isDigit
    if digits.isEmpty then none
    else
      let kept := (digits ++ List.replicate 9 '0').take 9
      some (ofDigits 10 (kept.filterMap decimalDigit?), rest.drop digits.length)
  | input => some (0, input)

/-- A time, of which the second may be a leap second. -/
def clock? (input : List Char) : Option (Clock × List Char) := do
  let (hour, rest) ← numberWithin? 2 0 23 input
  let (minute, rest) ← numberWithin? 2 0 59 (← expect? [':'] rest)
  let (second, rest) ← numberWithin? 2 0 60 (← expect? [':'] rest)
  let (nanosecond, rest) := (nanoseconds? rest).getD (0, rest)
  return (⟨hour, minute, second, nanosecond⟩, rest)

/-- An offset. -/
def offset? : List Char → Option (Offset × List Char)
  | 'Z' :: rest | 'z' :: rest => some (.universal, rest)
  | c :: rest => do
    if c ≠ '+' ∧ c ≠ '-' then none
    let (hours, rest) ← numberWithin? 2 0 23 rest
    let (minutes, rest) ← numberWithin? 2 0 59 (← expect? [':'] rest)
    let n : Int := 60 * hours + minutes
    return (.minutes (if c = '-' then -n else n), rest)
  | [] => none

/-- The time that follows a date, if one does. -/
def clockAfterDate? : List Char → Option (Clock × List Char)
  | 'T' :: rest | 't' :: rest | ' ' :: rest => clock? rest
  | _ => none

/-- A moment. -/
def moment? (input : List Char) : Option (Moment × List Char) :=
  match date? input with
  | some (date, rest) =>
    match clockAfterDate? rest with
    | some (clock, rest) =>
      match offset? rest with
      | some (offset, rest) => some (.both date clock (some offset), rest)
      | none => some (.both date clock none, rest)
    | none => some (.date date, rest)
  | none => (clock? input).map fun (clock, rest) => (.clock clock, rest)

end Wordweave.Toml
