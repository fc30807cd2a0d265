import Wordweave.Toml.Reader

/-!
# Wordweave — moments written as tables

Where any value is welcome, a table stands for a moment if its first key is a certain mark; the text
under that key is the moment, and the other entries are passed over. Such a text is a little freer
than a moment in a document: the hour may be 24, and the minutes of an offset are only held to a day
altogether. Nothing may follow it.
-/

namespace Wordweave.Toml

/-- A time of which the hour may be 24. The digits after a point must be there. -/
def looseClock? (input : List Char) : Option (Clock × List Char) := do
  let (hour, rest) ← numberWithin? 2 0 24 input
  let (minute, rest) ← numberWithin? 2 0 59 (← expect? [':'] rest)
  let (second, rest) ← numberWithin? 2 0 60 (← expect? [':'] rest)
  let (nanosecond, rest) ← nanoseconds? rest
  return (⟨hour, minute, second, nanosecond⟩, rest)

/-- An offset of at most a day. -/
def looseOffset? : List Char → Option (Offset × List Char)
  | 'Z' :: rest | 'z' :: rest => some (.universal, rest)
  | c :: rest => do
    if c ≠ '+' ∧ c ≠ '-' then none
    let (hours, rest) ← fixedDigits? 2 rest
    let (minutes, rest) ← fixedDigits? 2 (← expect? [':'] rest)
    let n := 60 * hours + minutes
    if 24 * 60 < n then none
    return (.minutes (if c = '-' then -n else n), rest)
  | [] => none

/-- A moment at the front of a text. A third character that is a colon tells that it is a time. -/
def looseMoment? (input : List Char) : Option (Moment × List Char) :=
  if input[2]? = some ':' then (looseClock? input).map fun (clock, rest) => (.clock clock, rest)
  else do
    let (date, rest) ← date? input
    match rest with
    | 'T' :: rest | 't' :: rest | ' ' :: rest =>
      let (clock, rest) ← looseClock? rest
      if rest.isEmpty then return (.both date clock none, rest)
      let (offset, rest) ← looseOffset? rest
      return (.both date clock (some offset), rest)
    | rest => return (.date date, rest)

/-- The moment of a text. -/
def Moment.ofText? (text : String) : Option Moment := do
  let (m, rest) ← looseMoment? text.toList
  if rest.isEmpty then some m else none

/-- The key that marks a table as a moment. -/
def momentKey : String := "$__toml_private_datetime"

mutual

/-- A value with its marked tables replaced by their moments, if each of them has one. -/
def withMoments? : Toml → Option Toml
  | .array items => (itemsWithMoments? items).map .array
  | .table ((key, v) :: entries) =>
    if key = momentKey then
      match v with
      | .string text => (Moment.ofText? text).map .moment
      | _ => none
    else do
      let v ← withMoments? v
      return .table ((key, v) :: (← entriesWithMoments? entries))
  | v => some v

/-- The items of an array in the same way. -/
def itemsWithMoments? : List Toml → Option (List Toml)
  | [] => some []
  | item :: items => do return (← withMoments? item) :: (← itemsWithMoments? items)

/-- The entries of a table in the same way. -/
def entriesWithMoments? : List (String × Toml) → Option (List (String × Toml))
  | [] => some []
  | (key, v) :: entries => do return (key, ← withMoments? v) :: (← entriesWithMoments? entries)

end

end Wordweave.Toml
