import Wordweave.Unicode.Age
import Wordweave.Unicode.Boundary
import Wordweave.Unicode.CaseFold
import Wordweave.Unicode.Script

/-!
# Wordweave — properties by name

A pattern asks for a property by a name on its own, which may be a yes-or-no property, a general
category or a script, or by a name with a value. Names are compared without capitals, blanks and
joiners.
-/

namespace Wordweave.Unicode

open Wordweave.Text

/-- A name without capitals, blanks and joiners, and without a leading `is`; `isc`, which is a name
of its own, is kept. -/
def plainName (name : List Char) : String :=
  let (body, cut) :=
    match name with
    | i :: s :: rest =>
      if (i == 'i' || i == 'I') && (s == 's' || s == 'S') then (rest, true) else (name, false)
    | _ => (name, false)
  let kept := body.filterMap fun c =>
    if c = ' ' ∨ c = '_' ∨ c = '-' ∨ 0x7F < c.toNat then none else some c.toLower
  if cut ∧ kept = ['c'] then "isc" else String.ofList kept

/-- The characters that a plain name on its own stands for. `cf`, `sc` and `lc` are categories, though
properties have these names too. -/
def named? (name : String) : Option Description :=
  (binary? name).or <| (category? name).or <| (script? name).map (·.characters)

/-- The characters that have a value of a property, by their plain names. -/
def valued? (property value : String) : Option Description :=
  match property with
  | "gc" | "generalcategory" => category? value
  | "sc" | "script" => (script? value).map (·.characters)
  | "scx" | "scriptextensions" => (script? value).map (·.extended)
  | "age" => age? value
  | "gcb" | "graphemeclusterbreak" => graphemeBreak? value
  | "wb" | "wordbreak" => wordBreak? value
  | "sb" | "sentencebreak" => sentenceBreak? value
  | _ => none

/-! ## Classes with a letter of their own -/

/-- The digits of all decimal systems. -/
def digits : CharSet := decimalDigits.set

/-- All white space. -/
def blanks : CharSet := whiteSpace.set

/-- The characters of words: letters, marks, digits, connectors and the two joiners. -/
def wordCharacters : CharSet :=
  (Description.unions [alphabetic, marks, decimalDigits, connectors, joinControl]).set

end Wordweave.Unicode
