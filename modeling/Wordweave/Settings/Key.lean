/-!
# Wordweave — keys of settings

A key is the name of a setting, or it leads into the value of one: `a.b` into the table `a`, `a[0]`
into the list `a`. Names are made of ASCII letters, digits, blanks, low lines and hyphens. A text
that is no such key is a name as it stands.
-/

namespace Wordweave.Settings

/-- A step from a value into it. -/
inductive KeyStep
  | child (name : String)
  | item (index : Int)
deriving DecidableEq

/-- A key: a name, and the steps that lead on from it. -/
structure Key where
  name : String
  steps : List KeyStep
deriving DecidableEq

namespace Key

/-- Whether a character may stand in a name. -/
def isNameChar (c : Char) : Bool := c.isAlphanum || c == ' ' || c == '_' || c == '-'

/-- The name at the front of a text. -/
def name? (text : List Char) : Option (String × List Char) :=
  let (name, rest) := text.span isNameChar
  if name.isEmpty then none else some (String.ofList name, rest)

/-- The text after its blanks. -/
def skipBlanks (text : List Char) : List Char := text.dropWhile fun c => c == ' ' || c == '\t'

/-- The number at the front of a text, which must fit 64 bits. -/
def index? (text : List Char) : Option (Int × List Char) :=
  let (negative, rest) := match text with
    | '-' :: rest => (true, rest)
    | rest => (false, rest)
  let (digits, rest) := rest.span Char.isDigit
  let size : Nat := digits.foldl (fun n c => 10 * n + (c.toNat - '0'.toNat)) 0
  let n : Int := if negative then -size else size
  if digits.isEmpty then none
  else if -0x8000000000000000 ≤ n ∧ n < 0x8000000000000000 then some (n, rest) else none

/-- The step at the front of a text. -/
def step? : List Char → Option (KeyStep × List Char)
  | '.' :: rest => (name? rest).map fun (name, rest) => (.child name, rest)
  | '[' :: rest => do
    let (n, rest) ← index? (skipBlanks rest)
    match skipBlanks rest with
    | ']' :: rest => return (.item n, rest)
    | _ => none
  | _ => none

/-- The steps that a text is made of. -/
def steps? : (fuel : Nat) → List Char → Option (List KeyStep)
  | _, [] => some []
  | 0, _ :: _ => none
  | fuel + 1, text => do
    let (step, rest) ← step? text
    return step :: (← steps? fuel rest)

/-- The key of a text. -/
def ofText (text : String) : Key :=
  let chars := text.toList
  let found := do
    let (name, rest) ← name? chars
    return (⟨name, ← steps? rest.length rest⟩ : Key)
  found.getD ⟨text, []⟩

end Key

end Wordweave.Settings
