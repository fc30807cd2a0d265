import Wordweave.Json.Value

/-!
# Wordweave — printing JSON

Values are printed over several lines, each member on its own and two blanks deeper than its
brackets, or on one line without any blanks. An array or an object without members is a pair of
brackets in both forms. Only quotes, backslashes and control characters are escaped.
-/

namespace Wordweave.Json

/-- The hexadecimal digit of a number below 16. -/
def hexDigit (n : Nat) : Char := Nat.digitChar n

/-- A character inside quotes. -/
def printChar (c : Char) : List Char :=
  if c = '"' then ['\\', '"']
  else if c = '\\' then ['\\', '\\']
  else if c = '\n' then ['\\', 'n']
  else if c = '\r' then ['\\', 'r']
  else if c = '\t' then ['\\', 't']
  else if c = '\x08' then ['\\', 'b']
  else if c = '\x0c' then ['\\', 'f']
  else if c.toNat < 0x20 then
    ['\\', 'u', '0', '0', hexDigit (c.toNat / 16), hexDigit (c.toNat % 16)]
  else [c]

/-- A text in quotes. -/
def printString (s : String) : List Char := '"' :: s.toList.flatMap printChar ++ ['"']

/-- A number. -/
def Number.print : Number → List Char
  | .int n => (toString n).toList
  | .decimal negative digits exponent =>
    (if negative then ['-'] else []) ++ (toString digits).toList ++ 'e' :: (toString exponent).toList

/-- How values are laid out: over several lines or on one. -/
inductive Layout
  | lines
  | compact

/-- What stands in front of a member at a depth: a new line, or nothing. -/
def Layout.break (layout : Layout) (depth : Nat) : List Char :=
  match layout with
  | .lines => '\n' :: List.replicate (2 * depth) ' '
  | .compact => []

/-- What stands between the name of a member and its value. -/
def Layout.colon : Layout → List Char
  | .lines => [':', ' ']
  | .compact => [':']

mutual

/-- Puts a value inside `depth` brackets in front of a text. -/
def printOnto (layout : Layout) (depth : Nat) : Json → List Char → List Char
  | .null, rest => 'n' :: 'u' :: 'l' :: 'l' :: rest
  | .bool true, rest => 't' :: 'r' :: 'u' :: 'e' :: rest
  | .bool false, rest => 'f' :: 'a' :: 'l' :: 's' :: 'e' :: rest
  | .number n, rest => n.print ++ rest
  | .string s, rest => printString s ++ rest
  | .array [], rest => '[' :: ']' :: rest
  | .array (item :: items), rest =>
    '[' :: layout.break (depth + 1) ++
      printOnto layout (depth + 1) item
        (printItems layout (depth + 1) items (layout.break depth ++ ']' :: rest))
  | .object [], rest => '\x7b' :: '\x7d' :: rest
  | .object ((name, item) :: members), rest =>
    '\x7b' :: layout.break (depth + 1) ++ printString name ++ layout.colon ++
      printOnto layout (depth + 1) item
        (printMembers layout (depth + 1) members (layout.break depth ++ '\x7d' :: rest))

/-- Puts the items after the first in front of a text. -/
def printItems (layout : Layout) (depth : Nat) : List Json → List Char → List Char
  | [], rest => rest
  | item :: items, rest =>
    ',' :: layout.break depth ++ printOnto layout depth item (printItems layout depth items rest)

/-- Puts the members after the first in front of a text. -/
def printMembers (layout : Layout) (depth : Nat) : List (String × Json) → List Char → List Char
  | [], rest => rest
  | (name, item) :: members, rest =>
    ',' :: layout.break depth ++ printString name ++ layout.colon ++
      printOnto layout depth item (printMembers layout depth members rest)

end

/-- The text of a value. -/
def print (layout : Layout) (j : Json) : String := String.ofList (j.printOnto layout 0 [])

end Wordweave.Json
