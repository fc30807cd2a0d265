/-!
# Wordweave — pattern expressions

The written structure of a pattern: what its text says, before flags are applied. `Expr.depth`
measures how deep it is nested; a pattern deeper than `Expr.depthLimit` is refused.
-/

namespace Wordweave.Pattern

/-- The flags that a pattern can switch: letters of either case, `^` and `$` at line ends, `.` for
line ends too, swapped greed, characters rather than bytes, line ends of two characters, and blanks
without meaning. -/
inductive Flag
  | ignoreCase
  | multiLine
  | dotAll
  | swapGreed
  | characters
  | carriageReturn
  | spaced
deriving DecidableEq

/-- Flags to switch, in order, each with its new value. -/
abbrev FlagChanges := List (Flag × Bool)

/-- The classes of letters that a bracket can name, all of them within ASCII. -/
inductive AsciiClass
  | alnum
  | alpha
  | ascii
  | blank
  | cntrl
  | digit
  | graph
  | lower
  | print
  | punct
  | space
  | upper
  | word
  | xdigit

/-- The classes with a letter of their own: digits, blanks and word characters. -/
inductive LetterClass
  | digit
  | blank
  | word

/-- How two parts of a bracket are combined. -/
inductive SetOp
  | inter
  | diff
  | symmDiff

/-- A character of a pattern. `asByte` marks the two-digit form, which stands for a byte where the
pattern is about bytes. -/
structure Literal where
  char : Char
  asByte : Bool

/-- A named property, as asked for. -/
inductive PropertyQuery
  | name (text : List Char)
  | value (name value : List Char)

/-- The parts of a bracketed class. -/
inductive SetExpr
  | empty
  | literal (l : Literal)
  | range (low high : Literal)
  | ascii (negated : Bool) (kind : AsciiClass)
  | letter (negated : Bool) (kind : LetterClass)
  | property (negated : Bool) (query : PropertyQuery)
  | bracket (negated : Bool) (body : SetExpr)
  | union (items : List SetExpr)
  | binary (op : SetOp) (left right : SetExpr)

/-- Places between two characters that a pattern can ask for. -/
inductive AnchorSign
  | lineStart
  | lineEnd
  | textStart
  | textEnd
  | wordEdge
  | notWordEdge
  | wordStart
  | wordEnd
  | wordStartHalf
  | wordEndHalf

/-- The structure of a pattern. Groups that a name or a bare parenthesis opens are numbered. -/
inductive Expr
  | empty
  | flags (changes : FlagChanges)
  | literal (l : Literal)
  | dot
  | anchor (sign : AnchorSign)
  | letter (negated : Bool) (kind : LetterClass)
  | property (negated : Bool) (query : PropertyQuery)
  | bracket (negated : Bool) (body : SetExpr)
  | group (number : Option Nat) (changes : FlagChanges) (body : Expr)
  | repeated (body : Expr) (least : Nat) (most : Option Nat) (isLazy : Bool)
  | concat (items : List Expr)
  | alternatives (items : List Expr)

/-! ## Depth -/

mutual

/-- How deep a bracketed class is nested; single members count nothing. -/
def SetExpr.depth : SetExpr → Nat
  | .bracket _ body => 1 + body.depth
  | .union items => 1 + SetExpr.depthAll items
  | .binary _ left right => 1 + max left.depth right.depth
  | _ => 0

/-- The depth of the deepest of several parts. -/
def SetExpr.depthAll : List SetExpr → Nat
  | [] => 0
  | item :: rest => max item.depth (SetExpr.depthAll rest)

end

mutual

/-- How deep an expression is nested; single characters and places count nothing. -/
def Expr.depth : Expr → Nat
  | .bracket _ body => 1 + body.depth
  | .group _ _ body => 1 + body.depth
  | .repeated body _ _ _ => 1 + body.depth
  | .concat items => 1 + Expr.depthAll items
  | .alternatives items => 1 + Expr.depthAll items
  | _ => 0

/-- The depth of the deepest of several expressions. -/
def Expr.depthAll : List Expr → Nat
  | [] => 0
  | item :: rest => max item.depth (Expr.depthAll rest)

end

/-- The deepest nesting that is accepted. -/
def Expr.depthLimit : Nat := 250

/-! ## Smart constructors -/

/-- The parts of a class, one after the other; one part stands for itself. -/
def SetExpr.ofItems : List SetExpr → SetExpr
  | [] => .empty
  | [item] => item
  | items => .union items

/-- Expressions one after the other; one stands for itself. -/
def Expr.ofItems : List Expr → Expr
  | [] => .empty
  | [item] => item
  | items => .concat items

/-- A choice among branches; one branch is no choice. -/
def Expr.ofBranches : List Expr → Expr
  | [] => .empty
  | [branch] => branch
  | branches => .alternatives branches

end Wordweave.Pattern
