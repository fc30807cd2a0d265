import Wordweave.Pattern.Reader
import Wordweave.Pattern.Size
import Wordweave.Pattern.Walk

/-!
# Wordweave — what a pattern expression means

Flags hold from where they are switched to the end of the group around them, so the expression is
read from left to right with the flags of the moment. Without the `u` flag a pattern is about bytes;
as texts are made of characters, it may then only ask for ASCII characters, and never for the
characters outside a class.
-/

namespace Wordweave.Pattern

open Wordweave.Text

/-- The flags of a moment. -/
structure Flags where
  ignoreCase : Bool
  multiLine : Bool
  dotAll : Bool
  swapGreed : Bool
  characters : Bool
  carriageReturn : Bool

/-- The flags that hold when none is switched. -/
def Flags.initial : Flags := ⟨false, false, false, false, true, false⟩

/-- The flags after one is switched. -/
def Flags.switch (flags : Flags) : Flag × Bool → Flags
  | (.ignoreCase, v) => { flags with ignoreCase := v }
  | (.multiLine, v) => { flags with multiLine := v }
  | (.dotAll, v) => { flags with dotAll := v }
  | (.swapGreed, v) => { flags with swapGreed := v }
  | (.characters, v) => { flags with characters := v }
  | (.carriageReturn, v) => { flags with carriageReturn := v }
  | (.spaced, _) => flags

/-- The flags after some are switched. -/
def Flags.apply (flags : Flags) (changes : FlagChanges) : Flags := changes.foldl Flags.switch flags

/-! ## Classes -/

/-- Closes a class under case if case is to be ignored. -/
def Flags.fold (flags : Flags) (set : CharSet) : CharSet :=
  if flags.ignoreCase then
    if flags.characters then Unicode.anyCase set else Unicode.anyAsciiCase set
  else set

/-- Takes the characters outside a class if asked to; a pattern about bytes cannot. -/
def Flags.negate? (flags : Flags) (negated : Bool) (set : CharSet) : Option CharSet :=
  if negated then
    if flags.characters then some set.compl else none
  else some set

/-- The character of a literal; a byte that is no ASCII character is none. -/
def Flags.char? (flags : Flags) (l : Literal) : Option Char :=
  if !flags.characters && l.asByte && decide (0x7F < l.char.toNat) then none else some l.char

/-- The character of a literal inside a class. -/
def Flags.memberChar? (flags : Flags) (l : Literal) : Option Char :=
  if !flags.characters && decide (0x7F < l.char.toNat) then none else some l.char

/-- The characters of an ASCII class. -/
def AsciiClass.members : AsciiClass → CharSet
  | .alnum => .unions [.range '0' '9', .range 'A' 'Z', .range 'a' 'z']
  | .alpha => .union (.range 'A' 'Z') (.range 'a' 'z')
  | .ascii => .range '\x00' '\x7f'
  | .blank => .union (.only '\t') (.only ' ')
  | .cntrl => .union (.range '\x00' '\x1f') (.only '\x7f')
  | .digit => .range '0' '9'
  | .graph => .range '!' '~'
  | .lower => .range 'a' 'z'
  | .print => .range ' ' '~'
  | .punct => .unions [.range '!' '/', .range ':' '@', .range '[' '\x60', .range '\x7b' '~']
  | .space => .union (.range '\t' '\r') (.only ' ')
  | .upper => .range 'A' 'Z'
  | .word => .unions [.range '0' '9', .range 'A' 'Z', .only '_', .range 'a' 'z']
  | .xdigit => .unions [.range '0' '9', .range 'A' 'F', .range 'a' 'f']

/-- The characters of a class with a letter of its own. -/
def LetterClass.members (characters : Bool) : LetterClass → CharSet
  | .digit => if characters then Unicode.digits else AsciiClass.digit.members
  | .blank => if characters then Unicode.blanks else AsciiClass.space.members
  | .word => if characters then Unicode.wordCharacters else AsciiClass.word.members

/-- The characters that a query asks for. -/
def PropertyQuery.set? : PropertyQuery → Option CharSet
  | .name text => (Unicode.named? (Unicode.plainName text)).map (·.set)
  | .value key wanted =>
    (Unicode.valued? (Unicode.plainName key) (Unicode.plainName wanted)).map (·.set)

/-- The class of a property; patterns about bytes have none. -/
def Flags.propertyClass? (flags : Flags) (negated : Bool) (query : PropertyQuery) :
    Option CharSet :=
  if flags.characters then
    query.set?.bind fun set => flags.negate? negated (flags.fold set)
  else none

/-- The result of a class operation. -/
def SetOp.apply : SetOp → CharSet → CharSet → CharSet
  | .inter, a, b => a.inter b
  | .diff, a, b => a.diff b
  | .symmDiff, a, b => a.symmDiff b

mutual

/-- The class that a part of a bracket describes. -/
def SetExpr.class? (flags : Flags) : SetExpr → Option CharSet
  | .empty => some .empty
  | .literal l => (flags.memberChar? l).map .only
  | .range low high => do return .range (← flags.memberChar? low) (← flags.memberChar? high)
  | .ascii negated kind => flags.negate? negated (flags.fold kind.members)
  | .letter negated kind => flags.negate? negated (kind.members flags.characters)
  | .property negated query => flags.propertyClass? negated query
  | .bracket negated body => do flags.negate? negated (flags.fold (← body.class? flags))
  | .union items => do return .unions (← SetExpr.classes? flags items)
  | .binary op left right => do
    let left ← left.class? flags
    let right ← right.class? flags
    return op.apply (flags.fold left) (flags.fold right)

/-- The classes of several parts. -/
def SetExpr.classes? (flags : Flags) : List SetExpr → Option (List CharSet)
  | [] => some []
  | item :: rest => do return (← item.class? flags) :: (← SetExpr.classes? flags rest)

end

/-! ## Expressions -/

/-- The class of a single character. -/
def Flags.literalClass (flags : Flags) (c : Char) : CharSet := flags.fold (.only c)

/-- The class of the dot; patterns about bytes have none. -/
def Flags.dotClass? (flags : Flags) : Option CharSet :=
  if !flags.characters then none
  else if flags.dotAll then some .all
  else if flags.carriageReturn then some ((CharSet.union (.only '\r') (.only '\n')).compl)
  else some (CharSet.only '\n').compl

/-- The place that a sign asks for. -/
def Flags.place (flags : Flags) : AnchorSign → Anchor
  | .lineStart =>
    if flags.multiLine then
      if flags.carriageReturn then .lineStartAfterReturn else .lineStart
    else .textStart
  | .lineEnd =>
    if flags.multiLine then
      if flags.carriageReturn then .lineEndBeforeReturn else .lineEnd
    else .textEnd
  | .textStart => .textStart
  | .textEnd => .textEnd
  | .wordEdge => .wordEdge !flags.characters
  | .notWordEdge => .notWordEdge !flags.characters
  | .wordStart => .wordStart !flags.characters
  | .wordEnd => .wordEnd !flags.characters
  | .wordStartHalf => .wordStartHalf !flags.characters
  | .wordEndHalf => .wordEndHalf !flags.characters

mutual

/-- The pattern of an expression, and the flags that hold after it. -/
def Expr.pattern? (flags : Flags) : Expr → Option (Pattern × Flags)
  | .empty => some (.empty, flags)
  | .flags changes => some (.empty, flags.apply changes)
  | .literal l => do return (ofSet (flags.literalClass (← flags.char? l)), flags)
  | .dot => do return (ofSet (← flags.dotClass?), flags)
  | .anchor sign => some (.anchor (flags.place sign), flags)
  | .letter negated kind => do
    return (ofSet (← flags.negate? negated (kind.members flags.characters)), flags)
  | .property negated query => do return (ofSet (← flags.propertyClass? negated query), flags)
  | .bracket negated body => do
    return (ofSet (← flags.negate? negated (flags.fold (← body.class? flags))), flags)
  | .group number changes body => do
    let (p, _) ← body.pattern? (flags.apply changes)
    return (match number with | some n => .group n p | none => p, flags)
  | .repeated body least most isLazy => do
    let swapped := flags.swapGreed
    let (p, flags) ← body.pattern? flags
    return (Pattern.repeated p least most (isLazy != swapped), flags)
  | .concat items => do
    let (ps, flags) ← Expr.patterns? flags items
    return (Pattern.concat ps, flags)
  | .alternatives items => do
    let (ps, flags) ← Expr.patterns? flags items
    return (Pattern.choice ps, flags)

/-- The patterns of several expressions in order, and the flags that hold after them. -/
def Expr.patterns? (flags : Flags) : List Expr → Option (List Pattern × Flags)
  | [] => some ([], flags)
  | item :: rest => do
    let (p, flags) ← item.pattern? flags
    let (ps, flags) ← Expr.patterns? flags rest
    return (p :: ps, flags)

end

/-- The pattern that a text writes; one whose automaton would be too large is none. -/
def ofText? (text : String) : Option Pattern := do
  let expr ← Expr.ofText? text
  let (p, _) ← expr.pattern? .initial
  if p.isModest then some p else none

end Wordweave.Pattern
