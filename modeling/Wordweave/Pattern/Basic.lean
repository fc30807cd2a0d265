import Wordweave.Unicode.Named

/-!
# Wordweave — patterns

A pattern describes stretches of text. It is kept in a normal form, which the constructors of this
module make: neighbouring letters are one literal, a class of one letter is that letter, sequences
and choices do not nest in themselves, a choice among letters or among classes is a class, and what
all branches of a choice begin with stands before the choice. How large an automaton a pattern needs
is measured on this form.

A group has no say in what a pattern describes. It counts only in the size, and two groups are
never equal, so neither are branches that begin with one.
-/

namespace Wordweave

open Wordweave.Text

namespace Pattern

/-- Places between two characters. -/
inductive Anchor
  | textStart
  | textEnd
  | lineStart
  | lineEnd
  /-- After a line end, where a carriage return and a line feed make one end together. -/
  | lineStartAfterReturn
  /-- Before a line end of that kind. -/
  | lineEndBeforeReturn
  | wordEdge (ascii : Bool)
  | notWordEdge (ascii : Bool)
  | wordStart (ascii : Bool)
  | wordEnd (ascii : Bool)
  | wordStartHalf (ascii : Bool)
  | wordEndHalf (ascii : Bool)
deriving DecidableEq

/-- Whether the neighbour of a place is a word character. -/
def isWordAt (ascii : Bool) : Option Char → Bool
  | none => false
  | some c => if ascii then c.isAlphanum || c == '_' else Unicode.wordCharacters.contains c

/-- Whether the place between two characters is of the kind asked for. -/
def Anchor.fits (before next : Option Char) : Anchor → Bool
  | .textStart => before.isNone
  | .textEnd => next.isNone
  | .lineStart => before.isNone || before == some '\n'
  | .lineEnd => next.isNone || next == some '\n'
  | .lineStartAfterReturn =>
    before.isNone || before == some '\n' || (before == some '\r' && next != some '\n')
  | .lineEndBeforeReturn =>
    next.isNone || next == some '\r' || (next == some '\n' && before != some '\r')
  | .wordEdge ascii => isWordAt ascii before != isWordAt ascii next
  | .notWordEdge ascii => isWordAt ascii before == isWordAt ascii next
  | .wordStart ascii => !isWordAt ascii before && isWordAt ascii next
  | .wordEnd ascii => isWordAt ascii before && !isWordAt ascii next
  | .wordStartHalf ascii => !isWordAt ascii before
  | .wordEndHalf ascii => !isWordAt ascii next

end Pattern

open Pattern in
/-- A description of stretches of text. -/
inductive Pattern
  | empty
  | literal (text : List Char)
  | one (set : CharSet)
  | anchor (place : Anchor)
  | group (number : Nat) (body : Pattern)
  | seq (first rest : Pattern)
  | either (first rest : Pattern)
  | times (body : Pattern) (least : Nat) (most : Option Nat) (isLazy : Bool)
deriving DecidableEq

namespace Pattern

/-! ## Measures -/

/-- Whether a pattern can stand for nothing but the empty stretch. -/
def isEmptyOnly : Pattern → Bool
  | .empty | .anchor _ => true
  | .literal _ | .one _ => false
  | .group _ p => p.isEmptyOnly
  | .seq p q | .either p q => p.isEmptyOnly && q.isEmptyOnly
  | .times p _ most _ => most.isSome && p.isEmptyOnly

/-- The least length of the stretches that a pattern stands for; `none` where a class without
characters leaves it open. -/
def leastLength : Pattern → Option Nat
  | .empty | .anchor _ => some 0
  | .literal text => some text.length
  | .one set => if set.isEmpty then none else some 1
  | .group _ p => p.leastLength
  | .seq p q => do return (← p.leastLength) + (← q.leastLength)
  | .either p q => do return min (← p.leastLength) (← q.leastLength)
  | .times p least _ _ => p.leastLength.map (least * ·)

/-- Whether the form of a pattern shows that it fits at the start of the text alone. -/
def isAtStart : Pattern → Bool
  | .anchor place => place = .textStart
  | .empty | .literal _ | .one _ => false
  | .group _ p => p.isAtStart
  | .seq p q => p.isAtStart || (p.isEmptyOnly && q.isAtStart)
  | .either p q => p.isAtStart && q.isAtStart
  | .times p least _ _ => decide (0 < least) && p.isAtStart

/-- Whether the form of a pattern shows that it fits at the end of the text alone. -/
def isAtEnd : Pattern → Bool
  | .anchor place => place = .textEnd
  | .empty | .literal _ | .one _ => false
  | .group _ p => p.isAtEnd
  | .seq p q => q.isAtEnd || (q.isEmptyOnly && p.isAtEnd)
  | .either p q => p.isAtEnd && q.isAtEnd
  | .times p least _ _ => decide (0 < least) && p.isAtEnd

/-! ## The parts of sequences and choices -/

/-- The parts of a sequence in order; the empty pattern has none. -/
def items : Pattern → List Pattern
  | .empty => []
  | .seq p q => p :: q.items
  | p => [p]

/-- The sequence of some parts. -/
def ofItems : List Pattern → Pattern
  | [] => .empty
  | [p] => p
  | p :: rest => .seq p (ofItems rest)

/-- The branches of a choice in order. -/
def branches : Pattern → List Pattern
  | .either p q => p :: q.branches
  | p => [p]

/-- The pattern that fits nothing. -/
def never : Pattern := .one .empty

/-- The choice among some branches. -/
def ofBranches : List Pattern → Pattern
  | [] => never
  | [p] => p
  | p :: rest => .either p (ofBranches rest)

/-! ## Normal forms -/

/-- One character of a set. -/
def ofSet (set : CharSet) : Pattern :=
  match set.only? with
  | some c => .literal [c]
  | none => .one set

/-- Puts a part in front of others; letters join the literal that follows. -/
def consItem : Pattern → List Pattern → List Pattern
  | .literal a, .literal b :: rest => .literal (a ++ b) :: rest
  | p, rest => p :: rest

/-- Patterns one after the other. -/
def concat (ps : List Pattern) : Pattern := ofItems ((ps.flatMap items).foldr consItem [])

/-- The characters of branches that are single characters. -/
def singleChars? : List Pattern → Option (List Char)
  | [] => some []
  | .literal [c] :: rest => (singleChars? rest).map (c :: ·)
  | _ :: _ => none

/-- The sets of branches that are single classes. -/
def singleSets? : List Pattern → Option (List CharSet)
  | [] => some []
  | .one set :: rest => (singleSets? rest).map (set :: ·)
  | _ :: _ => none

/-- A choice among branches that have no common beginning. -/
def plainChoice (ps : List Pattern) : Pattern :=
  match ps.flatMap branches with
  | [] => never
  | [p] => p
  | all =>
    match singleChars? all with
    | some chars => ofSet (.unions (chars.map .only))
    | none =>
      match singleSets? all with
      | some sets => ofSet (.unions sets)
      | none => ofBranches all

/-- The parts of each branch, if all of them are sequences. -/
def sequences? : List Pattern → Option (List (List Pattern))
  | [] => some []
  | .seq p q :: rest => (sequences? rest).map ((p :: q.items) :: ·)
  | _ :: _ => none

/-- What two lists both begin with. -/
def commonFront : List Pattern → List Pattern → List Pattern
  | p :: ps, q :: qs => if p = q then p :: commonFront ps qs else []
  | _, _ => []

/-- A choice among patterns. -/
def choice (ps : List Pattern) : Pattern :=
  let whole := plainChoice ps
  match sequences? whole.branches with
  | some (first :: second :: others) =>
    let front := (second :: others).foldl commonFront first
    if front.isEmpty then whole
    else
      let rests := (first :: second :: others).map fun parts => concat (parts.drop front.length)
      concat (front ++ [plainChoice rests])
  | _ => whole

/-- A pattern repeated. What stands for nothing but the empty stretch need not be repeated. -/
def repeated (p : Pattern) (least : Nat) (most : Option Nat) (isLazy : Bool) : Pattern :=
  let bound := if p.isEmptyOnly then some 1 else none
  let least := if p.isEmptyOnly then min least 1 else least
  let most := match most, bound with
    | some m, some b => some (min m b)
    | none, b => b
    | m, none => m
  if least = 0 ∧ most = some 0 then .empty
  else if least = 1 ∧ most = some 1 then p
  else .times p least most isLazy

end Pattern

end Wordweave
