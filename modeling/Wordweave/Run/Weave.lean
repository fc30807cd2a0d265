import Wordweave.Run.State

/-!
# Wordweave — weaving

What a query prints around its complement. The seam of the term says where the complement goes: into
the seam, in front of a term with the seam at its beginning, and behind all others. Blanks of their
own keep the parts apart. Without a complement, a term with a seam is printed in two parts.

A query prints something else, and its complement is not run, if there is no vocabulary
(a message), if it erases (nothing) or if it is not answered (`noMatch`).
-/

namespace Wordweave

/-- Printed where a query is not answered. -/
def noMatch : String := "[No Match]"

/-- Stands between a term and its complement, and in a seam. -/
def gap : String := " "

/-- What is printed before the complement, and the text that follows it, if there is one. -/
structure Woven where
  before : List String
  tail : Option String
deriving DecidableEq

/-- What is printed after a complement that a text follows, or none. -/
def afterComplement : (tail : Option String) → List String
  | some text => [gap, text]
  | none => []

namespace Term

/-- What a term prints without a complement. -/
def alone (t : Term) : List String := if t.isSplit then [t.left, gap, t.right] else [t.left]

/-- What a term prints before its complement and after it. -/
def around (t : Term) : Woven :=
  match t.seam with
  | none => ⟨[t.value, gap], none⟩
  | some seam =>
    if seam = 0 then ⟨[], some t.value⟩
    else if seam = t.length then ⟨[t.value, gap], none⟩
    else ⟨[t.left, gap], some t.right⟩

end Term

/-- What a query does: it prints and is done, or it prints around its complement. -/
inductive Weave
  | only (units : List String)
  | around (woven : Woven) (complement : Node)

namespace RunState

/-- Prints several units. -/
def printAll (s : RunState) (units : List String) : RunState := units.foldl print s

end RunState

/-- What a query does, and the state in which it does it. -/
def Query.weave (q : Query) (scene : Scene) (s : RunState) : Weave × RunState :=
  if scene.hasVocabulary then
    if q.isErase then (.only [], { s with memory := s.memory.removeAll q.ties })
    else
      match scene.resolve q s, q.complement with
      | (none, s), _ => (.only [noMatch], s)
      | (some term, s), none => (.only term.alone, s)
      | (some term, s), some complement => (.around term.around complement, s)
  else (.only [scene.catalog.text Catalog.missingTable], s)

end Wordweave
