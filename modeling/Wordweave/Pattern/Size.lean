import Wordweave.Pattern.Basic
import Wordweave.Pattern.ClassSize

/-!
# Wordweave — the size of patterns

A pattern is refused if its automaton is too large. Two automata are made, one that reads forwards
and marks where groups begin and end, and one that reads backwards and does not. A repetition is as
many copies of its body as it counts, so a short text can write a very large pattern; counting stops
as soon as the limit is passed.

Each part of an automaton has a start and an end. An end that is itself a choice gets one more way
out when the part is joined to the next one, and a way out has a size.
-/

namespace Wordweave.Pattern

open Wordweave.Text

/-- The direction in which an automaton reads. -/
inductive Direction
  | forward
  | backward
deriving DecidableEq

/-- What has been made, and whether it ends in a choice. -/
structure Piece where
  tally : Tally
  isOpen : Bool

namespace Piece

/-- Joins the end of a piece to another state. -/
def join (p : Piece) : Tally := if p.isOpen then p.tally.ways 1 else p.tally

/-- Copies of a body, one after the other, behind what has been made. -/
def copies (body : Tally → Piece) : Nat → Piece → Piece
  | 0, p => p
  | n + 1, p => if p.tally.exceeds then p else copies body n (body p.join)

/-- Exactly `n` copies of a body. -/
def exactly (body : Tally → Piece) (t : Tally) : Nat → Piece
  | 0 => ⟨t.plain 1, false⟩
  | n + 1 => copies body n (body t)

/-- Copies of a body that may all be left out. -/
def optional (body : Tally → Piece) (n : Nat) (p : Piece) : Piece :=
  copies (fun t => body ((t.state 0).ways 2)) n p

end Piece

/-- The tally after a repetition. `passes` tells that the body cannot stand for nothing. -/
def repetition (body : Tally → Piece) (passes : Bool) (t : Tally) : Nat → Option Nat → Piece
  | 0, some 1 => ⟨(body ((t.state 0).ways 2)).join.plain 1, false⟩
  | 0, none =>
    if passes then ⟨(body (t.plain 1)).join.ways 1, true⟩
    else ⟨((body t).join.plain 3).ways 4, false⟩
  | least, none => ⟨((Piece.exactly body t least).join.plain 1).ways 1, true⟩
  | least, some most =>
    let needed := Piece.exactly body t least
    if least = most then needed
    else
      let start : Piece := { needed with tally := needed.tally.plain 1 }
      ⟨(Piece.optional body (most - least) start).join, false⟩

/-! ## Choices among literals -/

/-- The lists up to each empty one, and those after the last; empty ones in front count once. -/
def splitAtEnds {α : Type} (texts : List (List α)) : List (List (List α)) :=
  let rest := texts.dropWhile List.isEmpty
  let chunks := rest.foldr (fun text chunks =>
    match text, chunks with
    | [], chunks => [] :: chunks
    | text, chunk :: chunks => (text :: chunk) :: chunks
    | text, [] => [[text]]) [[]]
  if rest.length < texts.length then [] :: chunks else chunks

/-- The tally after the tree of some texts, of which some are not empty. Texts share what they begin
with; a text that ends here keeps those before it and those after it apart. -/
def literalTree {α : Type} [BEq α] : (depth : Nat) → List (List α) → Tally → Tally
  | 0, _, t => t
  | depth + 1, texts, t =>
    let chunks := splitAtEnds texts
    let filled := chunks.countP (!·.isEmpty)
    let t := (t.state 0).ways (filled + (chunks.length - 1))
    chunks.foldl (fun t chunk =>
      let firsts := (chunk.filterMap List.head?).eraseDups
      let t := if firsts.isEmpty then t else if firsts.length = 1 then t.plain 1
        else t.ranges firsts.length
      firsts.foldl (fun t first =>
        let rests := chunk.filterMap fun text =>
          if text.head? == some first then some text.tail else none
        if rests.all List.isEmpty then t else literalTree depth rests t) t) t

/-- The literals of a choice among literals. -/
def literals? : List Pattern → Option (List (List Char))
  | [] => some []
  | .literal text :: rest => (literals? rest).map (text :: ·)
  | _ :: _ => none

/-- The bytes of a literal in the order in which they are read. -/
def literalBytes (direction : Direction) (text : List Char) : List Nat :=
  let bytes := text.flatMap fun c => encodeCode c.toNat
  if direction = .forward then bytes else bytes.reverse

/-- The tally after the automaton of one character of a set. -/
def setTally (direction : Direction) (set : CharSet) (t : Tally) : Tally :=
  if set.ranges.all (·.high ≤ 0x7F) then (t.plain 1).ranges set.ranges.length
  else match direction with
    | .forward => forwardClass set t
    | .backward => backwardClass set t

/-! ## All patterns -/

/-- Where a pattern stands: by itself, or as the second or a later branch of a choice. -/
inductive BranchPlace
  | alone
  | second
  | later

/-- Joins a branch to the choice around it. The choice and its end are made with the second one. -/
def BranchPlace.finish : BranchPlace → Piece → Piece
  | .alone, p => p
  | .second, p => ⟨(p.tally.plain 2).ways (if p.isOpen then 2 else 1), false⟩
  | .later, p => ⟨p.tally.ways (if p.isOpen then 2 else 1), false⟩

/-- What has been made after the automaton of a pattern. -/
def make (direction : Direction) : Pattern → BranchPlace → Tally → Piece
  | .empty, place, t => place.finish ⟨t.plain 1, false⟩
  | .literal text, place, t =>
    place.finish ⟨t.plain (literalBytes direction text).length, false⟩
  | .one set, place, t => place.finish ⟨setTally direction set t, false⟩
  | .anchor _, place, t => place.finish ⟨t.plain 1, false⟩
  | .group _ p, place, t =>
    place.finish <| match direction with
      | .forward => ⟨(p.make direction .alone (t.plain 1)).join.plain 1, false⟩
      | .backward => p.make direction .alone t
  | .seq p q, place, t =>
    place.finish <| match direction with
      | .forward => q.make direction .alone (p.make direction .alone t).join
      | .backward => p.make direction .alone (q.make direction .alone t).join
  | .either p q, .alone, t =>
    match literals? (p :: q.branches) with
    | some texts =>
      let texts := texts.map (literalBytes direction)
      let depth := texts.foldl (fun n text => max n text.length) 0
      ⟨literalTree depth texts (t.plain 1), false⟩
    | none => q.make direction .second (BranchPlace.later.finish (p.make direction .alone t)).tally
  | .either p q, place, t =>
    q.make direction .later (place.finish (p.make direction .alone t)).tally
  | .times p least most _, place, t =>
    let passes := p.leastLength.any (0 < ·)
    place.finish (repetition (p.make direction .alone) passes t least most)

/-- The size of the automaton of a pattern. What may begin anywhere in a text is led to by a loop
over any bytes. -/
def size (direction : Direction) (p : Pattern) : Nat :=
  let anchored := match direction with
    | .forward => p.isAtStart
    | .backward => p.isAtEnd
  let start : Tally := ⟨0, 0⟩
  let start := if anchored then start.plain 1 else ((start.plain 2).ranges 1).ways 2
  match direction with
  | .forward => ((p.make direction .alone (start.plain 1)).join.plain 2).bytes
  | .backward => ((p.make direction .alone start).join.plain 1).bytes

/-- Whether the automata of a pattern are within the limit. -/
def isModest (p : Pattern) : Bool :=
  decide (p.size .forward ≤ Tally.limit) && decide (p.size .backward ≤ Tally.limit)

end Wordweave.Pattern
