import Std.Data.HashMap
import Wordweave.Pattern.ByteSequence

/-!
# Wordweave — the automaton of a class of characters

A class beyond ASCII becomes a small automaton on bytes. Read forwards, its sequences come in
ascending order, and states are made from the last byte to the first: a state that leads on like one
made before is that one, if it is still remembered. Read backwards, a choice leads to all last
bytes, and a byte that leads to the same state as one before shares it, again if that one is still
remembered. The memory of states has a fixed number of slots, so what it forgets, and with it the
number of states, depends on the numbers that the states have.
-/

namespace Wordweave.Pattern

open Wordweave.Text

/-! ## Counting states -/

/-- How much of an automaton has been made: its states, and the bytes that they need beyond the ones
that every state needs. -/
structure Tally where
  states : Nat
  extra : Nat

namespace Tally

/-- One more state, with some bytes of its own. -/
def state (t : Tally) (bytes : Nat) : Tally := ⟨t.states + 1, t.extra + bytes⟩

/-- More states with no bytes of their own. -/
def plain (t : Tally) (n : Nat) : Tally := ⟨t.states + n, t.extra⟩

/-- A state that leads on by `n` ranges of bytes. -/
def ranges (t : Tally) (n : Nat) : Tally := t.state (8 * n)

/-- `n` more ways out of choices that are there already. -/
def ways (t : Tally) (n : Nat) : Tally := { t with extra := t.extra + 4 * n }

/-- The size of what has been made. -/
def bytes (t : Tally) : Nat := 32 * t.states + t.extra

/-- The largest automaton that is accepted: ten mebibytes. -/
def limit : Nat := 10 * 1024 * 1024

/-- Whether the automaton is too large already. -/
def exceeds (t : Tally) : Bool := decide (limit < t.bytes)

end Tally

/-- The slot of a list of numbers among `slots`. -/
def slotOf (slots : Nat) (key : List Nat) : Nat :=
  (key.foldl (fun (h : UInt64) n => (h ^^^ n.toUInt64) * 1099511628211) 14695981039346656037).toNat %
    slots

/-! ## Forwards -/

/-- A way on: by a range of bytes to a state. -/
structure Edge where
  bytes : ByteRange
  target : Nat
deriving DecidableEq

/-- The automaton under way, and the states that are remembered. -/
structure Forward where
  tally : Tally
  memory : Std.HashMap Nat (List Edge × Nat)

/-- A state that is still open: the ways that are settled, the latest first, and the bytes of the
next one. -/
structure OpenState where
  settled : List Edge
  next : Option ByteRange

namespace Forward

/-- The ways of an open state once its next one leads to `target`. -/
def settle (s : OpenState) (target : Nat) : List Edge :=
  match s.next with
  | some bytes => ⟨bytes, target⟩ :: s.settled
  | none => s.settled

/-- The state with the given ways, remembered or new. -/
def close (f : Forward) (latestFirst : List Edge) : Nat × Forward :=
  let edges := latestFirst.reverse
  let slot := slotOf 10000 (edges.flatMap fun e => [e.bytes.low, e.bytes.high, e.target])
  match f.memory.get? slot with
  | some (known, number) => if known = edges then (number, f) else create f slot edges
  | none => create f slot edges
where
  create (f : Forward) (slot : Nat) (edges : List Edge) : Nat × Forward :=
    let number := f.tally.states
    (number, ⟨f.tally.ranges edges.length, f.memory.insert slot (edges, number)⟩)

/-- Closes states, the last one first; the last one leads to `target`. -/
def closeAll (f : Forward) (target : Nat) (states : List OpenState) : Nat × Forward :=
  states.foldr (fun s (target, f) => f.close (settle s target)) (target, f)

/-- How many of the open states, from the first, go on by the bytes of a sequence. -/
def shared : List OpenState → List ByteRange → Nat
  | s :: states, bytes :: rest => if s.next = some bytes then 1 + shared states rest else 0
  | _, _ => 0

/-- Adds a sequence, with `target` as the state at the end of all sequences. -/
def add (target : Nat) : List OpenState × Forward → List ByteRange → List OpenState × Forward
  | (states, f), sequence =>
    let kept := shared states sequence
    let (next, f) := f.closeAll target (states.drop (kept + 1))
    let branching := (states.drop kept).head?.map fun s => ⟨settle s next, sequence[kept]?⟩
    let fresh := (sequence.drop (kept + 1)).map fun bytes => ⟨[], some bytes⟩
    (states.take kept ++ branching.toList ++ fresh, f)

end Forward

/-- The tally after the forward automaton of a class. -/
def forwardClass (set : CharSet) (t : Tally) : Tally :=
  let target := t.states
  let start : List OpenState × Forward := ([⟨[], none⟩], ⟨t.plain 1, ∅⟩)
  let (states, f) := (set.ranges.flatMap byteSequences).foldl (Forward.add target) start
  (f.closeAll target states).2.tally

/-! ## Backwards -/

/-- The automaton under way, and the states that are remembered by where they lead and by what. -/
structure Backward where
  tally : Tally
  memory : Std.HashMap Nat ((Nat × ByteRange) × Nat)

/-- A state that leads to `target` by some bytes, remembered or new. -/
def Backward.lead : Nat × Backward → ByteRange → Nat × Backward
  | (target, b), bytes =>
    let slot := slotOf 1000 [target, bytes.low, bytes.high]
    match b.memory.get? slot with
    | some (known, number) =>
      if known = (target, bytes) then (number, b) else create b slot (target, bytes)
    | none => create b slot (target, bytes)
where
  create (b : Backward) (slot : Nat) (way : Nat × ByteRange) : Nat × Backward :=
    let number := b.tally.states
    (number, ⟨b.tally.plain 1, b.memory.insert slot (way, number)⟩)

/-- The tally after the backward automaton of a class. -/
def backwardClass (set : CharSet) (t : Tally) : Tally :=
  let target := t.states + 1
  let start : Backward := ⟨t.plain 2, ∅⟩
  let made := (set.ranges.flatMap byteSequences).foldl (fun b sequence =>
    let (_, b) := sequence.foldl Backward.lead (target, b)
    { b with tally := b.tally.ways 1 }) start
  made.tally

end Wordweave.Pattern
