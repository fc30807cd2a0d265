import Wordweave.Random.Keystream

/-!
# Wordweave — fair choices

A random word times `n` has its upper half below `n`. Not every value below `n` belongs to equally
many words, so words whose product has a lower half beyond the last whole zone are passed over. At
most half of all words are.

Two things are simpler here than in the rule of the generator. It passes over words until one is
accepted, however many they are; here the word after `choiceTries` of them in a row is taken as it
is. And from a list of `2 ^ 32` members or more it chooses by words of 64 bits; here the number of
the members is always taken as a word of 32 bits.
-/

namespace Wordweave.Keystream

/-- The last lower half that is accepted for `n`. -/
def zone (n : UInt32) : UInt32 := (n <<< (31 - n.log2)) - 1

/-- The product of a word and `n`, as its upper and its lower half. -/
def scaled (word n : UInt32) : Nat × UInt32 :=
  let product := word.toNat * n.toNat
  (product / 0x100000000, UInt32.ofNat product)

/-- A number below `n`, with at most `tries` words passed over. The word after these is taken
whatever its lower half is, where the rule of the generator has no bound and would go on. -/
def below (n : UInt32) : (tries : Nat) → Keystream → Nat × Keystream
  | 0, s =>
    let (word, s) := s.next
    ((scaled word n).1, s)
  | tries + 1, s =>
    let (word, s) := s.next
    let (high, low) := scaled word n
    if low ≤ zone n then (high, s) else below n tries s

/-- How many words in a row may be passed over. A choice differs from that of the generator only if
there so many words in a row, and one more, are passed over. -/
def choiceTries : Nat := 256

/-- Chooses a member of a list; of an empty list none, and then no word is taken. The number of the
members is taken modulo `2 ^ 32`, so it is right for lists of fewer members. From a longer list the
generator chooses by words of 64 bits. -/
def choose {α : Type} (s : Keystream) : List α → Option α × Keystream
  | [] => (none, s)
  | candidates =>
    let (index, s) := below (UInt32.ofNat candidates.length) choiceTries s
    (candidates[index]?, s)

end Wordweave.Keystream
