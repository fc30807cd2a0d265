import Wordweave.Text.CharSet

/-!
# Wordweave — the bytes of a range of characters

The automaton of a pattern reads bytes. A range of characters is cut into pieces whose encodings
are all the combinations of one range of bytes for each place: no piece holds surrogates, all
characters of a piece have encodings of one length, and where two characters of a piece differ in a
byte, the bytes after it take every value they can.
-/

namespace Wordweave.Pattern

open Wordweave.Text

/-- The bytes from `low` to `high`. -/
structure ByteRange where
  low : Nat
  high : Nat
deriving DecidableEq

/-- Cuts a range after a code point inside it. -/
def cutAfter (n : Nat) (r : CodeRange) : List CodeRange :=
  if r.low ≤ n ∧ n < r.high then [⟨r.low, n⟩, ⟨n + 1, r.high⟩] else [r]

/-- Takes the surrogates out of a range. -/
def withoutSurrogates (r : CodeRange) : List CodeRange :=
  if r.low < 0xE000 ∧ 0xD7FF < r.high then
    [⟨r.low, 0xD7FF⟩, ⟨0xE000, r.high⟩].filter fun piece => decide (piece.low ≤ piece.high)
  else [r]

/-- Cuts a range at its first and its last block of `size` code points, so that what is left begins
and ends with whole blocks. -/
def cutBlocks (size : Nat) (r : CodeRange) : List CodeRange :=
  if r.low / size = r.high / size then [r]
  else
    let front := if r.low % size = 0 then [r] else cutAfter (r.low / size * size + size - 1) r
    front.flatMap fun piece =>
      if piece.low / size = piece.high / size ∨ piece.high % size = size - 1 then [piece]
      else cutAfter (piece.high / size * size - 1) piece

/-- The bytes of a code point. -/
def encodeCode (n : Nat) : List Nat :=
  if n < 0x80 then [n]
  else if n < 0x800 then [0xC0 + n / 64, 0x80 + n % 64]
  else if n < 0x10000 then [0xE0 + n / 4096, 0x80 + n / 64 % 64, 0x80 + n % 64]
  else [0xF0 + n / 262144, 0x80 + n / 4096 % 64, 0x80 + n / 64 % 64, 0x80 + n % 64]

/-- The pieces of a range, each with the bytes that may stand at each place. -/
def byteSequences (r : CodeRange) : List (List ByteRange) :=
  let pieces := (withoutSurrogates r).flatMap fun r =>
    (cutAfter 0x7F r).flatMap fun r => (cutAfter 0x7FF r).flatMap (cutAfter 0xFFFF)
  let aligned := pieces.flatMap fun r =>
    if r.high ≤ 0x7F then [r]
    else (cutBlocks 64 r).flatMap fun r => (cutBlocks 4096 r).flatMap (cutBlocks 262144)
  aligned.map fun r => List.zipWith ByteRange.mk (encodeCode r.low) (encodeCode r.high)

end Wordweave.Pattern
