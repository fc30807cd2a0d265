/-!
# Wordweave — random words

The source of all random picks of a run: the keystream of ChaCha with eight rounds, under a key that
a seed of 64 bits is spread into. The words of the stream are the words of its blocks in order, so a
stream is a seed and the number of words taken from it.
-/

namespace Wordweave

/-- A stream of random words: its seed, and how many words have been taken. -/
structure Keystream where
  seed : UInt64
  position : Nat
deriving DecidableEq

namespace Keystream

/-- The stream of a seed, from its beginning. -/
def ofSeed (seed : UInt64) : Keystream := ⟨seed, 0⟩

/-! ## The key -/

/-- A word turned to the right, by less than its width. -/
def rotateRight (x n : UInt32) : UInt32 :=
  if n = 0 then x else (x >>> n) ||| (x <<< (32 - n))

/-- The states that follow a state of the generator that spreads the seed. -/
def spread : (n : Nat) → UInt64 → List UInt64
  | 0, _ => []
  | n + 1, s =>
    let next := s * 6364136223846793005 + 11634580027462260723
    next :: spread n next

/-- The word of a state: a part that is shifted by the state itself. -/
def keyWord (s : UInt64) : UInt32 :=
  rotateRight (((s >>> 18) ^^^ s) >>> 27).toUInt32 (s >>> 59).toUInt32

/-- The key of a seed, in eight words. -/
def key (seed : UInt64) : List UInt32 := (spread 8 seed).map keyWord

/-! ## Blocks -/

/-- The sixteen words of a block. -/
abbrev Block := Vector UInt32 16

/-- A word turned to the left, by more than nothing and less than its width. -/
def rotateLeft (x n : UInt32) : UInt32 := (x <<< n) ||| (x >>> (32 - n))

/-- Mixes four words of a block. -/
def quarterRound (b : Block) (i j k l : Fin 16) : Block :=
  let a := b[i] + b[j]
  let d := rotateLeft (b[l] ^^^ a) 16
  let c := b[k] + d
  let e := rotateLeft (b[j] ^^^ c) 12
  let a := a + e
  let d := rotateLeft (d ^^^ a) 8
  let c := c + d
  let e := rotateLeft (e ^^^ c) 7
  (((b.set i a).set j e).set k c).set l d

/-- Two rounds: the columns of a block, then its diagonals. -/
def doubleRound (b : Block) : Block :=
  let b := quarterRound b 0 4 8 12
  let b := quarterRound b 1 5 9 13
  let b := quarterRound b 2 6 10 14
  let b := quarterRound b 3 7 11 15
  let b := quarterRound b 0 5 10 15
  let b := quarterRound b 1 6 11 12
  let b := quarterRound b 2 7 8 13
  quarterRound b 3 4 9 14

/-- The fixed words of every block. -/
def constants : List UInt32 := [0x61707865, 0x3320646e, 0x79622d32, 0x6b206574]

/-- The block that is mixed: four fixed words, the key, and the number of the block. -/
def startBlock (key : List UInt32) (number : UInt64) : Block :=
  let words := constants ++ key ++ [number.toUInt32, (number >>> 32).toUInt32, 0, 0]
  Vector.ofFn fun i => (words[i.val]?).getD 0

/-- The block of a number: mixed four times over, and added to what it was. -/
def block (key : List UInt32) (number : UInt64) : Block :=
  let start := startBlock key number
  Vector.zipWith (· + ·) (Nat.repeat doubleRound 4 start) start

/-- The word at a place of the stream. -/
def wordAt (seed : UInt64) (position : Nat) : UInt32 :=
  (block (key seed) (UInt64.ofNat (position / 16)))[position % 16]

/-- Takes the next word. -/
def next (s : Keystream) : UInt32 × Keystream :=
  (wordAt s.seed s.position, { s with position := s.position + 1 })

end Keystream

end Wordweave
