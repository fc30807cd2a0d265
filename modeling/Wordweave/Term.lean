/-!
# Wordweave — terms

A term is what a vocabulary answers. It may have a *seam*, a place where other text can be put in:
the entry `look|up` is the term `lookup` with a seam after four characters. Only the first bar of an
entry marks a seam; further bars are text.

The seam never lies beyond the end of the term. Cutting there is done by bytes (`cutByte`), so that
the cut is known to fall between two characters.
-/

namespace Wordweave

/-- A text with at most one seam, which counts characters. -/
structure Term where
  value : String
  seam : Option Nat
  seam_le : ∀ i ∈ seam, i ≤ value.length
deriving DecidableEq

namespace Term

/-- A term without a seam. -/
def whole (value : String) : Term := ⟨value, none, by simp⟩

/-- A term with a seam after `index` characters, or at its end if it is shorter. -/
def split (value : String) (index : Nat) : Term :=
  ⟨value, some (min index value.length), fun _ h => Option.mem_some.mp h ▸ Nat.min_le_right ..⟩

/-- The text in front of the first bar and the text after it. -/
def atBar? : List Char → Option (List Char × List Char)
  | [] => none
  | c :: rest =>
    if c = '|' then some ([], rest)
    else (atBar? rest).map fun (left, right) => (c :: left, right)

/-- The term of an entry. -/
def ofMarked (marked : String) : Term :=
  match atBar? marked.toList with
  | some (left, right) => split (String.ofList (left ++ right)) left.length
  | none => whole marked

/-- Whether a term has a seam. -/
def isSplit (t : Term) : Bool := t.seam.isSome

/-- The number of characters. -/
def length (t : Term) : Nat := t.value.length

/-! ## Cutting -/

/-- The bytes at which the characters of a text begin, the first at `start`. -/
def charStarts (start : Nat) : List Char → List Nat
  | [] => []
  | c :: rest => start :: charStarts (start + c.utf8Size) rest

/-- The byte at which a term is cut: where the character after its seam begins, or its end. -/
def cutByte (t : Term) (seam : Nat) : Nat :=
  (charStarts 0 t.value.toList)[seam]?.getD t.value.utf8ByteSize

/-- A text cut at a byte; `none` if the byte is within a character or beyond the end. -/
def cutAt? : (byte : Nat) → List Char → Option (List Char × List Char)
  | 0, text => some ([], text)
  | _ + 1, [] => none
  | byte + 1, c :: rest =>
    if c.utf8Size ≤ byte + 1 then
      (cutAt? (byte + 1 - c.utf8Size) rest).map fun (left, right) => (c :: left, right)
    else none

/-- The two sides of the seam; `none` if the cut does not fall between two characters, which never
happens. A term without a seam is all left side. -/
def halves? (t : Term) : Option (String × String) :=
  match t.seam with
  | none => some (t.value, "")
  | some seam =>
    (cutAt? (t.cutByte seam) t.value.toList).map fun (left, right) =>
      (String.ofList left, String.ofList right)

/-- The two sides of the seam. -/
def halves (t : Term) : String × String := t.halves?.getD (t.value, "")

/-- The side before the seam. -/
def left (t : Term) : String := t.halves.1

/-- The side after the seam. -/
def right (t : Term) : String := t.halves.2

end Term

end Wordweave
