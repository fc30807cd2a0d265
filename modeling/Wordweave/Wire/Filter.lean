import Wordweave.Wire.Codec
import Wordweave.Filter

/-!
# Wordweave — filters as bytes

A filter is the number of its kind, of two bytes, followed by its body. A filter of an unknown kind
is its number alone: readers pass over it and go on.
-/

namespace Wordweave.Wire

/-- The number of a kind of filter. -/
def filterTag : Filter → UInt16
  | .byClass _ => 1
  | .byPattern _ => 2
  | .bySyllables _ => 3

/-- Writes a demand on a class: whether the class is excluded, then the class. -/
def writeClassTest (test : ClassTest) : Except Error Bytes := do
  return writeBool test.excluded ++ (← writeText test.className)

/-- Reads a demand on a class. -/
def readClassTest : Reader ClassTest := do
  let excluded ← readBool
  return ⟨← readText, excluded⟩

/-- Writes a bound: whether it is there, then its value, which is `0` if it is not. -/
def writeBound (bound : Option UInt32) : Bytes := writeBool bound.isSome ++ writeU32 (bound.getD 0)

/-- Reads a bound. -/
def readBound : Reader (Option UInt32) := do
  let present ← readBool
  let value ← readU32
  return if present then some value else none

/-- Writes the body of a filter. -/
def writeFilterBody : Filter → Except Error Bytes
  | .byClass rules => writeList (writeList writeClassTest) rules
  | .byPattern f => do return (← writeText f.source) ++ writeBool f.outside
  | .bySyllables bounds => return writeBound bounds.least ++ writeBound bounds.most

/-- Writes a filter. -/
def writeFilter (f : Filter) : Except Error Bytes := do
  return writeU16 (filterTag f) ++ (← writeFilterBody f)

/-- Reads the text and the side of a pattern filter; the text must write a pattern. -/
def readPatternFilter : Reader PatternFilter := do
  let source ← readText
  let outside ← readBool
  match PatternFilter.ofText? source outside with
  | some f => return f
  | none => throw (.invalidFilter source)

/-- Reads the body of a filter of the given kind. An unknown kind has no body and no filter. -/
def readFilterBody (tag : UInt16) : Reader (Option Filter) := do
  if tag = 1 then return some (.byClass (← readList (readList readClassTest)))
  else if tag = 2 then return some (.byPattern (← readPatternFilter))
  else if tag = 3 then
    let least ← readBound
    return some (.bySyllables ⟨least, ← readBound⟩)
  else return none

/-- Reads a filter, if it is of a known kind. -/
def readFilter : Reader (Option Filter) := do readFilterBody (← readU16)

end Wordweave.Wire
