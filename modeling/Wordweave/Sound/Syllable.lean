import Wordweave.Sound.Vowel
import Wordweave.Text.Lowercase

/-!
# Wordweave — syllables

A word has as many syllables as it has runs of vowels, but a final `e` after another run counts
nothing, unless the word ends in `le` or `ee`.
-/

namespace Wordweave.Sound

/-- Whether a text ends with another. -/
def endsWith (text ending : List Char) : Bool := ending.reverse.isPrefixOf text.reverse

/-- Whether the final letter of a lowercase word is an `e` that may be silent. -/
def endsInSilentE (word : List Char) : Bool :=
  endsWith word ['e'] && !endsWith word ['l', 'e'] && !endsWith word ['e', 'e']

/-- The syllables of a lowercase word. -/
def syllablesOf (word : List Char) : Nat :=
  let runs := (vowelRuns word).length
  if 1 < runs && endsInSilentE word then runs - 1 else runs

/-- The syllables of a term, counted without bound. A term of fewer than `2 ^ 32` characters has fewer
than `2 ^ 32` syllables, so that for these a count of 32 bits is the same. -/
def countSyllables (term : String) : Nat := syllablesOf (Text.lowercaseChars term)

end Wordweave.Sound
