import Wordweave.Sound.Vowel
import Wordweave.Text.Lowercase

/-!
# Wordweave — rhyme

The rime of a word is its last run of vowels and all that follows it. A final `e` alone is passed
over in favour of the run before it. Two words rhyme when their rimes are equal.
-/

namespace Wordweave.Sound

/-- The place at which the rime of a lowercase word begins; `none` if a letter is looked for outside
the word, which never happens. -/
def rimeStart? (word : List Char) : Option Nat :=
  match (vowelRuns word).reverse with
  | [] => some 0
  | [last] => some last
  | last :: previous :: _ =>
    if word.length = 0 then none
    else if last = word.length - 1 then
      (word[last]?).map fun c => if c = 'e' then previous else last
    else some last

/-- The rime of a word; `none` if it would begin outside the word, which never happens. -/
def rime? (word : String) : Option (List Char) := do
  let chars := Text.lowercaseChars word
  let start ← rimeStart? chars
  if start ≤ chars.length then some (chars.drop start) else none

/-- The rime of a word. -/
def rime (word : String) : String := String.ofList ((rime? word).getD [])

end Wordweave.Sound
