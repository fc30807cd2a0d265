/-!
# Wordweave — vowels

The six vowel letters, and the runs of them in a word. Both the count of syllables and the rime of a
word rest on these runs.
-/

namespace Wordweave.Sound

/-- The vowel letters. -/
def isVowel (c : Char) : Bool :=
  c == 'a' || c == 'e' || c == 'i' || c == 'o' || c == 'u' || c == 'y'

/-- The places at which runs of vowels begin in a text whose first character stands at `place`.
`inRun` tells whether the character before it is a vowel. -/
def vowelRunsFrom (place : Nat) (inRun : Bool) : List Char → List Nat
  | [] => []
  | c :: rest =>
    if isVowel c && !inRun then place :: vowelRunsFrom (place + 1) true rest
    else vowelRunsFrom (place + 1) (isVowel c) rest

/-- The places at which runs of vowels begin. -/
def vowelRuns (word : List Char) : List Nat := vowelRunsFrom 0 false word

end Wordweave.Sound
