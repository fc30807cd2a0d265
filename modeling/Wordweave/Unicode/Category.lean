import Wordweave.Unicode.Letter
import Wordweave.Unicode.Mark
import Wordweave.Unicode.Number
import Wordweave.Unicode.Punctuation
import Wordweave.Unicode.Symbol
import Wordweave.Unicode.Separator

/-!
# Wordweave — general categories

Every code point has one general category. A name may stand for one category or for a group of
them: `lu` is the uppercase letters, `l` all letters. Names are given without capitals and joiners.
-/

namespace Wordweave.Unicode

/-! ## Groups of categories -/

/-- Letters with case. -/
def casedLetters : Description := .unions [uppercaseLetters, lowercaseLetters, titlecaseLetters]

/-- All letters. -/
def letters : Description := .unions [casedLetters, modifierLetters, otherLetters]

/-- All marks. -/
def marks : Description := .unions [nonspacingMarks, spacingMarks, enclosingMarks]

/-- All numbers. -/
def numbers : Description := .unions [decimalDigits, letterNumbers, otherNumbers]

/-- All punctuation. -/
def punctuation : Description :=
  .unions [connectors, dashes, openers, closers, initialQuotes, finalQuotes, otherPunctuation]

/-- All symbols. -/
def symbols : Description := .unions [mathSymbols, currencySymbols, modifierSymbols, otherSymbols]

/-- All separators. -/
def separators : Description := .unions [spaces, lineSeparators, paragraphSeparators]

/-- The code points that stand for no character by themselves and never will (Cs). -/
def surrogates : Description := .listed "D800-DFFF"

/-- Code points that have been given a meaning. -/
def assigned : Description :=
  .unions
    [letters, marks, numbers, punctuation, symbols, separators, controls, formats, privateUse]

/-- Code points without a meaning (Cn). -/
def unassigned : Description := Description.all.diff (.union assigned surrogates)

/-- What is neither letter, mark, number, punctuation, symbol nor separator. -/
def others : Description := .unions [controls, formats, privateUse, surrogates, unassigned]

/-! ## Names -/

/-- The category or the group of categories that a name stands for. Surrogates have none: no
character is one of them. -/
def category? : String → Option Description
  | "any" => some .all
  | "assigned" => some assigned
  | "ascii" => some (.listed "0-7F")
  | "l" | "letter" => some letters
  | "lc" | "casedletter" => some casedLetters
  | "lu" | "uppercaseletter" => some uppercaseLetters
  | "ll" | "lowercaseletter" => some lowercaseLetters
  | "lt" | "titlecaseletter" => some titlecaseLetters
  | "lm" | "modifierletter" => some modifierLetters
  | "lo" | "otherletter" => some otherLetters
  | "m" | "mark" | "combiningmark" => some marks
  | "mn" | "nonspacingmark" => some nonspacingMarks
  | "mc" | "spacingmark" => some spacingMarks
  | "me" | "enclosingmark" => some enclosingMarks
  | "n" | "number" => some numbers
  | "nd" | "decimalnumber" | "digit" => some decimalDigits
  | "nl" | "letternumber" => some letterNumbers
  | "no" | "othernumber" => some otherNumbers
  | "p" | "punctuation" | "punct" => some punctuation
  | "pc" | "connectorpunctuation" => some connectors
  | "pd" | "dashpunctuation" => some dashes
  | "ps" | "openpunctuation" => some openers
  | "pe" | "closepunctuation" => some closers
  | "pi" | "initialpunctuation" => some initialQuotes
  | "pf" | "finalpunctuation" => some finalQuotes
  | "po" | "otherpunctuation" => some otherPunctuation
  | "s" | "symbol" => some symbols
  | "sm" | "mathsymbol" => some mathSymbols
  | "sc" | "currencysymbol" => some currencySymbols
  | "sk" | "modifiersymbol" => some modifierSymbols
  | "so" | "othersymbol" => some otherSymbols
  | "z" | "separator" => some separators
  | "zs" | "spaceseparator" => some spaces
  | "zl" | "lineseparator" => some lineSeparators
  | "zp" | "paragraphseparator" => some paragraphSeparators
  | "c" | "other" => some others
  | "cc" | "control" | "cntrl" => some controls
  | "cf" | "format" => some formats
  | "co" | "privateuse" => some privateUse
  | "cn" | "unassigned" => some unassigned
  | _ => none

end Wordweave.Unicode
