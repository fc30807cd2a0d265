import Wordweave.Pattern.Meaning
import Wordweave.Sound.Syllable

/-!
# Wordweave — filters

A filter accepts or rejects an entry of a vocabulary by its term and its classes. There are three
kinds: demands on classes, a pattern that the term must contain or must avoid, and bounds on the
number of syllables.
-/

namespace Wordweave

/-- The demand that an entry has a class, or that it lacks it. -/
structure ClassTest where
  className : String
  excluded : Bool
deriving DecidableEq

/-- Whether an entry with the given classes meets a demand. -/
def ClassTest.accepts (test : ClassTest) (classes : List String) : Bool :=
  classes.contains test.className != test.excluded

/-- A pattern that terms must contain, or avoid if it is `outside`. The text and the pattern it
writes are kept together, so a text that writes no pattern makes no filter. -/
structure PatternFilter where
  source : String
  outside : Bool
  pattern : Pattern
  ofText?_source : Pattern.ofText? source = some pattern

namespace PatternFilter

/-- A filter is given by its text and its side. -/
theorem ext_source {f g : PatternFilter} (hs : f.source = g.source) (ho : f.outside = g.outside) :
    f = g := by
  obtain ⟨s, o, p, hp⟩ := f
  obtain ⟨t, u, q, hq⟩ := g
  obtain rfl : s = t := hs
  obtain rfl : o = u := ho
  obtain rfl : p = q := by simpa [hp] using hq
  rfl

instance : DecidableEq PatternFilter := fun f g =>
  if h : f.source = g.source ∧ f.outside = g.outside then .isTrue (ext_source h.1 h.2)
  else .isFalse fun e => h (e ▸ ⟨rfl, rfl⟩)

/-- The filter of a text, if it writes a pattern. -/
def ofText? (source : String) (outside : Bool) : Option PatternFilter :=
  match h : Pattern.ofText? source with
  | some pattern => some ⟨source, outside, pattern, h⟩
  | none => none

/-- The text of a filter writes a pattern, so the filter can be made again. -/
theorem ofText?_self (f : PatternFilter) : ofText? f.source f.outside = some f := by
  have hpattern := f.ofText?_source
  unfold ofText?
  split
  · exact congrArg some (ext_source rfl rfl)
  · next hnone =>
    rw [hnone] at hpattern
    exact nomatch hpattern

/-- Whether a filter accepts a term. -/
def accepts (f : PatternFilter) (term : String) : Bool := f.pattern.isMatch term != f.outside

end PatternFilter

/-- Bounds on a number of syllables, both included; an absent bound bounds nothing. -/
structure SyllableBounds where
  least : Option UInt32
  most : Option UInt32
deriving DecidableEq

/-- Whether the syllables of a term are within the bounds. -/
def SyllableBounds.accepts (bounds : SyllableBounds) (term : String) : Bool :=
  let n := Sound.countSyllables term
  bounds.least.all (·.toNat ≤ n) && bounds.most.all (n ≤ ·.toNat)

/-- A filter on the entries of a vocabulary. A class filter is a list of rules, each a list of
alternatives: every rule needs an alternative that is met. -/
inductive Filter
  | byClass (rules : List (List ClassTest))
  | byPattern (filter : PatternFilter)
  | bySyllables (bounds : SyllableBounds)
deriving DecidableEq

namespace Filter

/-- Bounds on both sides. -/
def between (least most : UInt32) : Filter := .bySyllables ⟨some least, some most⟩

/-- Just so many syllables. -/
def exactly (n : UInt32) : Filter := between n n

/-- Whether a filter accepts a term of an entry with the given classes. -/
def accepts : Filter → (term : String) → (classes : List String) → Bool
  | .byClass rules, _, classes => rules.all fun rule => rule.any (·.accepts classes)
  | .byPattern f, term, _ => f.accepts term
  | .bySyllables bounds, term, _ => bounds.accepts term

/-- The classes that a filter asks for, in order; patterns and bounds ask for none. -/
def wantedClasses : Filter → List String
  | .byClass rules => (rules.flatten.filter (!·.excluded)).map (·.className)
  | .byPattern _ | .bySyllables _ => []

end Filter

end Wordweave
