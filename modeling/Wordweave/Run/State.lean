import Wordweave.Message
import Wordweave.Vocabulary.Pick

/-!
# Wordweave — the state of a run

A run prints, remembers and draws random words. What it prints is kept piece by piece, one *unit*
for each time it prints. What it finds in place and never changes is its `Scene`: the messages, and
a resolver that answers queries, if there is one.
-/

namespace Wordweave

/-- What has been printed, the last unit first. -/
structure Output where
  newestFirst : List String
deriving DecidableEq

namespace Output

/-- Nothing has been printed. -/
def empty : Output := ⟨[]⟩

/-- Prints a unit. -/
def print (o : Output) (unit : String) : Output := ⟨unit :: o.newestFirst⟩

/-- The units in the order in which they were printed. -/
def units (o : Output) : List String := o.newestFirst.reverse

/-- The number of units. -/
def size (o : Output) : Nat := o.newestFirst.length

/-- All that was printed. -/
def text (o : Output) : String := String.join o.units

/-- Whether nothing can be seen of what was printed. -/
def isEmpty (o : Output) : Bool := o.newestFirst.all (·.isEmpty)

/-- The units are those printed before and the new one. -/
@[simp] theorem units_print (o : Output) (unit : String) :
    (o.print unit).units = o.units ++ [unit] := by
  simp [print, units]

end Output

/-- What a run has printed and remembers, and the random words that are left to it. -/
structure RunState where
  output : Output
  memory : Memory
  stream : Keystream

namespace RunState

/-- The state in which a run begins. -/
def start (seed : UInt64) : RunState := ⟨.empty, .empty, .ofSeed seed⟩

/-- Prints a unit. -/
def print (s : RunState) (unit : String) : RunState := { s with output := s.output.print unit }

end RunState

/-- Answers a query out of random words and a memory. -/
abbrev Resolver := Query → Keystream → Memory → Answer

/-- What a run finds in place. -/
structure Scene where
  resolver? : Option Resolver
  catalog : Catalog

namespace Scene

/-- The scene of a vocabulary, if there is one. -/
def ofVocabulary (vocabulary : Option Vocabulary) (catalog : Catalog) : Scene :=
  ⟨vocabulary.map fun v q => v.answer q.toLookup, catalog⟩

/-- Whether queries are answered. -/
def hasVocabulary (scene : Scene) : Bool := scene.resolver?.isSome

/-- The term that answers a query, if there is one, and the state after it. -/
def resolve (scene : Scene) (q : Query) (s : RunState) : Option Term × RunState :=
  match scene.resolver? with
  | some resolver =>
    let answer := resolver q s.stream s.memory
    (answer.term, { s with stream := answer.stream, memory := answer.memory })
  | none => (none, s)

end Scene

end Wordweave
