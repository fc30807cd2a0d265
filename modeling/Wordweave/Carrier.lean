/-!
# Wordweave — carriers

Queries of one run are tied together by names. A *tie* is a name under one of seven kinds, and the
kind says what the picks under the name must have in common: the same entry, the same classes, a
rhyme, and so on. A *carrier* is the ties of one query.

For each kind a carrier may have a list of names, in the order in which they were given. `add` never
repeats a name; a carrier that was written out in full may repeat one, or hold an empty list, and
`Carrier.normal` is the carrier that says the same without either.
-/

namespace Wordweave

/-- What the picks under one name must have in common. -/
inductive TieKind
  /-- All are the same entry. -/
  | matching
  /-- All have the classes of the first. -/
  | associative
  /-- The others share no class with the first. -/
  | dissociative
  /-- The others do not have just the classes of the first. -/
  | divergent
  /-- All share a class with the first. -/
  | relational
  /-- No entry is picked twice. -/
  | unique
  /-- All rhyme with the first. -/
  | rhyme
deriving DecidableEq

namespace TieKind

/-- All kinds, in their order. -/
def all : List TieKind :=
  [matching, associative, dissociative, divergent, relational, unique, rhyme]

/-- The place of a kind in the order. -/
def rank : TieKind → Fin 7
  | matching => 0
  | associative => 1
  | dissociative => 2
  | divergent => 3
  | relational => 4
  | unique => 5
  | rhyme => 6

/-- The name of a kind. -/
def name : TieKind → String
  | matching => "match"
  | associative => "associative"
  | dissociative => "dissociative"
  | divergent => "divergent"
  | relational => "relational"
  | unique => "unique"
  | rhyme => "rhyme"

/-- The kind of a name. -/
def ofName? (name : String) : Option TieKind := all.find? (·.name == name)

end TieKind

/-- A name under a kind. -/
structure Tie where
  kind : TieKind
  name : String
deriving DecidableEq

/-- The ties of a query: for each kind, the names under it if the kind is there at all. -/
structure Carrier where
  lists : Vector (Option (List String)) 7
deriving DecidableEq

namespace Carrier

/-- The carrier without ties. -/
def empty : Carrier := ⟨Vector.replicate 7 none⟩

/-- The names under a kind, if the kind is there. -/
def names? (c : Carrier) (kind : TieKind) : Option (List String) := c.lists[kind.rank]

/-- The names under a kind. -/
def names (c : Carrier) (kind : TieKind) : List String := (c.names? kind).getD []

/-- Gives a kind its names. -/
def set (c : Carrier) (kind : TieKind) (names : List String) : Carrier :=
  ⟨c.lists.set kind.rank (some names)⟩

/-- Adds a tie; a tie that is there already stays where it is. -/
def add (c : Carrier) (tie : Tie) : Carrier :=
  let names := c.names tie.kind
  c.set tie.kind (if names.contains tie.name then names else names ++ [tie.name])

/-- Adds several ties in order. -/
def addAll (c : Carrier) (ties : List Tie) : Carrier := ties.foldl add c

/-- The kinds that are there, with their names. -/
def components (c : Carrier) : List (TieKind × List String) :=
  TieKind.all.filterMap fun kind => (c.names? kind).map (kind, ·)

/-- All ties, by kind and then in order. -/
def ties (c : Carrier) : List Tie :=
  TieKind.all.flatMap fun kind => (c.names kind).map (⟨kind, ·⟩)

/-- The number of ties. -/
def count (c : Carrier) : Nat := c.ties.length

/-- The carrier with the same ties, each once, and without empty lists. -/
def normal (c : Carrier) : Carrier := empty.addAll c.ties

end Carrier

end Wordweave
