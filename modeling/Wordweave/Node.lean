import Wordweave.Carrier
import Wordweave.Filter

/-!
# Wordweave — trees

A program is a tree. Its leaves are texts to print; a sequence runs its children in order; a query
asks the vocabulary for a term and weaves its *complement*, a tree of its own, into the answer.

What a query asks is its `Lookup`: the table, the form of the term, the filters, the ties. A lookup
that names no table asks nothing and erases what its ties remember. A `Query` is a lookup with a
complement.
-/

namespace Wordweave

/-- Where a node stands in the text it was written in. -/
structure Location where
  line : UInt32
  column : UInt32
deriving DecidableEq

namespace Location

/-- The place of nodes that were not written in a text. -/
def origin : Location := ⟨0, 0⟩

end Location

/-- What is asked of a vocabulary. -/
structure Lookup where
  name : Option String
  subtype : Option String
  exclusive : Bool
  filters : List Filter
  carrier : Option Carrier
deriving DecidableEq

namespace Lookup

/-- The lookup that asks nothing. -/
def blank : Lookup := ⟨none, none, false, [], none⟩

/-- Whether a lookup erases instead of asking. -/
def isErase (q : Lookup) : Bool := q.name.isNone

/-- The ties of a lookup. -/
def ties (q : Lookup) : List Tie := (q.carrier.map (·.ties)).getD []

end Lookup

/-- A tree of a program. -/
inductive Node
  | text (location : Location) (text : String)
  | sequence (location : Location) (children : List Node)
  | query (location : Location) (lookup : Lookup) (complement : Option Node)

/-- A lookup and the tree to weave into its answer. -/
structure Query extends Lookup where
  complement : Option Node

namespace Query

/-- A query for a table. -/
def ofName (name : String) : Query := { Lookup.blank with name := some name, complement := none }

/-- A query that erases what its ties remember. -/
def erasing (carrier : Carrier) : Query :=
  { Lookup.blank with carrier := some carrier, complement := none }

/-- The query without any wish. -/
def blank : Query := { Lookup.blank with complement := none }

/-- Adds a filter after those that are there. -/
def filtered (q : Query) (f : Filter) : Query := { q with filters := q.filters ++ [f] }

/-- The node of a query. -/
def toNode (q : Query) (location : Location) : Node := .query location q.toLookup q.complement

end Query

namespace Node

/-- Where a node stands. -/
def location : Node → Location
  | .text location _ => location
  | .sequence location _ => location
  | .query location _ _ => location

mutual

/-- The number of nodes of a tree. -/
def size : Node → Nat
  | .text _ _ => 1
  | .sequence _ children => 1 + sizeAll children
  | .query _ _ none => 1
  | .query _ _ (some complement) => 1 + complement.size

/-- The number of nodes of several trees. -/
def sizeAll : List Node → Nat
  | [] => 0
  | child :: rest => child.size + sizeAll rest

end

/-! ## Equality -/

mutual

/-- Whether two trees are the same, places included. -/
def same : Node → Node → Bool
  | .text l s, .text m t => decide (l = m) && decide (s = t)
  | .sequence l cs, .sequence m ds => decide (l = m) && sameAll cs ds
  | .query l q c, .query m r d => decide (l = m) && decide (q = r) && sameIn c d
  | _, _ => false

/-- Whether two lists of trees are the same. -/
def sameAll : List Node → List Node → Bool
  | [], [] => true
  | c :: cs, d :: ds => c.same d && sameAll cs ds
  | _, _ => false

/-- Whether two optional trees are the same. -/
def sameIn : Option Node → Option Node → Bool
  | none, none => true
  | some c, some d => c.same d
  | _, _ => false

end

mutual

/-- Trees are found to be the same just when they are. -/
theorem same_iff : ∀ m n : Node, m.same n = true ↔ m = n
  | .text _ _, .text _ _ => by simp [same]
  | .sequence _ cs, .sequence _ ds => by simp [same, sameAll_iff cs ds]
  | .query _ _ c, .query _ _ d => by simp [same, sameIn_iff c d, and_assoc]
  | .text _ _, .sequence _ _ | .text _ _, .query _ _ _ => by simp [same]
  | .sequence _ _, .text _ _ | .sequence _ _, .query _ _ _ => by simp [same]
  | .query _ _ _, .text _ _ | .query _ _ _, .sequence _ _ => by simp [same]

/-- The same for lists of trees. -/
theorem sameAll_iff : ∀ ms ns : List Node, sameAll ms ns = true ↔ ms = ns
  | [], [] => by simp [sameAll]
  | m :: ms, n :: ns => by simp [sameAll, same_iff m n, sameAll_iff ms ns]
  | [], _ :: _ | _ :: _, [] => by simp [sameAll]

/-- The same for optional trees. -/
theorem sameIn_iff : ∀ m n : Option Node, sameIn m n = true ↔ m = n
  | none, none => by simp [sameIn]
  | some m, some n => by simp [sameIn, same_iff m n]
  | none, some _ | some _, none => by simp [sameIn]

end

instance : DecidableEq Node := fun m n => decidable_of_iff _ (same_iff m n)

end Node

/-- A tree with a name of its own, if it has one. -/
structure Program where
  name : Option String
  root : Node
deriving DecidableEq

end Wordweave
