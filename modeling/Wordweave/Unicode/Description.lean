import Wordweave.Text.CharSet

/-!
# Wordweave — descriptions of character sets

Patterns name characters by their properties, as version 16.0 of the character database has them.
The database gives most properties as lists and derives the others from them, and a description says
the same: a list of code points, or a set made of other descriptions. The set itself is only worked
out when a pattern asks for it.
-/

namespace Wordweave.Unicode

open Wordweave.Text

/-- How a set of characters is given. -/
inductive Description
  | listed (runs : String)
  | all
  | union (a b : Description)
  | inter (a b : Description)
  | diff (a b : Description)

namespace Description

/-- The set that is described. -/
def set : Description → CharSet
  | .listed runs => .ofText runs
  | .all => .all
  | .union a b => a.set.union b.set
  | .inter a b => a.set.inter b.set
  | .diff a b => a.set.diff b.set

/-- The characters of some of several descriptions. -/
def unions : List Description → Description
  | [] => .listed ""
  | [a] => a
  | a :: rest => .union a (unions rest)

/-- A set with some more characters. -/
def plus (a : Description) (runs : String) : Description := .union a (.listed runs)

/-- A set without some characters. -/
def less (a : Description) (runs : String) : Description := .diff a (.listed runs)

end Description

end Wordweave.Unicode
