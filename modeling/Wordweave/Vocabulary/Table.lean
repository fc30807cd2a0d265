/-!
# Wordweave — tables

A table holds entries of one sort, such as nouns. It declares its *subtypes*, the forms in which each
entry comes, and every entry has one term for each of them, in the same order, and any number of
classes. A vocabulary is tables of different names.

Tables are added one by one. A table is refused if it declares no subtypes, if one of its entries
has too many or too few terms, or if its name is taken; faults are looked for in this order, and a
refused table changes nothing.
-/

namespace Wordweave

/-- An entry of a table. -/
structure Entry where
  terms : List String
  classes : List String
deriving DecidableEq

/-- A table of entries. -/
structure Table where
  name : String
  subtypes : List String
  entries : List Entry
deriving DecidableEq

namespace Table

/-- The subtypes of a table that declares none of its own choice. -/
def standardSubtypes : List String := ["default"]

/-- Why a table is refused. -/
inductive Fault
  | noSubtypes (table : String)
  | wrongTermCount (table : String) (index found expected : Nat)
  | duplicate (table : String)
deriving DecidableEq

/-- The wording of a fault. -/
def Fault.message : Fault → String
  | .noSubtypes table => s!"Table {table} declares no subtypes"
  | .wrongTermCount table index found expected =>
    s!"Table {table}: entry {index} has {found} terms but the table has {expected} subtypes"
  | .duplicate table => s!"Duplicate table name: {table}"

/-- The first entry, counted from `index`, that has another number of terms than expected, with its
place. -/
def firstMisfit? (expected index : Nat) : List Entry → Option (Nat × Entry)
  | [] => none
  | entry :: rest =>
    if entry.terms.length = expected then firstMisfit? expected (index + 1) rest
    else some (index, entry)

/-- What is wrong with a table on its own. -/
def ownFault? (t : Table) : Option Fault :=
  if t.subtypes.isEmpty then some (.noSubtypes t.name)
  else
    (firstMisfit? t.subtypes.length 0 t.entries).map fun (index, entry) =>
      .wrongTermCount t.name index entry.terms.length t.subtypes.length

/-- The place of a subtype, or of the first one if none is asked for. -/
def subtypeIndex? (t : Table) : Option String → Option Nat
  | none => if t.subtypes.isEmpty then none else some 0
  | some subtype => t.subtypes.findIdx? (· == subtype)

end Table

/-- Tables of different names. -/
structure Vocabulary where
  tables : List Table
deriving DecidableEq

namespace Vocabulary

/-- The vocabulary without tables. -/
def empty : Vocabulary := ⟨[]⟩

/-- The table of a name. -/
def table? (v : Vocabulary) (name : String) : Option Table := v.tables.find? (·.name == name)

/-- Adds a table. -/
def add (v : Vocabulary) (t : Table) : Except Table.Fault Vocabulary :=
  match t.ownFault? with
  | some fault => .error fault
  | none => if (v.table? t.name).isSome then .error (.duplicate t.name) else .ok ⟨v.tables ++ [t]⟩

/-- Adds tables in order, up to the first that is refused. -/
def addAll (v : Vocabulary) (tables : List Table) : Except Table.Fault Vocabulary :=
  tables.foldlM add v

/-- The vocabulary of some tables. -/
def ofTables (tables : List Table) : Except Table.Fault Vocabulary := empty.addAll tables

end Vocabulary

end Wordweave
