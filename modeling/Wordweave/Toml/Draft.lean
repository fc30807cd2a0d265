import Wordweave.Toml.Value

/-!
# Wordweave — TOML tables in the making

A TOML text describes its tables piece by piece, under headers and by keys of several parts, and may
not describe anything twice. A draft is a table of which more may come. What may still be added
depends on how the table came about (`Origin`):

* a table under a header of its own, and every table of an array of tables, is *explicit*: a key of
  several parts may not lead into it from outside;
* a table that only the header of an inner table names is *implicit*: it may still get its own
  header, once;
* a table that a key of several parts names is *dotted*: further such keys may add to it, but it gets
  no header.
-/

namespace Wordweave.Toml

/-- How a table came about. -/
inductive Origin
  | explicit
  | implicit
  | dotted
deriving DecidableEq

/-- What stands under a key: a value that is complete, a table, or an array of tables, of which the
newest comes first and is the one to which things are added. -/
inductive Draft
  | value (v : Toml)
  | table (origin : Origin) (entries : List (String × Draft))
  | tables (newest : List (String × Draft)) (older : List (List (String × Draft)))

/-- The entries of a table in the making. -/
abbrev Entries := List (String × Draft)

namespace Entries

/-- What stands under a key. -/
def draft? (es : Entries) (key : String) : Option Draft := (es.find? (·.1 == key)).map (·.2)

/-- Puts something under a key, in the place of what was there. -/
def put (es : Entries) (key : String) (d : Draft) : Entries :=
  if es.any (·.1 == key) then es.map fun e => if e.1 == key then (key, d) else e
  else es ++ [(key, d)]

/-- Puts something under a key, behind all others. -/
def putLast (es : Entries) (key : String) (d : Draft) : Entries :=
  es.filter (·.1 != key) ++ [(key, d)]

end Entries

/-- A change to a table: given its origin and its entries, its new ones, if the change is allowed. -/
abbrev Change := Origin → Entries → Option (Origin × Entries)

/-- Changes the table at the end of a path and makes the tables on the way. A path of a header leads
through all tables, one of a key (`dotted`) not into explicit ones. -/
def descend (dotted : Bool) (change : Change) : (path : List String) → Change
  | [], origin, es => change origin es
  | key :: path, origin, es =>
    match es.draft? key with
    | none => do
      let (made, inner) ← descend dotted change path (if dotted then .dotted else .implicit) []
      return (origin, es.put key (.table made inner))
    | some (.value _) => none
    | some (.table found inner) =>
      if dotted && found == .explicit then none
      else do
        let (found, inner) ← descend dotted change path found inner
        return (origin, es.put key (.table found inner))
    | some (.tables newest older) => do
      let (_, newest) ← descend dotted change path .explicit newest
      return (origin, es.put key (.tables newest older))

/-- Puts a value under a key that is still free. A key of one part belongs to a table that is not
dotted, the last part of a longer one to a table that is. -/
def assign (path : List String) (key : String) (v : Toml) : Change :=
  descend true (fun origin es =>
    if (origin == .dotted) = path.isEmpty then none
    else
      match es.draft? key with
      | none => some (origin, es.put key (.value v))
      | some _ => none) path

/-- The header of a table. An implicit table takes its place in the order only now. -/
def openTable (path : List String) (key : String) : Change :=
  descend false (fun origin es =>
    match es.draft? key with
    | none => some (origin, es.put key (.table .explicit []))
    | some (.table .implicit inner) => some (origin, es.putLast key (.table .explicit inner))
    | some _ => none) path

/-- The header of one more table of an array of tables. -/
def openTables (path : List String) (key : String) : Change :=
  descend false (fun origin es =>
    match es.draft? key with
    | none => some (origin, es.put key (.tables [] []))
    | some (.tables newest older) => some (origin, es.put key (.tables [] (newest :: older)))
    | some _ => none) path

/-! ## Completion -/

mutual

/-- The value of a draft to which nothing is added any more. -/
def Draft.complete : Draft → Toml
  | .value v => v
  | .table _ entries => .table (completeEntries entries)
  | .tables newest older => .array (completeTables older [.table (completeEntries newest)])

/-- The entries of a table to which nothing is added any more. -/
def completeEntries : Entries → List (String × Toml)
  | [] => []
  | (key, d) :: rest => (key, d.complete) :: completeEntries rest

/-- The tables of an array, the newest first, in front of `done`. -/
def completeTables : List Entries → List Toml → List Toml
  | [], done => done
  | t :: older, done => completeTables older (.table (completeEntries t) :: done)

end

end Wordweave.Toml
