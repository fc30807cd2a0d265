import Wordweave.Form.Carrier
import Wordweave.Form.Filter
import Wordweave.Node

/-!
# Wordweave — trees as JSON

A node is a variant of the kind `Text`, `Sequence` or `Query`, and its place is written with it. All
six fields of a query are written and all may be left out.

A value is read to a depth given in advance. The depth of the value itself is always enough, so
`Node.ofJson?` hides it.
-/

namespace Wordweave

namespace Location

/-- A place as a value. -/
def toJson (l : Location) : Json :=
  .object [("line", .ofNat l.line.toNat), ("col", .ofNat l.column.toNat)]

/-- The place of a value. -/
def ofJson? (j : Json) : Option Location := do
  let r ← j.record? ["line", "col"]
  return ⟨← r.required "line" Json.word?, ← r.required "col" Json.word?⟩

end Location

namespace Lookup

/-- The fields of a lookup. -/
def fields (q : Lookup) : Json.Record :=
  [ ("name", .ofString? q.name),
    ("subtype", .ofString? q.subtype),
    ("exclusive", .bool q.exclusive),
    ("filters", .array (q.filters.map (·.toJson))),
    ("carrier", (q.carrier.map (·.toJson)).getD .null) ]

/-- The lookup of a record. -/
def ofRecord? (inner : Bool) (r : Json.Record) : Option Lookup := do
  let name ← r.withDefault "name" none (Json.nullable? Json.string?)
  let subtype ← r.withDefault "subtype" none (Json.nullable? Json.string?)
  let exclusive ← r.withDefault "exclusive" false Json.bool?
  let filters ← r.withDefault "filters" [] (Json.list? (Filter.ofJson? inner))
  let carrier ← r.withDefault "carrier" none (Json.nullable? Carrier.ofJson?)
  return ⟨name, subtype, exclusive, filters, carrier⟩

end Lookup

namespace Query

/-- The names of the fields of a query. -/
def fieldNames : List String := ["name", "subtype", "exclusive", "filters", "carrier", "complement"]

end Query

namespace Node

/-! ## Writing -/

mutual

/-- A tree as a value. -/
def toJson : Node → Json
  | .text location content =>
    .ofVariant "Text" [("location", location.toJson), ("text", .string content)]
  | .sequence location children =>
    .ofVariant "Sequence" [("location", location.toJson), ("children", .array (toJsonAll children))]
  | .query location lookup complement =>
    .ofVariant "Query"
      [ ("location", location.toJson),
        ("query", .object (lookup.fields ++ [("complement", toJsonIn complement)])) ]

/-- Trees as values. -/
def toJsonAll : List Node → List Json
  | [] => []
  | child :: rest => child.toJson :: toJsonAll rest

/-- A tree that may be absent as a value. -/
def toJsonIn : Option Node → Json
  | none => .null
  | some complement => complement.toJson

end

/-! ## Reading -/

/-- The names of the kinds of nodes. -/
def kindNames : List String := ["Text", "Sequence", "Query"]

/-- The text node of a record. -/
def textOfJson? (j : Json) : Option Node := do
  let r ← j.record? ["location", "text"]
  return .text (← r.withDefault "location" .origin Location.ofJson?) (← r.required "text" Json.string?)

/-- The sequence of a record, its children read by `child`. -/
def sequenceOfJson? (child : Json → Option Node) (j : Json) : Option Node := do
  let r ← j.record? ["location", "children"]
  return .sequence (← r.withDefault "location" .origin Location.ofJson?)
    (← r.required "children" (Json.list? child))

end Node

/-- The query of a value, its complement read by `child`. -/
def Query.ofJsonWith? (inner : Bool) (child : Json → Option Node) (j : Json) : Option Query := do
  let r ← j.record? fieldNames
  let lookup ← Lookup.ofRecord? inner r
  return ⟨lookup, ← r.withDefault "complement" none (Json.nullable? child)⟩

namespace Node

/-- The query node of a record, its complement read by `child`. -/
def queryOfJson? (child : Json → Option Node) (j : Json) : Option Node := do
  let r ← j.record? ["location", "query"]
  let location ← r.withDefault "location" .origin Location.ofJson?
  return (← r.required "query" (Query.ofJsonWith? true child)).toNode location

/-- The tree of a value that is at most `depth` deep. -/
def ofJsonUpTo? : (depth : Nat) → (inner : Bool) → Json → Option Node
  | 0, _, _ => none
  | depth + 1, inner, j => do
    let (kind, body) ← j.variant?
    match ← Json.kindIndex? kindNames inner kind with
    | 0 => textOfJson? body
    | 1 => sequenceOfJson? (ofJsonUpTo? depth true) body
    | 2 => queryOfJson? (ofJsonUpTo? depth true) body
    | _ => none

/-- The tree of a value. -/
def ofJson? (inner : Bool) (j : Json) : Option Node := ofJsonUpTo? j.depth inner j

end Node

namespace Query

/-- A query as a value. -/
def toJson (q : Query) : Json :=
  .object (q.toLookup.fields ++ [("complement", Node.toJsonIn q.complement)])

/-- The query of a value. -/
def ofJson? (j : Json) : Option Query := ofJsonWith? false (Node.ofJson? false) j

end Query

end Wordweave
