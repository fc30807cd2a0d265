import Wordweave.Filter
import Wordweave.Json.Record

/-!
# Wordweave — filters as JSON

A filter is a variant of the kind `Class`, `Regex` or `Syllables`. Demands on classes include a
class unless they say otherwise, and a pattern must be found unless it says otherwise. A pattern
that is not written properly makes no filter.
-/

namespace Wordweave

namespace ClassTest

/-- A demand as a value. -/
def toJson (test : ClassTest) : Json :=
  .object [("class", .string test.className), ("exclude", .bool test.excluded)]

/-- The demand of a value. -/
def ofJson? (j : Json) : Option ClassTest := do
  let r ← j.record? ["class", "exclude"]
  return ⟨← r.required "class" Json.string?, ← r.withDefault "exclude" false Json.bool?⟩

end ClassTest

namespace PatternFilter

/-- The pattern filter of a value. -/
def ofJson? (j : Json) : Option PatternFilter := do
  let r ← j.record? ["pattern", "outside"]
  ofText? (← r.required "pattern" Json.string?) (← r.withDefault "outside" false Json.bool?)

end PatternFilter

namespace SyllableBounds

/-- A bound as a value. -/
def boundJson : Option UInt32 → Json
  | some n => .ofNat n.toNat
  | none => .null

/-- The bounds of a value. An array must give both. -/
def ofJson? (j : Json) : Option SyllableBounds := do
  let r ← j.record? ["min", "max"]
  match j with
  | .array [_] | .array [] => none
  | _ =>
    let bound (name : String) : Option (Option UInt32) :=
      r.withDefault name none (Json.nullable? Json.word?)
    return ⟨← bound "min", ← bound "max"⟩

end SyllableBounds

namespace Filter

/-- The names of the kinds of filters. -/
def kindNames : List String := ["Class", "Regex", "Syllables"]

/-- A filter as a value. -/
def toJson : Filter → Json
  | .byClass rules =>
    .ofVariant "Class" [("rules", .array (rules.map fun rule => .array (rule.map (·.toJson))))]
  | .byPattern f =>
    .ofVariant "Regex" [("pattern", .string f.source), ("outside", .bool f.outside)]
  | .bySyllables bounds =>
    .ofVariant "Syllables"
      [("min", SyllableBounds.boundJson bounds.least), ("max", SyllableBounds.boundJson bounds.most)]

/-- The filter of a value. -/
def ofJson? (inner : Bool) (j : Json) : Option Filter := do
  let (kind, body) ← j.variant?
  match ← Json.kindIndex? kindNames inner kind with
  | 0 => do
    let r ← body.record? ["rules"]
    return .byClass (← r.required "rules" (Json.list? (Json.list? ClassTest.ofJson?)))
  | 1 => return .byPattern (← PatternFilter.ofJson? body)
  | 2 => return .bySyllables (← SyllableBounds.ofJson? body)
  | _ => none

end Filter

end Wordweave
