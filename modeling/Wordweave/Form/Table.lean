import Wordweave.Json.Record
import Wordweave.Vocabulary.Table

/-!
# Wordweave — tables as JSON

A table that declares no subtypes has the standard ones, and its entries may be left out.
-/

namespace Wordweave

namespace Entry

/-- An entry as a value. -/
def toJson (e : Entry) : Json :=
  .object [("terms", .ofStrings e.terms), ("classes", .ofStrings e.classes)]

/-- The entry of a value. -/
def ofJson? (j : Json) : Option Entry := do
  let r ← j.record? ["terms", "classes"]
  return ⟨← r.required "terms" (Json.list? Json.string?),
    ← r.withDefault "classes" [] (Json.list? Json.string?)⟩

end Entry

namespace Table

/-- A table as a value. -/
def toJson (t : Table) : Json :=
  .object
    [ ("name", .string t.name),
      ("subtypes", .ofStrings t.subtypes),
      ("entries", .array (t.entries.map (·.toJson))) ]

/-- The table of a value. -/
def ofJson? (j : Json) : Option Table := do
  let r ← j.record? ["name", "subtypes", "entries"]
  let name ← r.required "name" Json.string?
  let subtypes ← r.withDefault "subtypes" standardSubtypes (Json.list? Json.string?)
  let entries ← r.withDefault "entries" [] (Json.list? Entry.ofJson?)
  return ⟨name, subtypes, entries⟩

end Table

end Wordweave
