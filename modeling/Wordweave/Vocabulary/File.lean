import Wordweave.Toml.Reader
import Wordweave.Vocabulary.Table

/-!
# Wordweave — vocabularies as texts

A vocabulary is written as a TOML text with an array of tables `tables`. A table that declares no
subtypes has the standard ones, and it may be without entries; an entry may be without classes.
-/

namespace Wordweave

/-- The entry of a value. -/
def Entry.ofToml? (v : Toml) : Option Entry := do
  let r ← v.record? ["terms", "classes"]
  return ⟨← Toml.field? r "terms" none (Toml.list? Toml.string?),
    ← Toml.field? r "classes" (some []) (Toml.list? Toml.string?)⟩

/-- The table of a value. -/
def Table.ofToml? (v : Toml) : Option Table := do
  let r ← v.record? ["name", "subtypes", "entries"]
  return ⟨← Toml.field? r "name" none Toml.string?,
    ← Toml.field? r "subtypes" (some standardSubtypes) (Toml.list? Toml.string?),
    ← Toml.field? r "entries" (some []) (Toml.list? Entry.ofToml?)⟩

namespace Vocabulary

/-- Why a text is no vocabulary. -/
inductive TextFault
  /-- It does not describe tables. -/
  | unreadable
  /-- One of its tables is refused. -/
  | refused (fault : Table.Fault)
deriving DecidableEq

/-- The tables that a text describes. -/
def tablesOfText? (text : String) : Option (List Table) := do
  let entries ← Toml.entriesOfText? text
  Toml.field? entries "tables" (some []) (Toml.list? Table.ofToml?)

/-- The vocabulary of a text. -/
def ofText (text : String) : Except TextFault Vocabulary :=
  match tablesOfText? text with
  | some tables => (ofTables tables).mapError .refused
  | none => .error .unreadable

end Vocabulary

end Wordweave
