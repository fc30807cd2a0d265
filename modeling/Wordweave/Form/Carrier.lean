import Wordweave.Carrier
import Wordweave.Json.Record

/-!
# Wordweave — carriers as JSON

A carrier is a record of one field, an object that has the names of each kind of tie under the name
of the kind. A value says just what the carrier holds: a name may stand twice in a list, and a list
may be empty. If a kind stands twice, the second list holds.
-/

namespace Wordweave

namespace TieKind

/-- The kind of a value: its name, or an object with nothing under its name. -/
def ofJson? : Json → Option TieKind
  | .string name => ofName? name
  | .object [(name, .null)] => ofName? name
  | _ => none

end TieKind

namespace Carrier

/-- A carrier as a value. -/
def toJson (c : Carrier) : Json :=
  .object [("components", .object (c.components.map fun (kind, names) => (kind.name, .ofStrings names)))]

/-- Gives a kind the names that a member lists. -/
def setMember? (c : Carrier) (member : String × Json) : Option Carrier := do
  let kind ← TieKind.ofName? member.1
  let names ← Json.list? Json.string? member.2
  return c.set kind names

/-- The carrier of the members of an object. -/
def ofMembers? : Json → Option Carrier
  | .object members => members.foldlM setMember? empty
  | _ => none

/-- The carrier of a value. -/
def ofJson? (j : Json) : Option Carrier := do
  let r ← j.record? ["components"]
  r.required "components" ofMembers?

end Carrier

end Wordweave
