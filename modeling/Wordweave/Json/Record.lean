import Wordweave.Json.Value

/-!
# Wordweave — records as JSON

How the fields of a record are found in a value. A record is written as an object, in which the
order of the members is of no account and members of other names may stand, or as an array of its
fields in their order, in which fields at the end may be left out. No field may be given twice, and
an array holds no more items than the record has fields.

A *variant* is a record of one of several kinds. Its kind is named by the member `t` of an object,
wherever it stands, or by the first item of an array.
-/

namespace Wordweave.Json

/-! ## Plain values -/

/-- A text. -/
def string? : Json → Option String
  | .string s => some s
  | _ => none

/-- A truth value. -/
def bool? : Json → Option Bool
  | .bool b => some b
  | _ => none

/-- A natural number. -/
def nat? : Json → Option Nat
  | .number (.int n) => if 0 ≤ n then some n.toNat else none
  | _ => none

/-- A natural number of 32 bits. -/
def word? (j : Json) : Option UInt32 := do
  let n ← j.nat?
  if n < 0x100000000 then some (UInt32.ofNat n) else none

/-- A list. -/
def list? {α : Type} (read : Json → Option α) : Json → Option (List α)
  | .array items => items.mapM read
  | _ => none

/-- A value that may be null. -/
def nullable? {α : Type} (read : Json → Option α) : Json → Option (Option α)
  | .null => some none
  | j => (read j).map some

/-! ## Records -/

/-- The fields of a record that are given. -/
abbrev Record := List (String × Json)

/-- The fields of the given names. -/
def record? (names : List String) : Json → Option Record
  | .object members =>
    let known := members.filter (names.contains ·.1)
    if (known.map (·.1)).Nodup then some known else none
  | .array items => if items.length ≤ names.length then some (names.zip items) else none
  | _ => none

namespace Record

/-- The value of a field, if it is given. -/
def value? (r : Record) (name : String) : Option Json := (r.find? (·.1 == name)).map (·.2)

/-- A field that must be given. -/
def required {α : Type} (r : Record) (name : String) (read : Json → Option α) : Option α :=
  (r.value? name).bind read

/-- A field that has the value `standard` where it is not given. -/
def withDefault {α : Type} (r : Record) (name : String) (standard : α) (read : Json → Option α) :
    Option α :=
  match r.value? name with
  | some j => read j
  | none => some standard

end Record

/-! ## Variants -/

/-- The member that names the kind of a variant. -/
def kindKey : String := "t"

/-- The kind of a variant and the record that remains. -/
def variant? : Json → Option (Json × Json)
  | .array (kind :: items) => some (kind, .array items)
  | .object members =>
    match members.filter (·.1 == kindKey) with
    | [(_, kind)] => some (kind, .object (members.filter (·.1 != kindKey)))
    | _ => none
  | _ => none

/-- The place of a kind among the given names. Inside a node that is itself being read, the place
may be given in the place of the name. -/
def kindIndex? (names : List String) (inner : Bool) : Json → Option Nat
  | .string name => names.findIdx? (· == name)
  | j => if inner then j.nat? else none

/-- A variant as an object. -/
def ofVariant (kind : String) (fields : Record) : Json := .object ((kindKey, .string kind) :: fields)

/-! ## Depth -/

mutual

/-- How many arrays and objects are open at once in a value. -/
def depth : Json → Nat
  | .array items => 1 + depthOfItems items
  | .object members => 1 + depthOfMembers members
  | _ => 0

/-- The depth of the deepest item. -/
def depthOfItems : List Json → Nat
  | [] => 0
  | item :: items => max item.depth (depthOfItems items)

/-- The depth of the deepest member. -/
def depthOfMembers : List (String × Json) → Nat
  | [] => 0
  | (_, item) :: members => max item.depth (depthOfMembers members)

end

end Wordweave.Json
