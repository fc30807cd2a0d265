import Wordweave.Form.Node
import Wordweave.Json.Printer
import Wordweave.Json.Reader

/-!
# Wordweave — programs as JSON

A program is a record of its name, which may be null or left out, and its root. The text of a
program is read from left to right, and the first thing that is wrong with it is reported: a name
that is no text, a second root or a root of an unknown kind is found before anything that follows
it. The members of the root are looked at when all of them have been read.
-/

namespace Wordweave

namespace Program

/-- A program as a value. -/
def toJson (p : Program) : Json :=
  .object [("name", .ofString? p.name), ("root", p.root.toJson)]

/-- The text of a program, over several lines. -/
def toJsonText (p : Program) : String := p.toJson.print .lines

/-- The program of a value. -/
def ofJson? (j : Json) : Option Program := do
  let r ← j.record? ["name", "root"]
  return ⟨← r.withDefault "name" none (Json.nullable? Json.string?),
    ← r.required "root" (Node.ofJson? false)⟩

end Program

namespace Json.Reader

/-! ## Parts of a text -/

/-- What was found, or else a mismatch. -/
def orMismatch {α : Type} : Option α → Except Fault α
  | some a => .ok a
  | none => .error .mismatch

/-- A value that is neither an array nor an object, and what `bind` makes of it. -/
def plain {α : Type} (bind : Json → Option α) (input : Glyphs) : Except Fault (α × Glyphs) := do
  match skipSpacing input with
  | some '[' :: _ | some '\x7b' :: _ => throw .mismatch
  | _ =>
    let (j, rest) ← value (stepsFor input) (.keep 0) input
    return (← orMismatch (bind j), rest)

/-- The members of an object, at the name of the first one. `step` is given the name of each and
reads on behind it. -/
def foldMembers {σ : Type} (step : String → σ → Glyphs → Except Fault (σ × Glyphs)) :
    (fuel : Nat) → σ → Glyphs → Except Fault (σ × Glyphs)
  | 0, _, _ => .error .endsEarly
  | fuel + 1, s, input => do
    let (name, rest) ← memberName (.keep 0) (stepsFor input) input
    let (s, rest) ← step name s rest
    match ← following '\x7d' rest with
    | .close rest => return (s, rest)
    | .another rest => foldMembers step fuel s rest

/-- The members of an object, after its opening bracket. -/
def foldObject {σ : Type} (step : String → σ → Glyphs → Except Fault (σ × Glyphs)) (start : σ)
    (input : Glyphs) : Except Fault (σ × Glyphs) :=
  match skipSpacing input with
  | some '\x7d' :: rest => .ok (start, rest)
  | rest => foldMembers step (stepsFor rest) start rest

/-! ## The root -/

/-- The care for what stands in the root: two brackets are open there. -/
def rootCare : Care := .keep (nestingLimit - 2)

/-- The name of a kind of nodes. -/
def rootKind (input : Glyphs) : Except Fault (Json × Glyphs) :=
  plain (fun j => (kindIndex? Node.kindNames false j).map fun _ => j) input

/-- Reads a member of the root. The kind is kept apart, and the others in reverse. -/
def rootMember (name : String) (found : Option Json × List (String × Json)) (input : Glyphs) :
    Except Fault ((Option Json × List (String × Json)) × Glyphs) := do
  let (kind, members) := found
  if name = kindKey then
    if kind.isSome then throw .mismatch
    let (kind, rest) ← rootKind (← colon input)
    return ((some kind, members), rest)
  else
    let rest ← colon input
    let (j, rest) ← value (stepsFor rest) rootCare rest
    return ((kind, (name, j) :: members), rest)

/-- The root of a program. -/
def root (input : Glyphs) : Except Fault (Node × Glyphs) := do
  match skipSpacing input with
  | some '\x7b' :: rest =>
    let ((kind, members), rest) ← foldObject rootMember (none, []) rest
    let kind ← orMismatch kind
    return (← orMismatch (Node.ofJson? false (.object ((kindKey, kind) :: members.reverse))), rest)
  | some '[' :: rest =>
    match skipSpacing rest with
    | some ']' :: _ => throw .mismatch
    | rest =>
      let (kind, rest) ← rootKind rest
      match ← following ']' rest with
      | .close rest => return (← orMismatch (Node.ofJson? false (.array [kind])), rest)
      | .another rest =>
        match ← items (stepsFor rest) rootCare [] rest with
        | (.array fields, rest) =>
          return (← orMismatch (Node.ofJson? false (.array (kind :: fields))), rest)
        | _ => throw .mismatch
  | _ => plain (fun _ => none) input

/-! ## The program -/

/-- The name of a program. -/
def programName (input : Glyphs) : Except Fault (Option String × Glyphs) :=
  plain (nullable? string?) input

/-- Reads a member of a program: its name, its root, or one that is passed over. -/
def programMember (name : String) (found : Option (Option String) × Option Node)
    (input : Glyphs) : Except Fault ((Option (Option String) × Option Node) × Glyphs) := do
  let (title, tree) := found
  if name = "name" then
    if title.isSome then throw .mismatch
    let (title, rest) ← programName (← colon input)
    return ((some title, tree), rest)
  else if name = "root" then
    if tree.isSome then throw .mismatch
    let (tree, rest) ← root (← colon input)
    return ((title, some tree), rest)
  else
    let rest ← colon input
    let (_, rest) ← value (stepsFor rest) .skip rest
    return (found, rest)

/-- A program at the front of a text. -/
def program (input : Glyphs) : Except Fault (Program × Glyphs) := do
  match skipSpacing input with
  | some '\x7b' :: rest =>
    let ((title, tree), rest) ← foldObject programMember (none, none) rest
    return (⟨title.getD none, ← orMismatch tree⟩, rest)
  | some '[' :: rest =>
    match skipSpacing rest with
    | some ']' :: _ => throw .mismatch
    | rest =>
      let (title, rest) ← programName rest
      match ← following ']' rest with
      | .close _ => throw .mismatch
      | .another rest =>
        let (tree, rest) ← root rest
        match skipSpacing rest with
        | some ']' :: rest => return (⟨title, tree⟩, rest)
        | [] => throw .endsEarly
        | _ => throw .malformed
  | _ => plain (fun _ => none) input

end Json.Reader

namespace Program

/-- The program of some glyphs, with nothing after it. -/
def ofGlyphs (input : Json.Reader.Glyphs) : Except Json.Fault Program :=
  Json.Reader.program input >>= Json.Reader.finish

/-- The program of a text. -/
def ofJsonText (text : String) : Except Json.Fault Program :=
  ofGlyphs (Json.Reader.glyphsOf text)

/-- The program of the bytes of a text. -/
def ofJsonBytes (bytes : List UInt8) : Except Json.Fault Program :=
  ofGlyphs (Text.Utf8.glyphs bytes)

end Program

end Wordweave
