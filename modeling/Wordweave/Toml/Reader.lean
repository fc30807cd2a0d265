import Wordweave.Toml.Draft
import Wordweave.Toml.Scalar

/-!
# Wordweave — reading TOML

A text is a list of lines, each a header, a key with its value, a comment or nothing. Values may
contain each other: arrays run over several lines, inline tables do not. Every step takes some of
the text, so its length bounds the number of steps under way.
-/

namespace Wordweave

namespace Toml

/-! ## Values -/

/-- The text after a comment, if one stands there. -/
def skipComment (input : List Char) : List Char :=
  match input with
  | '#' :: rest => rest.dropWhile isPrintable
  | _ => input

/-- The text after blanks, line ends and comments. -/
def skipGaps : (fuel : Nat) → List Char → List Char
  | 0, input => input
  | fuel + 1, input =>
    let input := skipComment (skipBlanks input)
    match endOfLine? input with
    | some rest => skipGaps fuel rest
    | none => input

/-- A value that contains no others. -/
def scalar? (input : List Char) : Option (Toml × List Char) :=
  match input with
  | '"' :: _ | '\'' :: _ => (text? input).map fun (s, rest) => (.string s, rest)
  | 't' :: rest => (expect? ['r', 'u', 'e'] rest).map (.boolean true, ·)
  | 'f' :: rest => (expect? ['a', 'l', 's', 'e'] rest).map (.boolean false, ·)
  | _ =>
    (((moment? input).map fun (m, rest) => (.moment m, rest)).or
      ((float? input).map fun (f, rest) => (.float f, rest))).or
      ((integer? input).map fun (n, rest) => (.integer n, rest))

/-- The last part of a key and the parts before it. -/
def splitKey (parts : List String) : List String × String :=
  (parts.dropLast, parts.getLast?.getD "")

mutual

/-- A value inside `depth` others. -/
def value? (depth : Nat) : (fuel : Nat) → List Char → Option (Toml × List Char)
  | 0, _ => none
  | fuel + 1, input =>
    match input with
    | '[' :: rest => if depth + 1 < nestingLimit then items? (depth + 1) [] fuel rest else none
    | '\x7b' :: rest =>
      if depth + 1 < nestingLimit then
        match skipBlanks rest with
        | '\x7d' :: rest => some (.table [], rest)
        | _ => entries? (depth + 1) [] fuel rest
      else none
    | _ => scalar? input

/-- The items of an array up to its end, onto `done`, which is in reverse. -/
def items? (depth : Nat) (done : List Toml) : (fuel : Nat) → List Char → Option (Toml × List Char)
  | 0, _ => none
  | fuel + 1, input =>
    match skipGaps (input.length + 1) input with
    | ']' :: rest => some (.array done.reverse, rest)
    | input =>
      match value? depth fuel input with
      | none => none
      | some (item, rest) =>
        match skipGaps (rest.length + 1) rest with
        | ',' :: rest => items? depth (item :: done) fuel rest
        | ']' :: rest => some (.array (item :: done).reverse, rest)
        | _ => none

/-- The entries of an inline table up to its end, added to those of `made`. -/
def entries? (depth : Nat) (made : Entries) : (fuel : Nat) → List Char → Option (Toml × List Char)
  | 0, _ => none
  | fuel + 1, input =>
    match key? input with
    | some (parts, '=' :: rest) =>
      match value? depth fuel (skipBlanks rest) with
      | none => none
      | some (v, rest) =>
        let (path, key) := splitKey parts
        match assign path key v .explicit made with
        | none => none
        | some (_, made) =>
          match skipBlanks rest with
          | ',' :: rest => entries? depth made fuel rest
          | '\x7d' :: rest => some (.table (completeEntries made), rest)
          | _ => none
    | _ => none

end

/-! ## Lines -/

/-- The end of a line after its blanks and its comment; the end of the text is one. -/
def finishLine? (input : List Char) : Option (List Char) :=
  match skipComment (skipBlanks input) with
  | [] => some []
  | rest => endOfLine? rest

/-- A key with its value. -/
def keyValue? (input : List Char) : Option ((List String × Toml) × List Char) := do
  match ← key? input with
  | (parts, '=' :: rest) =>
    let (v, rest) ← value? 0 (rest.length + 1) (skipBlanks rest)
    return ((parts, v), rest)
  | _ => none

/-- A text that has been read in part: the header that holds, and all tables. -/
structure Page where
  header : List String
  root : Entries

/-- Makes a change to all tables. -/
def Page.change? (p : Page) (change : Change) : Option Page := do
  let (_, root) ← change .explicit p.root
  return { p with root := root }

/-- Reads a line. -/
def Page.line? (p : Page) (input : List Char) : Option (Page × List Char) :=
  match skipBlanks input with
  | [] | '#' :: _ | '\n' :: _ | '\r' :: _ => (finishLine? input).map (p, ·)
  | '[' :: '[' :: rest => do
    let (parts, rest) ← key? rest
    let rest ← finishLine? (← expect? [']', ']'] rest)
    let (path, key) := splitKey parts
    return ({ ← p.change? (openTables path key) with header := parts }, rest)
  | '[' :: rest => do
    let (parts, rest) ← key? rest
    let rest ← finishLine? (← expect? [']'] rest)
    let (path, key) := splitKey parts
    return ({ ← p.change? (openTable path key) with header := parts }, rest)
  | input => do
    let ((parts, v), rest) ← keyValue? input
    let rest ← finishLine? rest
    let (path, key) := splitKey parts
    return (← p.change? (descend false (assign path key v) p.header), rest)

/-- Reads lines to the end of the text. -/
def Page.lines? : (fuel : Nat) → Page → List Char → Option Page
  | 0, _, _ => none
  | fuel + 1, p, input =>
    match input with
    | [] => some p
    | _ => do
      let (p, rest) ← p.line? input
      Page.lines? fuel p rest

/-- The text after the mark of its encoding, if it begins with one. -/
def skipByteOrderMark (input : List Char) : List Char :=
  match input with
  | '\uFEFF' :: rest => rest
  | _ => input

/-- The entries of the table that a text describes. -/
def entriesOfText? (text : String) : Option (List (String × Toml)) := do
  let input := skipByteOrderMark text.toList
  let p ← Page.lines? (input.length + 1) ⟨[], []⟩ input
  return completeEntries p.root

/-! ## Records -/

/-- The fields of a record that are given: by name in a table, or by place in an array, of which
further items are not looked at. -/
def record? (names : List String) : Toml → Option (List (String × Toml))
  | .table entries => some (entries.filter (names.contains ·.1))
  | .array items => some (names.zip items)
  | _ => none

/-- A text. -/
def string? : Toml → Option String
  | .string s => some s
  | _ => none

/-- A list. -/
def list? {α : Type} (read : Toml → Option α) : Toml → Option (List α)
  | .array items => items.mapM read
  | _ => none

/-- A field that has the value `standard` where it is not given. -/
def field? {α : Type} (record : List (String × Toml)) (name : String) (standard : Option α)
    (read : Toml → Option α) : Option α :=
  match record.find? (·.1 == name) with
  | some (_, v) => read v
  | none => standard

end Toml

end Wordweave
