import Wordweave.Pattern.Expr
import Wordweave.Text.Property

/-!
# Wordweave — reading patterns

From the text of a pattern to its expression. The reader refuses what has no meaning: a repetition
of nothing, a brace that is no repetition, an unknown escape, an unclosed group or class, a group
name used twice, looking around, and references to groups.

Every reading function takes some of the text, so the length of the text bounds how many of them
are ever under way; `fuel` counts down from it.
-/

namespace Wordweave.Pattern

open Wordweave.Text

/-- Where the reader stands: the text still to read, whether blanks have no meaning, the group names
given so far, and how many groups have a number. -/
structure Cursor where
  rest : List Char
  spaced : Bool
  names : List String
  groups : Nat

/-- A reading step; `none` refuses the pattern. -/
abbrev Read := StateT Cursor Option

namespace Read

/-- Refuses the pattern. -/
def refuse {α : Type} : Read α := fun _ => none

/-- The text still to read. -/
def rest : Read (List Char) := do return (← get).rest

/-- Puts the text still to read. -/
def setRest (text : List Char) : Read Unit := modify fun s => { s with rest := text }

/-- The next character, which must be there. -/
def char : Read Char := do
  match ← rest with
  | [] => refuse
  | c :: _ => return c

/-- Passes one character. -/
def advance : Read Unit := modify fun s => { s with rest := s.rest.drop 1 }

/-- The text after its blanks and comments; a comment runs from `#` to the end of its line. -/
def dropSpacing (inComment : Bool) : List Char → List Char
  | [] => []
  | c :: rest =>
    if inComment then dropSpacing (c != '\n') rest
    else if isBlank c then dropSpacing false rest
    else if c = '#' then dropSpacing true rest
    else c :: rest

/-- Passes blanks and comments where they have no meaning. -/
def spacing : Read Unit :=
  modify fun s => if s.spaced then { s with rest := dropSpacing false s.rest } else s

/-- Passes one character and the blanks after it. -/
def advanceSpaced : Read Unit := do
  advance
  spacing

/-- Passes one character and the blanks after it; something must follow. -/
def advanceWithin : Read Unit := do
  advanceSpaced
  let _ ← char

/-- Passes the given text if it comes next. -/
def takes (text : List Char) : Read Bool := do
  match List.isPrefixOf? text (← rest) with
  | some after => setRest after; return true
  | none => return false

/-- Passes the given text, which must come next. -/
def expect (text : List Char) : Read Unit := do
  if !(← takes text) then refuse

/-- The characters in front that satisfy a test, with the blanks after each passed. -/
def takeRun (test : Char → Bool) : Nat → Read (List Char)
  | 0 => return []
  | fuel + 1 => do
    match ← rest with
    | [] => return []
    | c :: _ =>
      if test c then
        advanceSpaced
        return c :: (← takeRun test fuel)
      else return []

end Read

open Read

/-! ## Numbers and hexadecimal characters -/

/-- The largest count of a repetition. -/
def countLimit : Nat := 0xffffffff

/-- The number that decimal digits write, if it is no larger than a repetition may be. -/
def count? (digits : List Char) : Option Nat :=
  if digits.isEmpty then none
  else
    let value := digits.foldl (fun n c => 10 * n + (c.toNat - '0'.toNat)) 0
    if value ≤ countLimit then some value else none

/-- A decimal number with blanks around it; `none` where there are no digits. -/
def decimal (fuel : Nat) : Read (Option Nat) := do
  setRest ((← rest).dropWhile isBlank)
  let digits ← takeRun Char.isDigit fuel
  let _ ← takeRun isBlank fuel
  if digits.isEmpty then return none
  match count? digits with
  | some n => return some n
  | none => refuse

/-- The character with the given hexadecimal code. -/
def hexChar? (digits : List Char) : Option Char :=
  let value := digits.foldl (fun n c => 16 * n + (hexDigit? c).getD 0) 0
  if digits.isEmpty then none
  else if h : value.isValidChar then some (Char.ofNatAux value h) else none

/-- Exactly `n` hexadecimal digits. -/
def hexDigits : Nat → Read (List Char)
  | 0 => return []
  | n + 1 => do
    let c ← char
    if (hexDigit? c).isNone then refuse
    advanceSpaced
    return c :: (← hexDigits n)

/-- A character given by its code, after the letter that says how many digits it has. -/
def hexLiteral (fuel width : Nat) : Read Literal := do
  advanceWithin
  if (← char) = '{' then
    advanceSpaced
    let digits ← takeRun (fun c => (hexDigit? c).isSome) fuel
    expect ['}']
    spacing
    match hexChar? digits with
    | some c => return ⟨c, false⟩
    | none => refuse
  else
    let digits ← hexDigits width
    match hexChar? digits with
    | some c => return ⟨c, width = 2⟩
    | none => refuse

/-! ## Escapes -/

/-- What an escape, or a character that stands for itself, can be. -/
inductive Atom
  | literal (l : Literal)
  | dot
  | anchor (sign : AnchorSign)
  | letter (negated : Bool) (kind : LetterClass)
  | property (negated : Bool) (query : PropertyQuery)

/-- The text before and after the first place where `mark` stands. -/
def splitAtMark? (mark : List Char) : List Char → Option (List Char × List Char)
  | [] => none
  | c :: rest =>
    match List.isPrefixOf? mark (c :: rest) with
    | some after => some ([], after)
    | none => (splitAtMark? mark rest).map fun (before, after) => (c :: before, after)

/-- The property that stands between braces: a name, or a name and a value. The second part tells
whether the value is to be avoided. -/
def propertyQuery (text : List Char) : PropertyQuery × Bool :=
  match splitAtMark? ['!', '='] text with
  | some (name, value) => (.value name value, true)
  | none =>
    match (splitAtMark? [':'] text).or (splitAtMark? ['='] text) with
    | some (name, value) => (.value name value, false)
    | none => (.name text, false)

/-- A class of characters with a property, at its `p` or `P`. -/
def propertyClass (fuel : Nat) : Read Atom := do
  let negated := (← char) = 'P'
  advanceWithin
  let c ← char
  if c = '{' then
    advanceSpaced
    let text ← takeRun (· != '}') fuel
    expect ['}']
    let (query, avoided) := propertyQuery text
    return .property (negated != avoided) query
  else if c = '\\' then refuse
  else
    advanceSpaced
    return .property negated (.name [c])

/-- The kind of word edge that stands between braces after `\b`. Braces that begin otherwise are
left for the repetition they may be. -/
def wordEdge (fuel : Nat) : Read AnchorSign := do
  let isNameChar (c : Char) : Bool := c.isAlpha || c == '-'
  match ← rest with
  | '{' :: _ =>
    let start ← get
    advanceWithin
    if isNameChar (← char) then
      let name ← takeRun isNameChar fuel
      expect ['}']
      match String.ofList name with
      | "start" => return .wordStart
      | "end" => return .wordEnd
      | "start-half" => return .wordStartHalf
      | "end-half" => return .wordEndHalf
      | _ => refuse
    else
      set start
      return .wordEdge
  | _ => return .wordEdge

/-- Whether an escaped character stands for itself: all ASCII characters but letters, digits and
angle brackets. -/
def standsForItself (c : Char) : Bool :=
  decide (c.toNat < 0x80) && !c.isAlphanum && c != '<' && c != '>'

/-- An escape, at its backslash. -/
def escape (fuel : Nat) : Read Atom := do
  advance
  let c ← char
  let literal (c : Char) : Atom := .literal ⟨c, false⟩
  match c with
  | 'x' => return .literal (← hexLiteral fuel 2)
  | 'u' => return .literal (← hexLiteral fuel 4)
  | 'U' => return .literal (← hexLiteral fuel 8)
  | 'p' | 'P' => propertyClass fuel
  | 'd' => advance; return .letter false .digit
  | 'D' => advance; return .letter true .digit
  | 's' => advance; return .letter false .blank
  | 'S' => advance; return .letter true .blank
  | 'w' => advance; return .letter false .word
  | 'W' => advance; return .letter true .word
  | 'a' => advance; return literal '\x07'
  | 'f' => advance; return literal '\x0c'
  | 't' => advance; return literal '\t'
  | 'n' => advance; return literal '\n'
  | 'r' => advance; return literal '\r'
  | 'v' => advance; return literal '\x0b'
  | 'A' => advance; return .anchor .textStart
  | 'z' => advance; return .anchor .textEnd
  | 'b' => advance; return .anchor (← wordEdge fuel)
  | 'B' => advance; return .anchor .notWordEdge
  | '<' => advance; return .anchor .wordStart
  | '>' => advance; return .anchor .wordEnd
  | c =>
    if standsForItself c then
      advance
      return literal c
    else refuse

/-- A single character, place or class outside brackets. -/
def atom (fuel : Nat) : Read Atom := do
  let c ← char
  match c with
  | '\\' => escape fuel
  | '.' => advance; return .dot
  | '^' => advance; return .anchor .lineStart
  | '$' => advance; return .anchor .lineEnd
  | c => advance; return .literal ⟨c, false⟩

/-- The expression of an atom. -/
def Atom.toExpr : Atom → Expr
  | .literal l => .literal l
  | .dot => .dot
  | .anchor sign => .anchor sign
  | .letter negated kind => .letter negated kind
  | .property negated query => .property negated query

/-! ## Bracketed classes -/

/-- The ASCII class of a name. -/
def AsciiClass.named? : String → Option AsciiClass
  | "alnum" => some .alnum
  | "alpha" => some .alpha
  | "ascii" => some .ascii
  | "blank" => some .blank
  | "cntrl" => some .cntrl
  | "digit" => some .digit
  | "graph" => some .graph
  | "lower" => some .lower
  | "print" => some .print
  | "punct" => some .punct
  | "space" => some .space
  | "upper" => some .upper
  | "word" => some .word
  | "xdigit" => some .xdigit
  | _ => none

/-- An ASCII class such as `[:alpha:]` at the front of a text, and what follows it. -/
def asciiClass? (text : List Char) : Option (SetExpr × List Char) := do
  let rest ← List.isPrefixOf? ['[', ':'] text
  let (negated, rest) :=
    match rest with
    | '^' :: rest => (true, rest)
    | rest => (false, rest)
  let (name, after) := rest.span (· != ':')
  let after ← List.isPrefixOf? [':', ']'] after
  let kind ← AsciiClass.named? (String.ofList name)
  return (.ascii negated kind, after)

/-- The character after the next one and the blanks that follow that. -/
def peekSpaced : Read (Option Char) := do
  let s ← get
  match s.rest with
  | [] => return none
  | _ :: after =>
    if s.spaced then
      let rec look (inComment : Bool) : List Char → Option Char
        | [] => after.head?
        | c :: more =>
          if isBlank c then look inComment more
          else if !inComment && c == '#' then look true more
          else some c
      return look false after
    else return after.head?

/-- A member of a class: a character, an escape or nothing else. -/
def setAtom (fuel : Nat) : Read Atom := do
  let c ← char
  if c = '\\' then escape fuel
  else
    advance
    return .literal ⟨c, false⟩

/-- The part of a class that an atom is; places are none. -/
def Atom.toSetExpr? : Atom → Option SetExpr
  | .literal l => some (.literal l)
  | .letter negated kind => some (.letter negated kind)
  | .property negated query => some (.property negated query)
  | .dot | .anchor _ => none

/-- A member of a class, or a range between two characters. A minus before the closing bracket, or
before another minus, is no range. -/
def setRange (fuel : Nat) : Read SetExpr := do
  let first ← setAtom fuel
  spacing
  let c ← char
  let after ← peekSpaced
  if c != '-' || after == some ']' || after == some '-' then
    match first.toSetExpr? with
    | some item => return item
    | none => refuse
  else
    advanceWithin
    let last ← setAtom fuel
    match first, last with
    | .literal low, .literal high =>
      if low.char ≤ high.char then return .range low high else refuse
    | _, _ => refuse

/-- The literal minus signs that may open a class. -/
def openingMinus : Nat → Read (List SetExpr)
  | 0 => return []
  | fuel + 1 => do
    if (← char) = '-' then
      advanceWithin
      return .literal ⟨'-', false⟩ :: (← openingMinus fuel)
    else return []

/-- What has been read of a class so far: the items since the last operation, which are held in
reverse, are its right side. -/
def operand (pending : Option (SetExpr × SetOp)) (items : List SetExpr) : SetExpr :=
  let right := SetExpr.ofItems items.reverse
  match pending with
  | some (left, op) => .binary op left right
  | none => right

mutual

/-- A class, at its opening bracket. A closing bracket that comes first is a member. -/
def bracketed : Nat → Read SetExpr
  | 0 => refuse
  | fuel + 1 => do
    advanceWithin
    let negated := (← char) = '^'
    if negated then advanceWithin
    let minus ← openingMinus fuel
    let first ←
      if minus.isEmpty && (← char) = ']' then
        advanceWithin
        pure [SetExpr.literal ⟨']', false⟩]
      else pure minus.reverse
    return .bracket negated (← setBody fuel first none)

/-- The members of a class up to its closing bracket. `items` are those read since the last
operation, in reverse; `pending` is that operation with its left side. -/
def setBody : Nat → List SetExpr → Option (SetExpr × SetOp) → Read SetExpr
  | 0, _, _ => refuse
  | fuel + 1, items, pending => do
    spacing
    match ← rest with
    | [] => refuse
    | ']' :: _ => advance; return operand pending items
    | '&' :: '&' :: after => setRest after; setBody fuel [] (some (operand pending items, .inter))
    | '-' :: '-' :: after => setRest after; setBody fuel [] (some (operand pending items, .diff))
    | '~' :: '~' :: after => setRest after; setBody fuel [] (some (operand pending items, .symmDiff))
    | '[' :: more =>
      match asciiClass? ('[' :: more) with
      | some (item, after) => setRest after; setBody fuel (item :: items) pending
      | none =>
        let item ← bracketed fuel
        setBody fuel (item :: items) pending
    | _ =>
      let item ← setRange fuel
      setBody fuel (item :: items) pending

end

/-! ## Repetitions -/

/-- The expression that a repetition applies to: the last one read. Flags cannot be repeated. -/
def repeatable? : List Expr → Option (Expr × List Expr)
  | [] | .empty :: _ | .flags _ :: _ => none
  | last :: before => some (last, before)

/-- Whether a question mark makes a repetition lazy; it is passed. -/
def laziness : Read Bool := takes ['?']

/-- The bounds of a counted repetition, at its opening brace. -/
def bounds (fuel : Nat) : Read (Nat × Option Nat) := do
  advanceWithin
  let least ← decimal fuel
  if (← char) = ',' then
    advanceWithin
    if (← char) = '}' then
      match least with
      | some n => return (n, none)
      | none => refuse
    else
      let most ← decimal fuel
      match least, most with
      | some least, some most => if least ≤ most then return (least, some most) else refuse
      | _, _ => refuse
  else
    match least with
    | some n => return (n, some n)
    | none => refuse

/-! ## Groups -/

/-- The flag of a letter. -/
def Flag.ofLetter? : Char → Option Flag
  | 'i' => some .ignoreCase
  | 'm' => some .multiLine
  | 's' => some .dotAll
  | 'U' => some .swapGreed
  | 'u' => some .characters
  | 'R' => some .carriageReturn
  | 'x' => some .spaced
  | _ => none

/-- The flags up to a colon or a closing parenthesis. No flag is named twice, and a minus stands
once and before a flag. -/
def flagChanges : Nat → (negated pendingMinus : Bool) → FlagChanges → Read FlagChanges
  | 0, _, _, _ => refuse
  | fuel + 1, negated, pendingMinus, changes => do
    match ← char with
    | ':' | ')' => if pendingMinus then refuse else return changes.reverse
    | '-' =>
      if negated then refuse
      advance
      flagChanges fuel true true changes
    | c =>
      match Flag.ofLetter? c with
      | none => refuse
      | some flag =>
        if changes.any (·.1 == flag) then refuse
        advance
        flagChanges fuel negated false ((flag, !negated) :: changes)

/-- Whether a character may stand in a group name. -/
def isNameChar (first : Bool) (c : Char) : Bool :=
  c == '_' || isAlphabetic c || (!first && (c == '.' || c == '[' || c == ']' || isNumeric c))

/-- The name of a group, up to and with its closing angle bracket. -/
def groupName : Read Unit := do
  let (name, after) := (← rest).span (· != '>')
  let after ← match after with
    | _ :: after => pure after
    | [] => refuse
  match name with
  | [] => refuse
  | first :: more =>
    if !isNameChar true first || !more.all (isNameChar false) then refuse
    let name := String.ofList name
    let s ← get
    if s.names.contains name then refuse
    set { s with rest := after, names := name :: s.names }

/-- What a parenthesis opens: flags for what follows, or a group with flags of its own. -/
inductive Opening
  | flags (changes : FlagChanges)
  | group (number : Option Nat) (changes : FlagChanges)

/-- Opens the next group that has a number. -/
def nextGroup : Read Opening := do
  let s ← get
  set { s with groups := s.groups + 1 }
  return .group (some (s.groups + 1)) []

/-- The new meaning of blanks after a change of flags. -/
def spacedAfter (changes : FlagChanges) (before : Bool) : Bool :=
  changes.foldl (fun spaced (flag, value) => if flag = .spaced then value else spaced) before

/-- What a parenthesis opens, at the parenthesis. -/
def opening (fuel : Nat) : Read Opening := do
  advanceSpaced
  match ← rest with
  | '?' :: '=' :: _ | '?' :: '!' :: _ | '?' :: '<' :: '=' :: _ | '?' :: '<' :: '!' :: _ => refuse
  | '?' :: 'P' :: '<' :: after | '?' :: '<' :: after =>
    setRest after
    groupName
    nextGroup
  | '?' :: after =>
    setRest after
    let changes ← flagChanges fuel false false []
    if (← takes [')']) then
      if changes.isEmpty then refuse
      return .flags changes
    expect [':']
    return .group none changes
  | _ => nextGroup

/-- The branches of a group up to its closing parenthesis, or of the whole pattern up to its end.
`items` is the branch under way and `branches` are those before it, both in reverse. -/
def branchItems : Nat → List Expr → List Expr → Read Expr
  | 0, _, _ => refuse
  | fuel + 1, items, branches => do
    spacing
    match ← rest with
    | [] | ')' :: _ => return .ofBranches (.ofItems items.reverse :: branches).reverse
    | '|' :: _ =>
      advance
      branchItems fuel [] (.ofItems items.reverse :: branches)
    | '[' :: _ =>
      let item ← bracketed fuel
      let item := match item with
        | .bracket negated body => Expr.bracket negated body
        | _ => .empty
      branchItems fuel (item :: items) branches
    | '(' :: _ =>
      let before := (← get).spaced
      match ← opening fuel with
      | .flags changes =>
        modify fun s => { s with spaced := spacedAfter changes before }
        branchItems fuel (.flags changes :: items) branches
      | .group number changes =>
        modify fun s => { s with spaced := spacedAfter changes before }
        let body ← branchItems fuel [] []
        expect [')']
        modify fun s => { s with spaced := before }
        branchItems fuel (.group number changes body :: items) branches
    | '{' :: _ =>
      match repeatable? items with
      | none => refuse
      | some (last, before) =>
        let (least, most) ← bounds fuel
        if (← char) != '}' then refuse
        advanceSpaced
        let isLazy ← laziness
        branchItems fuel (.repeated last least most isLazy :: before) branches
    | c :: _ =>
      if c = '?' || c = '*' || c = '+' then
        match repeatable? items with
        | none => refuse
        | some (last, before) =>
          advance
          let isLazy ← laziness
          let least := if c = '+' then 1 else 0
          let most := if c = '?' then some 1 else none
          branchItems fuel (.repeated last least most isLazy :: before) branches
      else
        let item ← atom fuel
        branchItems fuel (item.toExpr :: items) branches

/-- The expression of a pattern's text. -/
def Expr.ofText? (text : String) : Option Expr := do
  let chars := text.toList
  let (expr, stop) ← branchItems (2 * chars.length + 2) [] [] ⟨chars, false, [], 0⟩
  if stop.rest.isEmpty && decide (expr.depth ≤ Expr.depthLimit) then some expr else none

end Wordweave.Pattern
