import Wordweave.Settings.Load

/-!
# Wordweave — the command line

A command line is a subcommand with its operand, and options. There are two levels: the arguments in
front of the subcommand and those behind it. Options that hold for all subcommands may stand on
either, and behind the subcommand they count for more. On each level

* an option takes its value from the same argument (`--seed=1`, `-n1`, `-n=1`) or from the next one,
  unless that begins with a dash;
* a value from the next argument is looked at only when another option or operand comes, or at the
  end of the level, so a mistake behind it may be found first;
* no option stands twice;
* after `--` all arguments are operands.

The level in front of the subcommand ends after the one behind it.
-/

namespace Wordweave.Command

/-- What is wrong with a command line, or that help is wanted. -/
inductive UsageError
  | help
  /-- The command line asks for nothing, and help answers that. -/
  | helpForNothing
  | unknownArgument
  | unknownSubcommand
  | missingSubcommand
  | missingOperand
  /-- An option has no value. -/
  | missingValue
  /-- The value of an option is not of the right form. -/
  | wrongValue
  /-- A value is given to an option that takes none. -/
  | needlessValue
  | repeated
deriving DecidableEq

/-! ## Options -/

/-- The options. -/
inductive Flag
  | config
  | vocabulary
  | language
  | seed
  | count
  | output
  | help
deriving DecidableEq

/-- The name of an option. -/
def Flag.name : Flag → String
  | .config => "config"
  | .vocabulary => "vocabulary"
  | .language => "language"
  | .seed => "seed"
  | .count => "count"
  | .output => "output"
  | .help => "help"

/-- The letter of an option, if it has one. -/
def Flag.letter? : Flag → Option Char
  | .count => some 'n'
  | .output => some 'o'
  | .help => some 'h'
  | _ => none

/-- The values that options have been given. -/
structure Choices where
  wishes : Settings.Wishes
  count : Option UInt64
  output : Option String

namespace Choices

/-- No option has been given. -/
def none : Choices := ⟨.none, .none, .none⟩

/-- Whether an option has been given. -/
def has (c : Choices) : Flag → Bool
  | .config => c.wishes.path.isSome
  | .vocabulary => c.wishes.vocabulary.isSome
  | .language => c.wishes.language.isSome
  | .seed => c.wishes.seed.isSome
  | .count => c.count.isSome
  | .output => c.output.isSome
  | .help => false

/-- Whether no option has been given. -/
def isEmpty (c : Choices) : Bool :=
  [Flag.config, .vocabulary, .language, .seed, .count, .output].all (!c.has ·)

/-- The number that a value writes. -/
def number (value : String) : Except UsageError UInt64 :=
  match wordOfText? value with
  | some n => .ok n
  | Option.none => .error .wrongValue

/-- Gives an option its value. -/
def take (c : Choices) (flag : Flag) (value : String) : Except UsageError Choices :=
  if c.has flag then .error .repeated
  else
    match flag with
    | .config => .ok { c with wishes.path := value }
    | .vocabulary => .ok { c with wishes.vocabulary := value }
    | .language => .ok { c with wishes.language := value }
    | .seed => return { c with wishes.seed := ← number value }
    | .count => return { c with count := ← number value }
    | .output => .ok { c with output := value }
    | .help => .error .needlessValue

end Choices

/-! ## Levels -/

/-- The subcommands. -/
inductive Subcommand
  | run
  | compile
  | dump
deriving DecidableEq

/-- The name of a subcommand. -/
def Subcommand.name : Subcommand → String
  | .run => "run"
  | .compile => "compile"
  | .dump => "dump"

/-- All subcommands. -/
def Subcommand.all : List Subcommand := [.run, .compile, .dump]

/-- What stands in the place of a subcommand. -/
inductive Word
  | subcommand (s : Subcommand)
  | help
deriving DecidableEq

/-- The meaning of an argument in the place of a subcommand. -/
def Word.ofArgument? (arg : String) : Option Word :=
  if arg = "help" then some .help
  else (Subcommand.all.find? (·.name == arg)).map .subcommand

/-- A level: in front of the subcommand, or behind it. -/
inductive Level
  | front
  | behind (s : Subcommand)
deriving DecidableEq

/-- The options of a level. -/
def Level.flags : Level → List Flag
  | .front | .behind .dump => [.config, .vocabulary, .language, .seed, .help]
  | .behind .run => [.config, .vocabulary, .language, .seed, .help, .count]
  | .behind .compile => [.config, .vocabulary, .language, .seed, .help, .output]

/-- How far a level has been read. -/
structure Reading where
  choices : Choices
  /-- The last option, with its value once that is there. -/
  pending : Option (Flag × Option String)
  operand : Option String
  /-- Whether all further arguments are operands. -/
  literal : Bool

namespace Reading

/-- Nothing has been read. -/
def start : Reading := ⟨.none, none, none, false⟩

/-- Whether the next argument may be the value of an option. -/
def awaitsValue (r : Reading) : Bool := r.pending.any (·.2.isNone)

/-- Looks at the value of the last option. -/
def settle (r : Reading) : Except UsageError Reading :=
  match r.pending with
  | none => .ok r
  | some (_, none) => .error .missingValue
  | some (flag, some value) => do
    return { r with choices := ← r.choices.take flag value, pending := none }

/-- Reads an option, with the value from its argument if there is one. -/
def option (r : Reading) (flag : Option Flag) (value : Option String) : Except UsageError Reading :=
  match flag, value with
  | none, _ => .error .unknownArgument
  | some .help, none => r.settle >>= fun _ => .error .help
  | some .help, some _ => .error .needlessValue
  | some flag, some value => do
    let r ← r.settle
    return { r with choices := ← r.choices.take flag value }
  | some flag, none => do return { ← r.settle with pending := some (flag, none) }

/-- Reads an option by its name, after the dashes. -/
def named (r : Reading) (level : Level) (text : List Char) : Except UsageError Reading :=
  let name := text.takeWhile (· != '=')
  let flag := level.flags.find? (·.name == String.ofList name)
  match text.drop name.length with
  | _ :: value => r.option flag (some (String.ofList value))
  | [] => r.option flag none

/-- Reads an option by its letter. What follows the letter of `help` is not looked at. -/
def lettered (r : Reading) (level : Level) (letter : Char) (text : List Char) :
    Except UsageError Reading :=
  let flag := level.flags.find? (·.letter? == some letter)
  match flag, text with
  | some .help, _ => r.option flag none
  | _, [] => r.option flag none
  | _, '=' :: value => r.option flag (some (String.ofList value))
  | _, value => r.option flag (some (String.ofList value))

/-- Reads an operand. In front of the subcommand there is none. -/
def positional (r : Reading) (level : Level) (arg : String) : Except UsageError Reading :=
  match level with
  | .front =>
    .error (if r.literal && (Word.ofArgument? arg).isSome then .unknownArgument
      else .unknownSubcommand)
  | .behind _ =>
    if r.operand.isSome then .error .unknownArgument
    else do return { ← r.settle with operand := some arg }

/-- Reads an argument. -/
def argument (r : Reading) (level : Level) (arg : String) : Except UsageError Reading :=
  if r.literal then r.positional level arg
  else
    match arg.toList with
    | ['-', '-'] => .ok { r with literal := true }
    | '-' :: '-' :: text => r.named level text
    | '-' :: letter :: text => r.lettered level letter text
    | _ =>
      match r.pending with
      | some (flag, none) => .ok { r with pending := some (flag, some arg) }
      | _ => r.positional level arg

/-- Reads arguments, up to the subcommand if they stand in front of it; then that and the arguments
behind it are left. -/
def arguments (level : Level) :
    Reading → List String → Except UsageError (Reading × Option (Word × List String))
  | r, [] => .ok (r, none)
  | r, arg :: rest =>
    match Word.ofArgument? arg with
    | some word =>
      if level = .front ∧ !r.literal ∧ !r.awaitsValue then .ok (r, some (word, rest))
      else r.argument level arg >>= (arguments level · rest)
    | none => r.argument level arg >>= (arguments level · rest)

end Reading

/-! ## The whole line -/

/-- What is to be done. -/
inductive Action
  | run (program : String) (count : UInt64)
  | compile (input : String) (output : Option String)
  | dump (program : String)
deriving DecidableEq

/-- A command line that has been understood. -/
structure Invocation where
  wishes : Settings.Wishes
  action : Action

/-- How often a program is run unless the command line says otherwise. -/
def standardCount : UInt64 := 1

/-- The action of a subcommand. -/
def Subcommand.action (s : Subcommand) (operand : String) (c : Choices) : Action :=
  match s with
  | .run => .run operand (c.count.getD standardCount)
  | .compile => .compile operand c.output
  | .dump => .dump operand

/-- The wishes of two levels. -/
def joinWishes (front behind : Settings.Wishes) : Settings.Wishes :=
  ⟨behind.path.or front.path, behind.vocabulary.or front.vocabulary,
    behind.language.or front.language, behind.seed.or front.seed⟩

/-- Reads the arguments behind a subcommand. -/
def readBehind (s : Subcommand) (args : List String) : Except UsageError (Choices × String) := do
  let (r, _) ← Reading.start.arguments (.behind s) args
  let r ← r.settle
  match r.operand with
  | some operand => return (r.choices, operand)
  | none => throw .missingOperand

/-- Answers `help`, which takes the name of a subcommand or none. -/
def readHelp : List String → UsageError
  | [] => .help
  | [name] => if (Word.ofArgument? name).isSome then .help else .unknownSubcommand
  | _ => .unknownSubcommand

/-- Reads a command line. -/
def Invocation.ofArguments (args : List String) : Except UsageError Invocation := do
  let (front, found) ← Reading.start.arguments .front args
  match found with
  | some (.help, rest) => throw (readHelp rest)
  | some (.subcommand s, rest) =>
    let (behind, operand) ← readBehind s rest
    let front ← front.settle
    return ⟨joinWishes front.choices.wishes behind.wishes, s.action operand behind⟩
  | none =>
    let front ← front.settle
    throw (if front.choices.isEmpty then .helpForNothing else .missingSubcommand)

end Wordweave.Command
