import Wordweave.Command.Arguments
import Wordweave.Form.Program
import Wordweave.Run.Machine
import Wordweave.Vocabulary.File
import Wordweave.Wire.Container

/-!
# Wordweave — what the commands do

`run` prints what a program puts out, `compile` writes its compiled form and `dump` prints it as
JSON. Each of them works on the files of a directory and gives a text to print; `compile` also gives
the files after it.

A failure has a cause, and the steps that led to it, the outermost first.
-/

namespace Wordweave.Command

/-- Why a command fails. -/
inductive Cause
  | settings
  | file (fault : FileFault)
  /-- A file holds no text. -/
  | noText
  | vocabulary (fault : Vocabulary.TextFault)
  | compiled (error : Wire.Error)
  | json (fault : Json.Fault)
  /-- A file cannot be written. -/
  | output (fault : FileFault)

/-- The wording of a cause. -/
def Cause.message : Cause → String
  | .settings => "The settings cannot be used"
  | .file fault => fault.message
  | .noText => "The file is no text"
  | .vocabulary .unreadable => "The text describes no tables"
  | .vocabulary (.refused fault) => fault.message
  | .compiled error => error.message
  | .json .mismatch => "The text is no program"
  | .json .malformed => "The text is not written properly"
  | .json .endsEarly => "The text ends too early"
  | .output fault => "I/O error: " ++ fault.message

/-- A cause with the steps that led to it. -/
structure Failure where
  steps : List String
  cause : Cause

/-- What a command works on. -/
structure Surroundings where
  files : Files
  environment : Settings.Environment
  /-- The seed of a run that is given none. -/
  chance : UInt64

/-- What a command leaves: the text to print, and the files. -/
structure Result where
  text : String
  files : Files

/-- What was done, or else a failure of a step. -/
def failing {ε α : Type} (steps : List String) (cause : ε → Cause) :
    Except ε α → Except Failure α
  | .ok a => .ok a
  | .error e => .error ⟨steps, cause e⟩

/-! ## Loading -/

/-- The program in a file, which is compiled or JSON. -/
def loadProgram (files : Files) (path : String) : Except Failure Program := do
  let bytes ← failing ["Failed to read " ++ path] .file (files.read path)
  if Wire.isCompiled bytes then
    failing ["Failed to load compiled program " ++ path] .compiled (Wire.programOfBytes bytes)
  else
    failing ["Failed to parse JSON program " ++ path] .json (Program.ofJsonBytes bytes)

/-- The vocabulary in a file. -/
def loadVocabulary (files : Files) (path : String) : Except Failure Vocabulary := do
  let steps := ["Failed to load vocabulary " ++ path]
  let bytes ← failing steps .file (files.read path)
  let text ← failing steps (fun _ => .noText) (Text.Utf8.decode bytes)
  failing steps .vocabulary (Vocabulary.ofText text)

/-- The scene of some settings. -/
def loadScene (files : Files) (settings : Settings) : Except Failure Scene := do
  let catalog := Catalog.ofLanguage settings.language
  match settings.vocabulary with
  | some path => return .ofVocabulary (some (← loadVocabulary files path)) catalog
  | none => return .ofVocabulary none catalog

/-! ## Commands -/

/-- What `count` runs print, each on a line and with the seed after that of the one before. -/
def runs (p : Program) (scene : Scene) : (count : Nat) → (seed : UInt64) → List String
  | 0, _ => []
  | count + 1, seed => (p.output scene seed).text :: "\n" :: runs p scene count (seed + 1)

/-- Runs a program. -/
def run (s : Surroundings) (w : Settings.Wishes) (path : String) (count : UInt64) :
    Except Failure Result := do
  let settings ← match Settings.load s.files s.environment w with
    | .ok settings => pure settings
    | .error fault => throw ⟨["Failed to load configuration", fault.message], .settings⟩
  let scene ← loadScene s.files settings
  let p ← loadProgram s.files path
  return ⟨String.join (runs p scene count.toNat (settings.seed.getD s.chance)), s.files⟩

/-- The extension of compiled programs. -/
def compiledExtension : String := "pgm"

/-- Compiles a program. -/
def compile (s : Surroundings) (input : String) (output : Option String) :
    Except Failure Result := do
  let p ← loadProgram s.files input
  let path := output.getD (Files.withExtension input compiledExtension)
  let steps := ["Failed to write " ++ path]
  -- The file is made before anything is written to it.
  let files ← failing steps .output (s.files.write path [])
  let bytes ← failing steps .compiled (Wire.writeProgram p)
  let files ← failing steps .output (files.write path bytes)
  return ⟨"Compiled " ++ input ++ " -> " ++ path ++ "\n", files⟩

/-- Prints a program. -/
def dump (s : Surroundings) (path : String) : Except Failure Result := do
  return ⟨(← loadProgram s.files path).toJsonText ++ "\n", s.files⟩

/-- Does what a command line asks for. -/
def execute (s : Surroundings) (i : Invocation) : Except Failure Result :=
  match i.action with
  | .run path count => run s i.wishes path count
  | .compile input output => compile s input output
  | .dump path => dump s path

end Wordweave.Command
