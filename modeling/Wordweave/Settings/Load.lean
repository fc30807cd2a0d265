import Wordweave.Files
import Wordweave.Json.Reader
import Wordweave.Message
import Wordweave.Settings.Key
import Wordweave.Settings.Value
import Wordweave.Toml.Moment

/-!
# Wordweave — settings

What a run is set to: the language of its messages, its vocabulary and its seed. Settings come from
four places, each of which overrides those before it: the defaults, a file, the environment and the
caller. Names are the same in all cases of their letters, and names of no setting are passed over.

The file is the one that the caller or the environment names, which must be there, or else the file
`phrasal` if there is one. A file is read by the extension of its name; if no file has the name
itself, the extensions are tried behind it.
-/

namespace Wordweave

/-- What a run is set to. -/
structure Settings where
  language : String
  vocabulary : Option String
  seed : Option UInt64
deriving DecidableEq

namespace Settings

/-- Why there are no settings. -/
inductive Fault
  /-- The file cannot be read; its path, if it was named. -/
  | unreadable (path : Option String)
  /-- A value does not fit its setting. -/
  | invalid
deriving DecidableEq

/-- The wording of a fault. -/
def Fault.message : Fault → String
  | .unreadable (some path) => "Failed to read config file " ++ path
  | .unreadable none => "Failed to read configuration"
  | .invalid => "Invalid configuration"

/-- What the caller asks for. -/
structure Wishes where
  path : Option String
  vocabulary : Option String
  language : Option String
  seed : Option UInt64

/-- The wishes of a caller who has none. -/
def Wishes.none : Wishes := ⟨.none, .none, .none, .none⟩

/-- The variables of the environment in the order of their names. -/
abbrev Environment := List (String × String)

/-! ## Names and values -/

/-- Names with their values, each name once. -/
abbrev Given := List (String × SettingValue)

/-- The value of a name. -/
def given? (g : Given) (name : String) : Option SettingValue :=
  (g.find? (·.1 == name)).map (·.2)

/-- Gives a name a value. An empty table changes no value that is there. -/
def give (g : Given) (name : String) (value : SettingValue) : Given :=
  let name := Text.lowercase name
  match given? g name, value with
  | some _, .table true => g
  | some _, _ => g.map fun e => if e.1 == name then (name, value) else e
  | none, _ => g ++ [(name, value)]

/-- Gives what a key stands for its value. A key that leads into the value of a name makes that value
a table or a list, whatever it was. -/
def giveKey (g : Given) (key : String) (value : SettingValue) : Given :=
  let key := Key.ofText key
  match key.steps with
  | [] => give g key.name value
  | .child _ :: _ => give g key.name (.table false)
  | .item _ :: _ => give g key.name .array

/-- Gives several keys their values, in order. -/
def giveAll (g : Given) (values : Given) : Given := values.foldl (fun g (k, v) => giveKey g k v) g

/-- The values before any other. -/
def defaults : Given := [("language", .text Catalog.english.language)]

/-! ## The file -/

/-- The name of the file that is looked for if none is named. -/
def standardFile : String := "phrasal"

/-- The formats of settings. -/
inductive Format
  | toml
  | json
deriving DecidableEq

/-- All formats, in the order in which they are tried. -/
def Format.all : List Format := [.toml, .json]

/-- The extension of a format. -/
def Format.extension : Format → String
  | .toml => "toml"
  | .json => "json"

/-- Of members with one name, the last. -/
def lastOfEach : List (String × Json) → List (String × Json)
  | [] => []
  | (name, j) :: rest =>
    if rest.any (·.1 == name) then lastOfEach rest else (name, j) :: lastOfEach rest

/-- The values in a text. -/
def Format.values? (format : Format) (text : String) : Option Given :=
  match format with
  | .toml => do
    match ← Toml.withMoments? (.table (← Toml.entriesOfText? text)) with
    | .table entries => return entries.map fun (name, v) => (name, .ofToml v)
    | _ => none
  | .json =>
    match Json.ofText text with
    | .ok (.object members) => some ((lastOfEach members).map fun (name, j) => (name, .ofJson j))
    | _ => none

/-- The file of a path, and its format; `none` if there is no file that can be read. -/
def findFile? (files : Files) (path : String) : Option (String × Format) :=
  if files.isFile path then do
    let extension ← Files.extension? path
    let format ← Format.all.find? (·.extension == extension)
    return (path, format)
  else
    (Files.upToName? path).bind fun name =>
      Format.all.findSome? fun format =>
        let longer := name ++ "." ++ format.extension
        if files.isFile longer then some (longer, format) else none

/-- The bytes after the mark of their encoding, if they begin with one. -/
def skipMark : List UInt8 → List UInt8
  | 0xEF :: 0xBB :: 0xBF :: rest => rest
  | bytes => bytes

/-- The text of the file of a path, and its format. -/
def readFile? (files : Files) (path : String) : Option (String × Format) := do
  let (path, format) ← findFile? files path
  let bytes ← (files.read path).toOption
  return (Text.Utf8.decodeAny (skipMark bytes), format)

/-- The values in the file of a path. -/
def fileValues (files : Files) (path : Option String) : Except Fault Given :=
  match readFile? files (path.getD standardFile) with
  | some (text, format) =>
    match format.values? text with
    | some values => .ok values
    | none => .error (.unreadable path)
  | none => if path.isSome then .error (.unreadable path) else .ok []

/-! ## The environment -/

/-- What the names of settings begin with in the environment, in lower case. -/
def environmentPrefix : String := "phrasal_"

/-- The variable that names the file. -/
def pathVariable : String := "PHRASAL_CONFIG_PATH"

/-- The values in the environment. -/
def environmentValues (environment : Environment) : Given :=
  environment.filterMap fun (name, text) =>
    let name := (Text.lowercase name).toList
    if environmentPrefix.toList.isPrefixOf name then
      some (String.ofList (name.drop environmentPrefix.length), .text text)
    else none

/-! ## All together -/

/-- The values that a caller asks for. A number is handed on in its digits. -/
def Wishes.values (w : Wishes) : Given :=
  [ w.vocabulary.map fun s => ("vocabulary", .text s),
    w.language.map fun s => ("language", .text s),
    w.seed.map fun n => ("seed", .integer n.toNat) ].reduceOption

/-- A setting that may be absent: not given, or null. -/
def optional {α : Type} (read : SettingValue → Option α) : Option SettingValue → Option (Option α)
  | none | some .null => some none
  | some v => (read v).map some

/-- The settings of some values. -/
def ofGiven? (g : Given) : Option Settings := do
  let language ← given? g "language" >>= SettingValue.toText?
  let vocabulary ← optional SettingValue.toText? (given? g "vocabulary")
  let seed ← optional SettingValue.toWord? (given? g "seed")
  return ⟨language, vocabulary, seed⟩

/-- The settings for some wishes. -/
def load (files : Files) (environment : Environment) (w : Wishes) : Except Fault Settings := do
  let named := w.path.or ((environment.find? (·.1 == pathVariable)).map (·.2))
  let values ← fileValues files named
  let g := giveAll (giveAll (giveAll defaults values) (environmentValues environment)) w.values
  match ofGiven? g with
  | some settings => return settings
  | none => throw .invalid

end Settings

end Wordweave
