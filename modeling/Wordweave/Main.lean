import Wordweave.Command.Execute

/-!
# Wordweave — the program

The command line on the files and the environment of the machine. Before a command is carried out,
what it may read is gathered into a value: its program, its vocabulary, the files of its settings,
and the directory that it may write to. Afterwards the files that have changed are written.
-/

namespace Wordweave.Command

/-- The help text. -/
def helpText : String :=
  "Usage: phrasal [OPTIONS] <COMMAND>\n\n" ++
  "Commands:\n" ++
  "  run <PROGRAM> [-n <COUNT>]     Run a program and print its output\n" ++
  "  compile <INPUT> [-o <OUTPUT>]  Compile a program into the binary format\n" ++
  "  dump <PROGRAM>                 Print a program as JSON\n\n" ++
  "Options:\n" ++
  "  --config <PATH>      Settings file\n" ++
  "  --vocabulary <PATH>  Vocabulary file\n" ++
  "  --language <NAME>    Language of the messages\n" ++
  "  --seed <NUMBER>      Seed for reproducible output\n"

/-- The wording of a usage error. -/
def UsageError.message : UsageError → String
  | .help | .helpForNothing => helpText
  | .unknownArgument => "an argument is unknown"
  | .unknownSubcommand => "the command is unknown"
  | .missingSubcommand => "a command is missing"
  | .missingOperand => "the command needs a file"
  | .missingValue => "an option needs a value"
  | .wrongValue => "the value of an option is not of the right form"
  | .needlessValue => "an option takes no value"
  | .repeated => "an option is given twice"

/-- The route of a path, by its text alone. -/
def routeOf (here : Route) (path : String) : Route :=
  (Files.partsOf path).foldl (fun route part =>
    if Files.staysHere part then route
    else if Files.leadsUp part then route.dropLast
    else route ++ [String.ofList part]) (if path.startsWith "/" then [] else here)

/-- The directory in front of the last name of a path. -/
def directoryOf (path : String) : String :=
  let directory := (Files.splitName path.toList).1
  if directory.isEmpty then "." else String.ofList directory

/-- Takes what stands under a path into a tree of files. -/
def gather (files : Files) (path : String) : IO Files := do
  let route := routeOf files.here path
  try
    let bytes ← IO.FS.readBinFile path
    return files.put route bytes.toList
  catch e =>
    match e with
    | .inappropriateType _ 21 _ => return { files with folders := route :: files.folders }
    | _ => return files

/-- The paths under which the files of settings are looked for. -/
def settingsPaths (path : String) : List String :=
  path :: Settings.Format.all.map fun format =>
    ((Files.upToName? path).getD path) ++ "." ++ format.extension

/-- The paths that an action reads, or writes into. -/
def Action.paths : Action → List String
  | .run path _ => [path]
  | .compile input output =>
    let output := output.getD (Files.withExtension input compiledExtension)
    [input, output, directoryOf output]
  | .dump path => [path]

/-- The variables of the environment that settings may come from. -/
def environmentNames : List String :=
  [Settings.pathVariable, "PHRASAL_LANGUAGE", "PHRASAL_SEED", "PHRASAL_VOCABULARY"]

/-- The environment, as far as settings may come from it. -/
def readEnvironment : IO Settings.Environment := do
  environmentNames.filterMapM fun name => do
    return (← IO.getEnv name).map fun value => (name, value)

/-- The surroundings of a command. -/
def readSurroundings (i : Invocation) : IO Surroundings := do
  let environment ← readEnvironment
  let here := routeOf [] (toString (← IO.currentDir))
  let chance := (← IO.getRandomBytes 8).toList.foldl (fun n b => n * 256 + b.toUInt64) 0
  let settingsPath := (i.wishes.path.or ((environment.find? (·.1 == Settings.pathVariable)).map
    (·.2))).getD Settings.standardFile
  let files ← (i.action.paths ++ settingsPaths settingsPath).foldlM gather ⟨here, [], []⟩
  let files ← match Settings.load files environment i.wishes with
    | .ok settings => settings.vocabulary.toList.foldlM gather files
    | .error _ => pure files
  return ⟨files, environment, chance⟩

/-- Writes the files that a command has changed. -/
def writeChanges (before after : Files) : IO Unit :=
  after.entries.forM fun (route, bytes) => do
    if before.bytes? route != some bytes then
      IO.FS.writeBinFile ("/" ++ "/".intercalate route) ⟨bytes.toArray⟩

end Wordweave.Command

open Wordweave.Command in
/-- Carries out the command line. A command that fails ends with 1, one that is not understood
with 2. -/
def main (arguments : List String) : IO UInt32 := do
  match Invocation.ofArguments arguments with
  | .error .help =>
    IO.print helpText
    return 0
  | .error e =>
    IO.eprintln e.message
    return 2
  | .ok i =>
    let s ← readSurroundings i
    match execute s i with
    | .ok result =>
      writeChanges s.files result.files
      IO.print result.text
      return 0
    | .error failure =>
      IO.eprintln (": ".intercalate ("Error" :: failure.steps ++ [failure.cause.message]))
      return 1
