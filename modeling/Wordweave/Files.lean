import Wordweave.Text.Utf8

/-!
# Wordweave — files

A tree of directories as a value: the files in it by the names on the way to them, the directories
without files, and the directory from which paths start. A path is followed name by name, so that
every name but the last must be a directory; the directory above the root is the root.
-/

namespace Wordweave

/-- Why a file cannot be read or written. -/
inductive FileFault
  | notFound
  | notADirectory
  | isADirectory
  | nameTooLong
  /-- The path holds the character that ends paths. -/
  | nulInPath
deriving DecidableEq

/-- The wording of a fault. -/
def FileFault.message : FileFault → String
  | .notFound => "No such file or directory (os error 2)"
  | .notADirectory => "Not a directory (os error 20)"
  | .isADirectory => "Is a directory (os error 21)"
  | .nameTooLong => "File name too long (os error 36)"
  | .nulInPath => "file name contained an unexpected NUL byte"

/-- The names on the way from the root. -/
abbrev Route := List String

/-- Directories and files. -/
structure Files where
  /-- The directory from which paths start. -/
  here : Route
  /-- Directories that are there even if no file is below them. -/
  folders : List Route
  entries : List (Route × List UInt8)

namespace Files

/-- The bytes of the file at the end of a route. -/
def bytes? (fs : Files) (route : Route) : Option (List UInt8) :=
  (fs.entries.find? (·.1 == route)).map (·.2)

/-- Whether a route leads to a directory. -/
def isDirectory (fs : Files) (route : Route) : Bool :=
  route.isPrefixOf fs.here || fs.folders.any route.isPrefixOf ||
    fs.entries.any fun e => route.isPrefixOf e.1 && e.1 != route

/-- Puts a file at the end of a route. -/
def put (fs : Files) (route : Route) (bytes : List UInt8) : Files :=
  if (fs.bytes? route).isSome then
    { fs with entries := fs.entries.map fun e => if e.1 == route then (route, bytes) else e }
  else { fs with entries := fs.entries ++ [(route, bytes)] }

/-! ## Paths -/

/-- The parts of a path between its slashes. -/
def partsOf (path : String) : List (List Char) :=
  let (first, others) := path.toList.foldr
    (fun c (part, parts) => if c = '/' then ([], part :: parts) else (c :: part, parts))
    (([], []) : List Char × List (List Char))
  first :: others

/-- Whether a part of a path stays where it stands. -/
def staysHere (part : List Char) : Bool := part.isEmpty || part == ['.']

/-- Whether a part of a path leads to the directory above. -/
def leadsUp (part : List Char) : Bool := part == ['.', '.']

/-- The most bytes that a name may have. -/
def nameLimit : Nat := 255

/-- The most bytes that a path may have. -/
def pathLimit : Nat := 4095

/-- Makes sure that a route leads to a directory. -/
def inside (fs : Files) (route : Route) : Except FileFault Unit :=
  if fs.isDirectory route then .ok ()
  else .error (if (fs.bytes? route).isSome then .notADirectory else .notFound)

/-- Follows one part of a path. -/
def enter (fs : Files) (route : Route) (part : List Char) : Except FileFault Route := do
  fs.inside route
  if staysHere part then return route
  if leadsUp part then return route.dropLast
  let name := String.ofList part
  if nameLimit < name.utf8ByteSize then throw .nameTooLong
  return route ++ [name]

/-- Follows the parts of a path. The last part may name what is not there. -/
def follow (fs : Files) (start : Route) (parts : List (List Char)) : Except FileFault Route :=
  parts.foldlM fs.enter start

/-- Where a path starts: here, or at the root if it begins with a slash. A path that no directory
could hold is refused. -/
def start (fs : Files) (path : String) : Except FileFault Route :=
  if path.contains '\x00' then .error .nulInPath
  else if path.isEmpty then .error .notFound
  else if pathLimit < path.utf8ByteSize then .error .nameTooLong
  else .ok (if path.startsWith "/" then [] else fs.here)

/-- The bytes of a file. -/
def read (fs : Files) (path : String) : Except FileFault (List UInt8) := do
  let route ← fs.follow (← fs.start path) (partsOf path)
  match fs.bytes? route with
  | some bytes => return bytes
  | none => throw (if fs.isDirectory route then .isADirectory else .notFound)

/-- Whether a path leads to a file. -/
def isFile (fs : Files) (path : String) : Bool := (fs.read path).isOk

/-- Writes a file. Its directory must be there. A path with a slash at its end asks for a directory,
whether there is one or not. -/
def write (fs : Files) (path : String) (bytes : List UInt8) : Except FileFault Files := do
  let start ← fs.start path
  let backwards := (partsOf path).reverse
  match backwards.dropWhile List.isEmpty with
  | [] => throw .isADirectory
  | last :: before =>
    let directory ← fs.follow start before.reverse
    fs.inside directory
    if staysHere last || leadsUp last || backwards.head? != some last then throw .isADirectory
    let route ← fs.enter directory last
    if fs.isDirectory route then throw .isADirectory
    return fs.put route bytes

/-! ## Names -/

/-- A path up to its last name; slashes and single points behind it name nothing. -/
def upToName? (path : String) : Option String :=
  match (partsOf path).reverse.dropWhile staysHere with
  | [] => none
  | name :: before =>
    if leadsUp name then none
    else some ("/".intercalate ((name :: before).reverse.map String.ofList))

/-- A path without its last part, and that part. -/
def splitName (path : List Char) : List Char × List Char :=
  let name := (path.reverse.takeWhile (· != '/')).reverse
  (path.take (path.length - name.length), name)

/-- A name in front of its last point and the text behind it, if there is something in front. -/
def splitExtension (name : List Char) : List Char × Option (List Char) :=
  let extension := (name.reverse.takeWhile (· != '.')).reverse
  let stem := name.take (name.length - extension.length - 1)
  if extension.length = name.length || stem.isEmpty || leadsUp name then (name, none)
  else (stem, some extension)

/-- The text behind the last point of a file's name. -/
def extension? (path : String) : Option String :=
  (splitExtension (splitName path.toList).2).2.map String.ofList

/-- A path with another text behind the last point of its name. Where the name up to that point
leads up, as in `..json`, nothing can stand behind it. -/
def withExtension (path extension : String) : String :=
  let (directory, name) := splitName path.toList
  let (stem, old) := splitExtension name
  let upToPoint := stem ++ ['.']
  if old.isSome && leadsUp upToPoint then String.ofList (directory ++ upToPoint)
  else String.ofList (directory ++ upToPoint ++ extension.toList)

end Files

end Wordweave
