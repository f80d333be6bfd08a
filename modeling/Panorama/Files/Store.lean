import Panorama.Files.Content
import Panorama.Files.Path
import Panorama.Files.Special

/-!
# File stores

The files and directories below a working directory, as a value. Paths are looked up name by name,
and the ways in which a look-up can fail are those of a file system. Of places outside the working
directory only those are known that every file system has.
-/

namespace Panorama

/-- What stands at a place. -/
inductive FileNode where
  /-- A file with its bytes. -/
  | file (content : FileContent)
  /-- A directory. -/
  | directory
  /-- A special file. -/
  | special (file : SpecialFile)
  deriving DecidableEq

/-- A place: names from the working directory downwards, after `..` for each directory above it,
or after `/` for the root. -/
abbrev Place := List String

/-- The files and directories below a working directory. -/
structure FileStore where
  /-- What stands at which place. -/
  nodes : List (Place × FileNode)
  /-- What was written to the file that prints. -/
  printed : FileContent

namespace FileStore

/-- A store without files. -/
def empty : FileStore := ⟨[], .empty⟩

/-- The directories below the root. -/
def rootDirectories : List String :=
  ["bin", "boot", "dev", "etc", "home", "lib", "media", "mnt", "opt", "proc", "root", "run", "sbin",
    "srv", "sys", "tmp", "usr", "var"]

/-- What stands at a place in every file system. -/
def common? (place : Place) : Option FileNode :=
  match place with
  | ["/"] => some .directory
  | ["/", name] => if rootDirectories.contains name then some .directory else none
  | ["/", "dev", name] => (SpecialFile.named? name).map .special
  | names => if names.all (· = "..") then some .directory else none

/-- What stands at a place. -/
def node? (store : FileStore) (place : Place) : Option FileNode :=
  common? place <|> (store.nodes.find? (·.1 = place)).map Prod.snd

/-- Put something at a place, instead of what stands there. -/
def put (store : FileStore) (place : Place) (node : FileNode) : FileStore :=
  { store with nodes := store.nodes.filter (·.1 ≠ place) ++ [(place, node)] }

/-- The directory above a place. -/
def above (place : Place) : Place :=
  if place = ["/"] then place
  else if place.all (· = "..") then ".." :: place
  else place.dropLast

/-- The place that a name leads to from a directory. -/
def enter (place : Place) (name : String) : Except DeviceFailure Place :=
  if name = "" ∨ name = "." then .ok place
  else if name = ".." then .ok (above place)
  else if 255 < name.utf8ByteSize then .error .nameTooLong
  else .ok (place ++ [name])

/-- The place that names lead to. All but the last one must stand for directories. -/
def follow (store : FileStore) (place : Place) : List String → Except DeviceFailure Place
  | [] => .ok place
  | name :: rest =>
    match store.node? place with
    | some .directory => do store.follow (← enter place name) rest
    | some _ => .error .notADirectory
    | none => .error .noSuchFile

/-- Bytes that no path can have. -/
def pathLimit : Nat := 4096

/-- Where a path starts, and the names it goes on with. -/
def origin (path : String) : Except DeviceFailure (Place × List String) :=
  if path.isEmpty then .error .noSuchFile
  else if path.toList.contains '\x00' then .error .invalidName
  else if pathLimit ≤ path.utf8ByteSize then .error .nameTooLong
  else if Path.isAbsolute path then .ok (["/"], (Path.pieces path).drop 1)
  else .ok ([], Path.pieces path)

/-- The place that a path leads to. -/
def locate (store : FileStore) (path : String) : Except DeviceFailure Place := do
  let (start, names) ← origin path
  store.follow start names

/-- The place of a file that is made at a path. There must be no directory at it, and a slash
behind its name asks for one. -/
def locateFile (store : FileStore) (path : String) : Except DeviceFailure Place := do
  let (start, names) ← origin path
  let name := Path.trimSlashes names
  if path.endsWith "/" && Path.endsInName name then
    let _ ← store.follow start (name.dropLast ++ ["."])
    throw .isADirectory
  let place ← store.follow start names
  if store.node? place = some .directory then throw .isADirectory
  return place

/-- Open a file for reading. A directory can be opened, but reading it fails. -/
def openFile (store : FileStore) (path : String) : Except DeviceFailure Source := do
  match store.node? (← store.locate path) with
  | some (.file content) => return .ofBytes content.toList
  | some (.special file) => return file.source
  | some .directory => return .failing .isADirectory
  | none => throw .noSuchFile

/-- Read a whole file. -/
def readFile (store : FileStore) (path : String) : Except DeviceFailure (List UInt8) := do
  let source ← store.openFile path
  match source.failure with
  | some failure => throw failure
  | none => return source.bytes

/-- Write bytes to a special file. -/
def writeSpecial (store : FileStore) (file : SpecialFile) (bytes : List UInt8) :
    Except DeviceFailure FileStore :=
  match file with
  | .null | .zero => .ok store
  | .full => if bytes.isEmpty then .ok store else .error .noSpace
  | .output => .ok { store with printed := store.printed.append bytes }

/-- Make a file, or replace what it holds. -/
def writeFile (store : FileStore) (path : String) (content : List UInt8) :
    Except DeviceFailure FileStore := do
  let place ← store.locateFile path
  match store.node? place with
  | some (.special file) => store.writeSpecial file content
  | _ => return store.put place (.file (.ofList content))

/-- Write bytes into the file at a path, if there is one, from a position on. -/
def writeAt (store : FileStore) (path : String) (position : Nat) (bytes : List UInt8) :
    Except DeviceFailure FileStore :=
  match store.locate path with
  | .error _ => .ok store
  | .ok place =>
    match store.node? place with
    | some (.file content) => .ok (store.put place (.file (content.write position bytes)))
    | some (.special file) => store.writeSpecial file bytes
    | _ => .ok store

/-- Whether a path leads to a directory. -/
def isDirectory (store : FileStore) (path : String) : Bool :=
  match store.locate path with
  | .ok place => store.node? place = some .directory
  | .error _ => false

/-- Make a directory. Nothing must stand at its path, and a directory above it. -/
def makeDirectory (store : FileStore) (path : String) : Except DeviceFailure FileStore := do
  let (start, names) ← origin path
  let names := Path.trimSlashes names
  let parent ← store.follow start (names.dropLast ++ ["."])
  if Path.endsInName names then
    let place ← enter parent (names.getLast?.getD "")
    if (store.node? place).isSome then throw .alreadyExists
    return store.put place .directory
  else throw .alreadyExists

/-- Make a directory unless there is one. -/
def ensureDirectory (store : FileStore) (path : String) : Except DeviceFailure FileStore :=
  match store.makeDirectory path with
  | .ok store => .ok store
  | .error failure => if store.isDirectory path then .ok store else .error failure

/-- Make a directory unless there is one, given with the directories above it, nearest first. These
are made only if it cannot be made without them. -/
def ensureAll (store : FileStore) : List String → Except DeviceFailure FileStore
  | [] => .ok store
  | path :: above =>
    match store.ensureDirectory path with
    | .error .noSuchFile => do (← store.ensureAll above).ensureDirectory path
    | result => result

/-- Make a directory with all directories above it. -/
def makeDirectories (store : FileStore) (path : String) : Except DeviceFailure FileStore :=
  store.ensureAll (Path.ancestors path)

/-- The bytes of the file at a path. -/
def content? (store : FileStore) (path : String) : Option (List UInt8) :=
  match store.locate path with
  | .ok place =>
    match store.node? place with
    | some (.file content) => some content.toList
    | some (.special _) => some []
    | _ => none
  | .error _ => none

end FileStore

end Panorama
