/-!
# Paths

Paths are text. A slash separates names, and a path that starts with one is absolute. Nothing is
normalized: joining puts two texts together, and only the parent of a path drops trailing slashes
and dots, which name nothing.
-/

namespace Panorama.Path

/-- The pieces between slashes. -/
def pieces (path : String) : List String :=
  (path.toList.splitOn '/').map String.ofList

/-- Whether a path starts at the root. -/
def isAbsolute (path : String) : Bool :=
  path.startsWith "/"

/-- A path below a directory, unless it is absolute. -/
def join (directory path : String) : String :=
  if isAbsolute path || directory.isEmpty then path
  else if directory.endsWith "/" then directory ++ path
  else directory ++ "/" ++ path

/-- Pieces without the empty ones and the dots at the end. -/
def trimEnd (names : List String) : List String :=
  (names.reverse.dropWhile fun name ↦ name = "" || name = ".").reverse

/-- Pieces without the empty ones at the end. -/
def trimSlashes (names : List String) : List String :=
  (names.reverse.dropWhile (· = "")).reverse

/-- Whether the last piece is a name, and not one of the dots. -/
def endsInName (names : List String) : Bool :=
  match names.getLast? with
  | none | some "" | some "." | some ".." => false
  | some _ => true

/-- The directory of a path: all but its last name. The root has none, nor has an empty path. -/
def parent? (path : String) : Option String :=
  let root := if isAbsolute path then "/" else ""
  let names := pieces path
  let leading := if isAbsolute path then [""] else names.take 1 |>.filter (· = ".")
  let body := trimEnd (names.drop leading.length)
  if body.isEmpty then
    if leading.contains "." then some "" else none
  else
    let rest := trimEnd body.dropLast
    if isAbsolute path then some (root ++ "/".intercalate rest)
    else some ("/".intercalate (leading ++ rest))

/-- A path and at most `count` directories above it. The empty path and the root do not count. -/
def ancestorsWithin (path : String) : Nat → List String
  | 0 => []
  | count + 1 =>
    match parent? path with
    | none => []
    | some directory => path :: ancestorsWithin directory count

/-- A path and the directories above it, up to the root or to the first name. A directory has fewer
pieces than what is in it. -/
def ancestors (path : String) : List String :=
  ancestorsWithin path ((pieces path).length + 1)

/-- The last name of a path, if it has one. -/
def fileName? (path : String) : Option String :=
  match (trimEnd (pieces path)).getLast? with
  | some ".." => none
  | name => name

/-- What follows the last dot of the last name; a dot in front of the name does not count. -/
def extension? (path : String) : Option String := do
  let name ← fileName? path
  match (name.splitOn ".").reverse with
  | last :: before =>
    if before.isEmpty || (String.intercalate "." before.reverse).isEmpty then none else some last
  | [] => none

end Panorama.Path
