import Panorama.CommandLine.Paths

/-!
# The executable

Looks at the files that a command line names, runs the program on them, and writes what has
changed.
-/

namespace Panorama.CommandLine

/-- What stands at a path of the file system. -/
def look (path : String) : IO (Option FileNode) := do
  try
    let bytes ← IO.FS.readBinFile path
    return some (.file (.ofList bytes.toList))
  catch
    | .noFileOrDirectory .. => return none
    | _ => return some .directory

/-- A store with what stands at a path and above it. -/
def take (store : FileStore) (path : String) : IO FileStore :=
  (Path.beginnings path).foldlM (fun store path ↦ do
    match store.locate path with
    | .error _ => return store
    | .ok place =>
      if (FileStore.common? place).isSome then return store
      match ← look path with
      | some node => return store.put place node
      | none => return store) store

/-- Make a place of the file system what it is in a store. -/
def write (path : String) : FileNode → IO Unit
  | .directory => IO.FS.createDirAll path
  | .file content => IO.FS.writeBinFile path ⟨content.toArray⟩
  | .special _ => return

end Panorama.CommandLine

open Panorama CommandLine in
/-- Run the program with the words of its command line. -/
def main (words : List String) : IO UInt32 := do
  let request := Request.ofWords words
  let store ← request.paths.foldlM take FileStore.empty
  let store ← (request.configuredPaths store).foldlM take store
  let conclusion := request.run store
  for (path, node) in store.changes conclusion.store do
    write path node
  if conclusion.store.printed.size = 0 then IO.print conclusion.stdout
  else (← IO.getStdout).write ⟨conclusion.store.printed.toArray⟩
  IO.eprint conclusion.stderr
  return conclusion.ending.code
