import Panorama.Files.Store

/-!
# Buffered writing

A file that is written from its start on. Bytes are collected in a buffer and laid over what the
file holds when the buffer is full, or when it is flushed. Two writers of one file do not know of
each other. Writing to a special file can fail.
-/

namespace Panorama

/-- A file that is being written. -/
structure FileWriter where
  /-- Path of the file. -/
  path : String
  /-- Number of bytes that have left the buffer. -/
  written : Nat
  /-- The bytes in the buffer. -/
  pending : Array UInt8
  deriving DecidableEq, Repr

namespace FileWriter

/-- Bytes that the buffer can hold. -/
def capacity : Nat := 8192

/-- A writer at the start of a file. -/
def start (path : String) : FileWriter := ⟨path, 0, #[]⟩

/-- A writer and the files that it writes to, or why it could not write. -/
abbrev Written := Except DeviceFailure (FileWriter × FileStore)

/-- Write bytes into the file, past the buffer. -/
def pass (writer : FileWriter) (bytes : List UInt8) (store : FileStore) : Written := do
  let store ← store.writeAt writer.path writer.written bytes
  return ({ writer with written := writer.written + bytes.length }, store)

/-- Empty the buffer into the file. -/
def flush (writer : FileWriter) (store : FileStore) : Written :=
  if writer.pending.isEmpty then .ok (writer, store)
  else { writer with pending := #[] }.pass writer.pending.toList store

/-- Empty the buffer if it has no room for a number of bytes. -/
def makeRoom (writer : FileWriter) (count : Nat) (store : FileStore) : Written :=
  if capacity < writer.pending.size + count then writer.flush store else .ok (writer, store)

/-- Write bytes. What would fill the whole buffer goes past it. -/
def write (writer : FileWriter) (bytes : List UInt8) (store : FileStore) : Written := do
  let (writer, store) ← writer.makeRoom bytes.length store
  if capacity ≤ bytes.length then writer.pass bytes store
  else return ({ writer with pending := writer.pending ++ bytes }, store)

/-- Write several pieces in order. -/
def writeAll (writer : FileWriter) (pieces : List (List UInt8)) (store : FileStore) : Written :=
  pieces.foldlM (fun (writer, store) bytes ↦ writer.write bytes store) (writer, store)

end FileWriter

end Panorama
