import Panorama.Files.Store

/-!
# Open inputs

A file that is read from its start on, one frame after the other. Bytes are read ahead into a
buffer. When the file is replaced, the bytes in the buffer are still read, and then what stands
behind them in the new file.
-/

namespace Panorama

/-- A file that is being read. -/
structure FileInput where
  /-- Path of the file. -/
  path : String
  /-- What is left of it. -/
  source : Source
  /-- Number of bytes in all frames that were read. -/
  taken : Nat
  /-- Number of bytes that were read ahead, as far as the file has them. -/
  ahead : Nat
  deriving DecidableEq

namespace FileInput

/-- Bytes that the buffer can hold. -/
def capacity : Nat := 8192

/-- An input at the start of a file. A file that cannot be opened fails when it is read. -/
def start (store : FileStore) (path : String) : FileInput :=
  match store.openFile path with
  | .ok source => ⟨path, source, 0, 0⟩
  | .error failure => ⟨path, .failing failure, 0, 0⟩

/-- Bytes that are read ahead after `length` further ones. The buffer is filled when it is empty,
except for a piece that would empty all of it again. -/
def aheadAfter (ahead length : Nat) : Nat :=
  if length ≤ ahead then ahead - length
  else if capacity ≤ length - ahead then 0
  else capacity - (length - ahead)

/-- The input behind a frame that was read in pieces of the given lengths, with what is left. -/
def advance (input : FileInput) (lengths : List Nat) (source : Source) : FileInput where
  path := input.path
  source := source
  taken := lengths.foldl (· + ·) input.taken
  ahead := lengths.foldl aheadAfter input.ahead

/-- The input after its file was replaced by other bytes. -/
def replaced (input : FileInput) (content : List UInt8) : FileInput :=
  let buffered := input.source.bytes.take input.ahead
  { input with source := .ofBytes (buffered ++ content.drop (input.taken + buffered.length)) }

/-- The input after a file was written, which may be the one that it reads. -/
def afterWriting (input : FileInput) (store : FileStore) (path : String) : FileInput :=
  match store.locate input.path, store.locate path with
  | .ok place, .ok written =>
    if place = written then input.replaced ((store.content? path).getD []) else input
  | _, _ => input

end FileInput

end Panorama
