/-!
# File contents

The bytes of a file, kept in the pieces in which they were written one behind the other. What is
written at the end of a file leaves the other pieces as they are.
-/

namespace Panorama

/-- What a file holds. -/
structure FileContent where
  /-- The pieces, the last one first. -/
  pieces : List (Array UInt8)
  /-- Number of bytes. -/
  size : Nat
  size_eq : size = (pieces.flatMap Array.toList).length
  deriving DecidableEq

namespace FileContent

/-- No bytes. -/
def empty : FileContent := ⟨[], 0, rfl⟩

/-- The content with given bytes in one piece. -/
def ofArray (bytes : Array UInt8) : FileContent := ⟨[bytes], bytes.size, by simp⟩

/-- The content with given bytes. -/
def ofList (bytes : List UInt8) : FileContent := ofArray bytes.toArray

/-- All bytes in one piece. -/
def toArray (content : FileContent) : Array UInt8 :=
  content.pieces.foldr (fun piece before ↦ before ++ piece) #[]

/-- All bytes, from the first one on. -/
def toList (content : FileContent) : List UInt8 :=
  content.toArray.toList

/-- Put bytes behind the others. -/
def append (content : FileContent) (bytes : List UInt8) : FileContent where
  pieces := bytes.toArray :: content.pieces
  size := content.size + bytes.length
  size_eq := by simp [content.size_eq, Nat.add_comm]

/-- Bytes with others laid over them from a position on. What lies between is zero. -/
def overlay (held : Array UInt8) (position : Nat) (bytes : Array UInt8) : Array UInt8 :=
  held.extract 0 position ++ Array.replicate (position - held.size) 0 ++ bytes ++
    held.extract (position + bytes.size) held.size

/-- Write bytes from a position on. -/
def write (content : FileContent) (position : Nat) (bytes : List UInt8) : FileContent :=
  if position = content.size then content.append bytes
  else ofArray (overlay content.toArray position bytes.toArray)

end FileContent

end Panorama
