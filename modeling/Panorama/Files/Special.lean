import Panorama.Stream

/-!
# Special files

Files that hold nothing of what is written to them. They stand in the directory of devices of every
file system.
-/

namespace Panorama

/-- A special file. -/
inductive SpecialFile where
  /-- Takes all bytes and holds none. -/
  | null
  /-- Takes all bytes and holds zeros without end. -/
  | zero
  /-- Takes no byte and holds zeros without end. -/
  | full
  /-- Takes all bytes and prints them. -/
  | output
  deriving DecidableEq, Repr

namespace SpecialFile

/-- The special file with a name in the directory of devices. The standard input holds nothing. -/
def named? : String → Option SpecialFile
  | "null" | "stdin" => some null
  | "zero" => some zero
  | "full" => some full
  | "stdout" => some output
  | _ => none

/-- Zeros after which endless zeros are taken to end. -/
def zeroLimit : Nat := 4194304

/-- What is read from a special file. -/
def source : SpecialFile → Source
  | null | output => .ofBytes []
  | zero | full => .ofBytes (List.replicate zeroLimit 0)

end SpecialFile

end Panorama
