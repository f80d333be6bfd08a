/-!
# Memory

How large a buffer can be. To ask for frames of a size that no buffer has is an error; to ask for
lists of such a size breaks a precondition.
-/

namespace Panorama.Memory

/-- Bytes that no buffer can have. -/
def bufferLimit : Nat := UInt64.size / 2

/-- Whether a buffer can have `count` items of `size` bytes. -/
def holds (count size : Nat) : Bool := count * size < bufferLimit

end Panorama.Memory
