import Panorama.Number.LittleEndian

/-!
# Big-endian words

Words that are stored with their highest byte first: the little-endian ones, reversed.
-/

namespace Panorama.Number.BigEndian

/-- The lowest `count` bytes of a number, lowest last. -/
def encode (count value : Nat) : List UInt8 :=
  (LittleEndian.encode count value).reverse

/-- The number whose bytes are given, lowest last. -/
def decode (bytes : List UInt8) : Nat :=
  LittleEndian.decode bytes.reverse

end Panorama.Number.BigEndian
