/-!
# Little-endian words

Words in files are stored with their lowest byte first.
-/

namespace Panorama.Number.LittleEndian

/-- The lowest `count` bytes of a number, lowest first. -/
def encode : Nat → Nat → List UInt8
  | 0, _ => []
  | count + 1, value => .ofNat (value % 256) :: encode count (value / 256)

/-- The number whose bytes are given, lowest first. -/
def decode : List UInt8 → Nat
  | [] => 0
  | byte :: rest => byte.toNat + 256 * decode rest

end Panorama.Number.LittleEndian
