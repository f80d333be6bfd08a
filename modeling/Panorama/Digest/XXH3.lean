/-!
# The 64-bit XXH3 digest

XXH3 with seed 0 and its standard secret. Short inputs are mixed at once, inputs of up to 240 bytes
in pairs of words, longer ones in stripes of eight words that run through eight accumulators.
-/

namespace Panorama.Digest.XXH3

/-- The standard secret. -/
def secret : Array UInt8 := #[
  0xb8, 0xfe, 0x6c, 0x39, 0x23, 0xa4, 0x4b, 0xbe, 0x7c, 0x01, 0x81, 0x2c, 0xf7, 0x21, 0xad, 0x1c,
  0xde, 0xd4, 0x6d, 0xe9, 0x83, 0x90, 0x97, 0xdb, 0x72, 0x40, 0xa4, 0xa4, 0xb7, 0xb3, 0x67, 0x1f,
  0xcb, 0x79, 0xe6, 0x4e, 0xcc, 0xc0, 0xe5, 0x78, 0x82, 0x5a, 0xd0, 0x7d, 0xcc, 0xff, 0x72, 0x21,
  0xb8, 0x08, 0x46, 0x74, 0xf7, 0x43, 0x24, 0x8e, 0xe0, 0x35, 0x90, 0xe6, 0x81, 0x3a, 0x26, 0x4c,
  0x3c, 0x28, 0x52, 0xbb, 0x91, 0xc3, 0x00, 0xcb, 0x88, 0xd0, 0x65, 0x8b, 0x1b, 0x53, 0x2e, 0xa3,
  0x71, 0x64, 0x48, 0x97, 0xa2, 0x0d, 0xf9, 0x4e, 0x38, 0x19, 0xef, 0x46, 0xa9, 0xde, 0xac, 0xd8,
  0xa8, 0xfa, 0x76, 0x3f, 0xe3, 0x9c, 0x34, 0x3f, 0xf9, 0xdc, 0xbb, 0xc7, 0xc7, 0x0b, 0x4f, 0x1d,
  0x8a, 0x51, 0xe0, 0x4b, 0xcd, 0xb4, 0x59, 0x31, 0xc8, 0x9f, 0x7e, 0xc9, 0xd9, 0x78, 0x73, 0x64,
  0xea, 0xc5, 0xac, 0x83, 0x34, 0xd3, 0xeb, 0xc3, 0xc5, 0x81, 0xa0, 0xff, 0xfa, 0x13, 0x63, 0xeb,
  0x17, 0x0d, 0xdd, 0x51, 0xb7, 0xf0, 0xda, 0x49, 0xd3, 0x16, 0x55, 0x26, 0x29, 0xd4, 0x68, 0x9e,
  0x2b, 0x16, 0xbe, 0x58, 0x7d, 0x47, 0xa1, 0xfc, 0x8f, 0xf8, 0xb8, 0xd1, 0x7a, 0xd0, 0x31, 0xce,
  0x45, 0xcb, 0x3a, 0x8f, 0x95, 0x16, 0x04, 0x28, 0xaf, 0xd7, 0xfb, 0xca, 0xbb, 0x4b, 0x40, 0x7e]

/-- The first 32-bit prime. -/
def prime32x1 : UInt64 := 0x9E3779B1

/-- The second 32-bit prime. -/
def prime32x2 : UInt64 := 0x85EBCA77

/-- The third 32-bit prime. -/
def prime32x3 : UInt64 := 0xC2B2AE3D

/-- The first 64-bit prime. -/
def prime64x1 : UInt64 := 0x9E3779B185EBCA87

/-- The second 64-bit prime. -/
def prime64x2 : UInt64 := 0xC2B2AE3D27D4EB4F

/-- The third 64-bit prime. -/
def prime64x3 : UInt64 := 0x165667B19E3779F9

/-- The fourth 64-bit prime. -/
def prime64x4 : UInt64 := 0x85EBCA77C2B2AE63

/-- The fifth 64-bit prime. -/
def prime64x5 : UInt64 := 0x27D4EB2F165667C5

/-- The little-endian word of `count` bytes at a position. -/
def word (count : Nat) (bytes : Array UInt8) (position : Nat) : UInt64 :=
  (List.range count).foldr (fun offset high ↦
    high <<< 8 ||| (bytes.getD (position + offset) 0).toUInt64) 0

/-- The 64-bit word at a position. -/
def word64 (bytes : Array UInt8) (position : Nat) : UInt64 := word 8 bytes position

/-- The 32-bit word at a position. -/
def word32 (bytes : Array UInt8) (position : Nat) : UInt64 := word 4 bytes position

/-- The bytes of a word in reverse. -/
def reverseBytes (count : Nat) (value : UInt64) : UInt64 :=
  (List.range count).foldl (fun high offset ↦
    high <<< 8 ||| (value >>> (8 * offset).toUInt64 &&& 0xFF)) 0

/-- A word rotated to the left. -/
def rotate (value : UInt64) (bits : UInt64) : UInt64 :=
  value <<< bits ||| value >>> (64 - bits)

/-- The halves of the full product, combined. -/
def foldedProduct (left right : UInt64) : UInt64 :=
  let product := left.toNat * right.toNat
  .ofNat product ^^^ .ofNat (product / UInt64.size)

/-- The closing mix of all but the shortest inputs. -/
def avalanche (value : UInt64) : UInt64 :=
  let value := (value ^^^ value >>> 37) * 0x165667919E3779F9
  value ^^^ value >>> 32

/-- The closing mix of the shortest inputs. -/
def strongAvalanche (value : UInt64) : UInt64 :=
  let value := (value ^^^ value >>> 33) * prime64x2
  let value := (value ^^^ value >>> 29) * prime64x3
  value ^^^ value >>> 32

/-- Two words of the input mixed with two words of the secret. -/
def mixPair (bytes : Array UInt8) (position key : Nat) : UInt64 :=
  foldedProduct (word64 bytes position ^^^ word64 secret key)
    (word64 bytes (position + 8) ^^^ word64 secret (key + 8))

/-- Digest of at most 16 bytes. -/
def ofTiny (bytes : Array UInt8) : UInt64 :=
  let size := bytes.size
  let length := size.toUInt64
  if 8 < size then
    let low := word64 bytes 0 ^^^ (word64 secret 24 ^^^ word64 secret 32)
    let high := word64 bytes (size - 8) ^^^ (word64 secret 40 ^^^ word64 secret 48)
    avalanche (length + reverseBytes 8 low + high + foldedProduct low high)
  else if 4 ≤ size then
    let keyed := (word32 bytes (size - 4) + word32 bytes 0 <<< 32) ^^^
      (word64 secret 8 ^^^ word64 secret 16)
    let value := (keyed ^^^ rotate keyed 49 ^^^ rotate keyed 24) * 0x9FB21C651E98DF25
    let value := (value ^^^ (value >>> 35 + length)) * 0x9FB21C651E98DF25
    value ^^^ value >>> 28
  else if 0 < size then
    let combined := word 1 bytes 0 <<< 16 ||| word 1 bytes (size / 2) <<< 24 |||
      word 1 bytes (size - 1) ||| length <<< 8
    strongAvalanche (combined ^^^ (word32 secret 0 ^^^ word32 secret 4))
  else strongAvalanche (word64 secret 56 ^^^ word64 secret 64)

/-- Digest of 17 to 128 bytes: pairs of words from both ends inwards. -/
def ofShort (bytes : Array UInt8) : UInt64 :=
  let size := bytes.size
  let rounds := (size - 1) / 32 + 1
  avalanche <| (List.range rounds).foldl (fun total round ↦
    total + mixPair bytes (16 * round) (32 * round) +
      mixPair bytes (size - 16 * (round + 1)) (32 * round + 16)) (size.toUInt64 * prime64x1)

/-- Digest of 129 to 240 bytes: pairs of words in order, then the last pair. -/
def ofMedium (bytes : Array UInt8) : UInt64 :=
  let size := bytes.size
  let opening := (List.range 8).foldl (fun total round ↦
    total + mixPair bytes (16 * round) (16 * round)) (size.toUInt64 * prime64x1)
  let total := (List.range (size / 16 - 8)).foldl (fun total round ↦
    total + mixPair bytes (16 * (round + 8)) (16 * round + 3)) (avalanche opening)
  avalanche (total + mixPair bytes (size - 16) (136 - 17))

/-- The accumulators of long inputs. -/
abbrev Lanes := Array UInt64

/-- The accumulators at the start. -/
def startLanes : Lanes :=
  #[prime32x3, prime64x1, prime64x2, prime64x3, prime64x4, prime32x2, prime64x5, prime32x1]

/-- Take in a stripe of eight words. Every word is added to its neighbor's lane, and the product
of its keyed halves to its own. -/
def accumulate (bytes : Array UInt8) (lanes : Lanes) (position key : Nat) : Lanes :=
  lanes.mapIdx fun lane (total : UInt64) ↦
    let neighbor := if lane % 2 = 0 then lane + 1 else lane - 1
    let keyed : UInt64 := word64 bytes (position + 8 * lane) ^^^ word64 secret (key + 8 * lane)
    let low : UInt64 := keyed &&& 0xFFFFFFFF
    total + word64 bytes (position + 8 * neighbor) + low * (keyed >>> 32)

/-- Mix the accumulators after a block of stripes. -/
def scramble (lanes : Lanes) : Lanes :=
  lanes.mapIdx fun lane (total : UInt64) ↦
    (total ^^^ total >>> 47 ^^^ word64 secret (128 + 8 * lane)) * prime32x1

/-- Take in `count` stripes from a position on. -/
def accumulateStripes (bytes : Array UInt8) (position count : Nat) (lanes : Lanes) : Lanes :=
  (List.range count).foldl (fun lanes stripe ↦
    accumulate bytes lanes (position + 64 * stripe) (8 * stripe)) lanes

/-- Digest of more than 240 bytes. -/
def ofLong (bytes : Array UInt8) : UInt64 :=
  let size := bytes.size
  let blocks := (size - 1) / 1024
  let lanes := (List.range blocks).foldl (fun lanes block ↦
    scramble (accumulateStripes bytes (1024 * block) 16 lanes)) startLanes
  let rest := (size - 1 - 1024 * blocks) / 64
  let lanes := accumulateStripes bytes (1024 * blocks) rest lanes
  let lanes := accumulate bytes lanes (size - 64) 121
  avalanche <| (List.range 4).foldl (fun total pair ↦
    total + foldedProduct (lanes.getD (2 * pair) 0 ^^^ word64 secret (11 + 16 * pair))
      (lanes.getD (2 * pair + 1) 0 ^^^ word64 secret (19 + 16 * pair)))
    (size.toUInt64 * prime64x1)

/-- The digest of a byte string. -/
def digest (bytes : Array UInt8) : UInt64 :=
  if bytes.size ≤ 16 then ofTiny bytes
  else if bytes.size ≤ 128 then ofShort bytes
  else if bytes.size ≤ 240 then ofMedium bytes
  else ofLong bytes

end Panorama.Digest.XXH3
