import Panorama.Number.BigEndian
import Panorama.Picture.Basic

/-!
# PNG files

The parts of a PNG file with eight bits per channel: chunks with checks, and data in stored blocks,
which leave the bytes as they are.
-/

namespace Panorama.Png

/-- A word of four bytes. -/
def word (value : Nat) : List UInt8 := Number.BigEndian.encode 4 value

/-- One step of the cyclic redundancy check for a bit. -/
def crcBit (crc : UInt32) : UInt32 :=
  if crc &&& 1 = 1 then (0xEDB88320 : UInt32) ^^^ (crc >>> 1) else crc >>> 1

/-- One step of the cyclic redundancy check for a byte. -/
def crcByte (crc : UInt32) (byte : UInt8) : UInt32 :=
  (List.range 8).foldl (fun crc _ ↦ crcBit crc) (crc ^^^ byte.toUInt32)

/-- The cyclic redundancy check of a chunk. -/
def crc (bytes : List UInt8) : UInt32 :=
  bytes.foldl crcByte 0xFFFFFFFF ^^^ 0xFFFFFFFF

/-- The checksum of compressed data. -/
def adler (bytes : List UInt8) : Nat :=
  let (low, high) := bytes.foldl (fun (low, high) byte ↦
    let low := (low + byte.toNat) % 65521
    (low, (high + low) % 65521)) (1, 0)
  high * 65536 + low

/-- A chunk with its length in front and its check behind. -/
def chunk (name : String) (content : List UInt8) : List UInt8 :=
  let body := name.toUTF8.toList ++ content
  word content.length ++ body ++ word (crc body).toNat

/-- Bytes as blocks of at most 65535 bytes that are stored as they are. -/
def storedBlocks (bytes : List UInt8) : List UInt8 :=
  let size := min bytes.length 65535
  let final : UInt8 := if bytes.length ≤ 65535 then 1 else 0
  let head : List UInt8 := [final, .ofNat (size % 256), .ofNat (size / 256),
    .ofNat (255 - size % 256), .ofNat (255 - size / 256)]
  if _last : bytes.length ≤ 65535 then head ++ bytes
  else head ++ bytes.take size ++ storedBlocks (bytes.drop size)
termination_by bytes.length
decreasing_by simp only [List.length_drop]; omega

/-- The rows of a picture, each behind a byte that says it is not filtered. -/
def unfiltered (picture : Picture) : List UInt8 :=
  picture.rows.flatMap fun row ↦ 0 :: row.flatMap Color.bytes

/-- Bytes as stored data. -/
def stored (bytes : List UInt8) : List UInt8 :=
  [0x78, 0x01] ++ storedBlocks bytes ++ word (adler bytes)

/-- A file with the size of a picture and its data. -/
def file (picture : Picture) (data : List UInt8) : List UInt8 :=
  let header := word picture.width ++ word picture.height ++ [8, 2, 0, 0, 0]
  [0x89, 0x50, 0x4E, 0x47, 0x0D, 0x0A, 0x1A, 0x0A] ++ chunk "IHDR" header ++
    chunk "IDAT" data ++ chunk "IEND" []

end Panorama.Png
