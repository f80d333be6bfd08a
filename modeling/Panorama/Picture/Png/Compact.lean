import Panorama.Picture.PrefixCode.Lengths
import Panorama.Picture.Png.Filter

/-!
# Compact PNG data

A picture as a PNG file with filtered rows, whose bytes are written with prefix codes, and zeros as
runs. The codes are always the same ones. If stored blocks are shorter, they are written instead.
-/

namespace Panorama.Png

/-- Numbers of symbols of equal lengths, in order. Symbols are the bytes, the end, and the lengths
of runs. -/
def symbolLengths : List (Nat × Nat) :=
  [(1, 2), (1, 3), (1, 4), (2, 5), (2, 6), (3, 7), (5, 8), (7, 9), (9, 10), (12, 11), (171, 12),
    (10, 11), (1, 10), (1, 11), (9, 10), (5, 9), (1, 8), (1, 9), (5, 8), (3, 7), (3, 6), (1, 5),
    (1, 4), (1, 3), (3, 12), (2, 9), (1, 11), (1, 10), (2, 11), (1, 10), (6, 11), (1, 12), (1, 11),
    (11, 12), (1, 9)]

/-- The fields of all symbols, with their highest bits first. -/
def symbolCodes : Array BitField :=
  PrefixCode.ofLengths 12 <|
    (symbolLengths.flatMap fun (count, length) ↦ List.replicate count length).toArray

/-- The lengths of all symbols as they stand in front of compact data, with some bits behind the
bytes. -/
def compactHeader : BitPacking where
  bytes := #[0x78, 0x01, 0xED, 0xC0, 0x03, 0xA0, 0x24, 0x59, 0x96, 0xC6, 0xF1, 0xFF, 0x77, 0xEE,
    0x8D, 0xC8, 0xCC, 0xA7, 0x72, 0x4B, 0x63, 0xAE, 0x6D, 0xDB, 0xB6, 0x6D, 0xDB, 0xB6, 0x6D, 0xDB,
    0xB6, 0x6D, 0x69, 0x8C, 0x9E, 0x96, 0x4A, 0xAF, 0x9E, 0x32, 0x33, 0x22, 0xEE, 0xF9, 0x76, 0xB7,
    0x6A, 0x7A, 0xA6, 0x87, 0x3B, 0x6B, 0xD5]
  pending := ⟨15, 5⟩

/-- The symbol of the end. -/
def endSymbol : Nat := 256

/-- The longest run that has a symbol. -/
def longestRun : Nat := 258

/-- The field of a symbol. -/
def symbolField (fields : Array BitField) (symbol : Nat) : BitField :=
  fields.getD symbol ⟨0, 0⟩

/-- The fields of a run of more than two zeros behind a zero. A bit says that the run repeats the
byte in front of it. -/
def runFields (fields : Array BitField) (count : Nat) : List BitField :=
  if count = longestRun then [symbolField fields 285, ⟨0, 1⟩]
  else
    let below := (count - 3).log2 - 2
    [symbolField fields (257 + 4 * below + (count - 3) >>> below),
      ⟨(count - 3) % (1 <<< below), below⟩, ⟨0, 1⟩]

/-- The fields of zeros: one on its own, and runs behind it. Up to four zeros are no run. -/
def zeroFields (fields : Array BitField) (count : Nat) : List BitField :=
  let behind := count - 1
  let rest := behind % longestRun
  symbolField fields 0 ::
    (List.replicate (behind / longestRun) (runFields fields longestRun)).flatten ++
      if 4 < rest then runFields fields rest else List.replicate rest (symbolField fields 0)

/-- The fields of eight bytes behind some zeros that are not written, and the zeros at their end,
which are not written either. Zeros at the beginning join a run but do not begin one. -/
def groupFields (fields : Array BitField) (zeros : Nat) (group : List UInt8) :
    List BitField × Nat :=
  let isZero (byte : UInt8) : Bool := byte = 0
  if group.all isZero then ([], zeros + group.length)
  else
    let behind := (group.reverse.takeWhile isZero).length
    let bytes := group.take (group.length - behind)
    let joined := if zeros = 0 then [] else bytes.takeWhile isZero
    let run := if zeros = 0 then [] else zeroFields fields (zeros + joined.length)
    (run ++ (bytes.drop joined.length).map fun byte ↦ symbolField fields byte.toNat, behind)

/-- The fields of a row behind some zeros that are not written. Bytes that are not a full group
are written one by one. -/
def rowFields (fields : Array BitField) (zeros : Nat) (row : List UInt8) : List BitField :=
  if _short : row.length < 8 then
    (if zeros = 0 then [] else zeroFields fields zeros) ++
      row.map fun byte ↦ symbolField fields byte.toNat
  else
    let (group, zeros) := groupFields fields zeros (row.take 8)
    group ++ rowFields fields zeros (row.drop 8)
termination_by row.length
decreasing_by simp only [List.length_drop]; omega

/-- Rows as compact data. -/
def compact (rows : List (List UInt8)) : List UInt8 :=
  let fields := symbolCodes.map BitField.reverse
  let packing := rows.foldl (fun packing row ↦
    (rowFields fields 0 row).foldl BitPacking.addLow packing) compactHeader
  (packing.addLow (symbolField fields endSymbol)).finishLow.toList ++ word (adler rows.flatten)

/-- The PNG file of a picture. -/
def encode (picture : Picture) : List UInt8 :=
  let compact := compact (filtered picture)
  let stored := stored (unfiltered picture)
  file picture (if stored.length < compact.length then stored else compact)

end Panorama.Png
