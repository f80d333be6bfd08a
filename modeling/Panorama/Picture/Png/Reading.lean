import Panorama.Picture.Png.Compact
import Std.Data.HashMap

/-!
# Reading PNG files

The picture in the file of a picture. What the data may stand for is found first, and then the file
of that picture is compared with the bytes, so that nothing else is taken for a picture.
-/

namespace Panorama.Png

/-- The bytes in stored blocks, up to the final one. -/
def blockBytes : List UInt8 → List UInt8
  | final :: low :: high :: _ :: _ :: rest =>
    let size := low.toNat + high.toNat * 256
    if final = 1 then rest.take size else rest.take size ++ blockBytes (rest.drop size)
  | _ => []
termination_by bytes => bytes.length
decreasing_by simp only [List.length_drop, List.length_cons]; omega

/-- The bytes of rows without the byte in front of each. -/
def rowBytes (width : Nat) : List UInt8 → List UInt8
  | [] => []
  | _ :: rest => rest.take (3 * width) ++ rowBytes width (rest.drop (3 * width))
termination_by bytes => bytes.length
decreasing_by simp only [List.length_drop, List.length_cons]; omega

/-- Bytes by pixel. -/
def pixels : List UInt8 → List Color
  | red :: green :: blue :: rest => ⟨red, green, blue⟩ :: pixels rest
  | _ => []

/-- The rows of plain data. -/
def plainPixels (width : Nat) (data : List UInt8) : List Color :=
  pixels (rowBytes width (blockBytes (data.drop 2)))

/-- Bytes as bits, from the lowest one up. -/
def bitsOf (bytes : List UInt8) : List Bool :=
  bytes.flatMap fun byte ↦ (List.range 8).map fun place ↦ byte.toNat.testBit place

/-- The number that bits stand for, the lowest one first. -/
def numberOf : List Bool → Nat
  | [] => 0
  | bit :: rest => bit.toNat + 2 * numberOf rest

/-- All symbols by the lengths and the values of their fields. -/
def symbolTable : Std.HashMap (Nat × Nat) Nat :=
  symbolCodes.zipIdx.foldl (fun table (code, symbol) ↦
    table.insert (code.length, code.value) symbol) ∅

/-- The symbol that bits begin with, and the bits behind it, where the bits in front of them are
known. -/
def symbol? (table : Std.HashMap (Nat × Nat) Nat) (length value : Nat) :
    List Bool → Option (Nat × List Bool)
  | [] => none
  | bit :: rest =>
    let value := 2 * value + bit.toNat
    match table[(length + 1, value)]? with
    | some symbol => some (symbol, rest)
    | none => symbol? table (length + 1) value rest

/-- How often the byte in front is repeated, and the bits behind the run. -/
def runOf (symbol : Nat) (bits : List Bool) : Nat × List Bool :=
  if symbol = 285 then (longestRun, bits.drop 1)
  else
    let kind := symbol - 257
    let below := kind / 4 - 1
    let high := if kind < 4 then kind else (4 + kind % 4) <<< below
    (3 + high + numberOf (bits.take below), bits.drop (below + 1))

/-- The bytes of compact data, of at most `symbols` symbols. -/
def inflate (table : Std.HashMap (Nat × Nat) Nat) :
    Nat → List Bool → Array UInt8 → Array UInt8
  | 0, _, bytes => bytes
  | symbols + 1, bits, bytes =>
    match symbol? table 0 0 bits with
    | none => bytes
    | some (symbol, bits) =>
      if symbol < endSymbol then inflate table symbols bits (bytes.push (.ofNat symbol))
      else if symbol = endSymbol then bytes
      else
        let (count, bits) := runOf symbol bits
        inflate table symbols bits (bytes ++ Array.replicate count (bytes.back?.getD 0))

/-- The filter with a number. -/
def Filter.ofNumber : UInt8 → Filter
  | 1 => left
  | 2 => above
  | 3 => mean
  | _ => nearest

/-- The bytes of a row from their differences, given the bytes above. With them come the bytes of
the last pixel, and the bytes above it. -/
def restore (filter : Filter) :
    List UInt8 → List UInt8 → List UInt8 → List UInt8 → List UInt8
  | difference :: differences, above :: aboves, left :: lefts, corner :: corners =>
    let byte := difference - filter.difference ⟨0, left, above, corner⟩
    byte :: restore filter differences aboves (lefts ++ [byte]) (corners ++ [above])
  | _, _, _, _ => []

/-- The pixels of filtered rows below a row. -/
def restoreRows (before : List UInt8) : Nat → List UInt8 → List UInt8
  | 0, _ => []
  | _, [] => []
  | rows + 1, number :: rest =>
    let row := restore (.ofNumber number) (rest.take before.length) before [0, 0, 0] [0, 0, 0]
    row ++ restoreRows row rows (rest.drop before.length)

/-- The rows of compact data. -/
def compactPixels (width height : Nat) (data : List UInt8) : List Color :=
  let bits := (bitsOf (data.drop compactHeader.bytes.size)).drop compactHeader.pending.length
  let bytes := inflate symbolTable bits.length bits #[]
  pixels (restoreRows (List.replicate (min (3 * width) bytes.size) 0) height bytes.toList)

/-- The picture that a file would hold if it were the file of a picture. -/
def guess (bytes : List UInt8) : Picture :=
  let width := Number.BigEndian.decode ((bytes.drop 16).take 4)
  let height := Number.BigEndian.decode ((bytes.drop 20).take 4)
  let data := bytes.drop 41
  let pixels :=
    if data.take 3 = compactHeader.bytes.toList.take 3 then compactPixels width height data
    else plainPixels width data
  ⟨⟨.ofNat width, .ofNat height⟩, pixels⟩

/-- The picture in the file of a picture, with any bytes behind it. -/
def decode? (bytes : List UInt8) : Option Picture :=
  let picture := guess bytes
  if 0 < picture.size.area ∧ picture.pixels.length = picture.size.area then
    if (encode picture).isPrefixOf bytes then some picture else none
  else none

end Panorama.Png
