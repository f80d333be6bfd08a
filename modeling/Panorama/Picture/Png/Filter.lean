import Panorama.Picture.Png.Basic

/-!
# Filters of PNG rows

A filter replaces the bytes of a row by differences to bytes that are known: the one of the pixel on
the left, the one above, and the one above the pixel on the left. Every row gets the filter whose
differences are smallest.
-/

namespace Panorama.Png

/-- A byte of a row and the bytes that are known. Outside the picture they are zero. -/
structure Neighborhood where
  /-- The byte. -/
  byte : UInt8
  /-- The byte of the pixel on the left. -/
  left : UInt8
  /-- The byte above. -/
  above : UInt8
  /-- The byte above the one of the pixel on the left. -/
  corner : UInt8

/-- The known byte that is nearest to left plus above minus corner. Of several, it is the left one
or else the one above. -/
def Neighborhood.nearest (bytes : Neighborhood) : UInt8 :=
  let distance (byte : UInt8) : Nat :=
    (bytes.left.toNat + bytes.above.toNat - bytes.corner.toNat - byte.toNat : Int).natAbs
  let (left, above, corner) := (distance bytes.left, distance bytes.above, distance bytes.corner)
  if left ≤ above ∧ left ≤ corner then bytes.left
  else if above ≤ corner then bytes.above
  else bytes.corner

/-- What is subtracted from a byte. -/
inductive Filter where
  /-- The byte of the pixel on the left. -/
  | left
  /-- The byte above. -/
  | above
  /-- The mean of both. -/
  | mean
  /-- The nearest byte. -/
  | nearest
  deriving DecidableEq, Repr

namespace Filter

/-- The number of a filter in the file. -/
def number : Filter → UInt8
  | left => 1
  | above => 2
  | mean => 3
  | nearest => 4

/-- The difference that replaces a byte. -/
def difference (filter : Filter) (bytes : Neighborhood) : UInt8 :=
  match filter with
  | left => bytes.byte - bytes.left
  | above => bytes.byte - bytes.above
  | mean => bytes.byte - .ofNat ((bytes.left.toNat + bytes.above.toNat) / 2)
  | nearest => bytes.byte - bytes.nearest

end Filter

/-- The bytes of a row with their neighbors. -/
def neighborhoods (before row : List UInt8) : List Neighborhood :=
  let lefts := [0, 0, 0] ++ row
  let corners := [0, 0, 0] ++ before
  ((row.zip lefts).zip (before.zip corners)).map fun ((byte, left), (above, corner)) ↦
    ⟨byte, left, above, corner⟩

/-- The sum of differences without their signs. -/
def size (differences : List UInt8) : Nat :=
  differences.foldl (fun sum difference ↦ sum + min difference.toNat (256 - difference.toNat)) 0

/-- The differences of a row behind the number of the filter. Of filters with equally small
differences, the last one is taken. -/
def filterRow (before row : List UInt8) : List UInt8 :=
  let bytes := neighborhoods before row
  let filtered (filter : Filter) : List UInt8 := bytes.map filter.difference
  let best := [Filter.above, .mean, .nearest].foldl (fun (best, smallest) filter ↦
    let size := size (filtered filter)
    if size ≤ smallest then (filter, size) else (best, smallest)) (.left, size (filtered .left))
  best.1.number :: filtered best.1

/-- The filtered rows of a picture. -/
def filtered (picture : Picture) : List (List UInt8) :=
  let rows := picture.rows.map fun row ↦ row.flatMap Color.bytes
  let first := List.replicate (3 * picture.width) 0
  List.zipWith filterRow (first :: rows) rows

end Panorama.Png
