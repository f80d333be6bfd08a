import Panorama.Canvas

/-!
# Pictures

A picture is a size and the colors of its pixels, row by row from the top.
-/

namespace Panorama

/-- The color of a pixel. -/
structure Color where
  /-- Red. -/
  red : UInt8
  /-- Green. -/
  green : UInt8
  /-- Blue. -/
  blue : UInt8
  deriving DecidableEq, Repr

namespace Color

/-- Red, green and blue. -/
def bytes (color : Color) : List UInt8 :=
  [color.red, color.green, color.blue]

/-- Blue, green and red. -/
def reversedBytes (color : Color) : List UInt8 :=
  [color.blue, color.green, color.red]

end Color

/-- A picture with three bytes per pixel, row by row. -/
structure Picture where
  /-- Dimensions. -/
  size : Canvas
  /-- The color of every pixel. -/
  pixels : List Color
  deriving DecidableEq

namespace Picture

/-- Columns. -/
def width (picture : Picture) : Nat :=
  picture.size.width.toNat

/-- Rows. -/
def height (picture : Picture) : Nat :=
  picture.size.height.toNat

/-- The bytes of a picture. -/
def bytes (picture : Picture) : List UInt8 :=
  picture.pixels.flatMap Color.bytes

/-- Pixels in rows of a width, as many rows as asked for. -/
def cutRows (width : Nat) : Nat → List Color → List (List Color)
  | 0, _ => []
  | count + 1, pixels => pixels.take width :: cutRows width count (pixels.drop width)

/-- The rows of a picture, from the top. -/
def rows (picture : Picture) : List (List Color) :=
  cutRows picture.width picture.height picture.pixels

end Picture

end Panorama
