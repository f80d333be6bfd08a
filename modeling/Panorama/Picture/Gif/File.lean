import Panorama.Number.BigEndian
import Panorama.Picture.Basic
import Panorama.Picture.Gif.Phrase
import Panorama.Picture.Gif.Prototype

/-!
# GIF files

A picture as a GIF file: a header, a palette, and the positions of the pixels in it. The palette is
that of all colors in order, if there are at most 256 of them.
-/

namespace Panorama.Gif

/-- Colors that a file can have. -/
def mostColors : Nat := 256

/-- A color as a number. -/
def number (color : Color) : Nat :=
  Number.BigEndian.decode color.bytes

/-- The colors that occur, as numbers in order. -/
def colors (pixels : List Color) : List Nat :=
  (pixels.map number).mergeSort.eraseReps

/-- Pixels as positions in a palette. -/
structure Indexed where
  /-- Colors as numbers. -/
  palette : List Nat
  /-- The positions. -/
  positions : List Nat

/-- Pixels with a palette for them. -/
def Indexed.ofPixels (pixels : List Color) : Indexed :=
  let colors := colors pixels
  if colors.length ≤ mostColors then
    ⟨colors, pixels.map fun color ↦ colors.idxOf (number color)⟩
  else
    let swatches := Swatch.ofPixels pixels
    ⟨swatches.toList.map fun swatch ↦ number swatch.color, pixels.map (Swatch.nearest swatches)⟩

/-- Half of the colors that a file has room for is the power of two with this exponent. -/
def paletteExponent (count : Nat) : Nat :=
  if count ≤ 2 then 0 else (count - 1).log2

/-- The bytes of all colors. Black fills the room that is left. -/
def paletteBytes (palette : List Nat) : List UInt8 :=
  let room := 2 <<< paletteExponent palette.length
  palette.flatMap (Number.BigEndian.encode 3) ++
    List.replicate (3 * (room - palette.length)) 0

/-- Bits of positions: at least two. -/
def positionBits (positions : List Nat) : Nat :=
  max 2 ((positions.foldl max 0).log2 + 1)

/-- Bytes in blocks of at most 255, each behind its length. An empty one ends them. -/
def blocks (bytes : List UInt8) : List UInt8 :=
  if _none : bytes = [] then [0]
  else
    let block := bytes.take 255
    .ofNat block.length :: block ++ blocks (bytes.drop 255)
termination_by bytes.length
decreasing_by
  have := List.length_pos_iff.mpr _none
  simp only [List.length_drop]
  omega

/-- The header of the file, with room for two colors that are not used, and how the picture is to
be shown. -/
def header (width height : Nat) : List UInt8 :=
  "GIF89a".toUTF8.toList ++ Number.LittleEndian.encode 2 width ++
    Number.LittleEndian.encode 2 height ++ [0x80, 0, 0] ++ List.replicate 6 0 ++
    [0x21, 0xF9, 4, 8, 0, 0, 0, 0]

/-- The GIF file of a picture. -/
def encode (picture : Picture) : List UInt8 :=
  let ⟨palette, positions⟩ := Indexed.ofPixels picture.pixels
  let bits := positionBits positions
  header picture.width picture.height ++ [0x2C, 0, 0, 0, 0] ++
    Number.LittleEndian.encode 2 picture.width ++ Number.LittleEndian.encode 2 picture.height ++
    [.ofNat (0x80 + paletteExponent palette.length)] ++ paletteBytes palette ++
    [.ofNat bits] ++ blocks (PhraseWriter.encode bits positions) ++ [0x3B]

end Panorama.Gif
