import Panorama.Number.LittleEndian
import Panorama.Picture.Basic

/-!
# BMP files

A picture as a BMP file: two headers, and the rows from the bottom to the top, each filled up with
zeros to a multiple of four bytes.
-/

namespace Panorama.Bmp

/-- A word of four bytes. -/
def word (value : Nat) : List UInt8 := Number.LittleEndian.encode 4 value

/-- A word of two bytes. -/
def halfWord (value : Nat) : List UInt8 := Number.LittleEndian.encode 2 value

/-- Bytes of both headers. -/
def headerSize : Nat := 54

/-- Zeros that fill up a row of pixels. -/
def padding (width : Nat) : Nat :=
  (4 - 3 * width % 4) % 4

/-- A row of pixels, filled up. -/
def row (pixels : List Color) : List UInt8 :=
  pixels.flatMap Color.reversedBytes ++ List.replicate (padding pixels.length) 0

/-- The header of the file, for an image of a number of bytes. -/
def fileHeader (length : Nat) : List UInt8 :=
  [0x42, 0x4D] ++ word (headerSize + length) ++ word 0 ++ word headerSize

/-- The header of the image: one plane of 24 bits per pixel, not compressed, no palette. -/
def imageHeader (width height length : Nat) : List UInt8 :=
  word 40 ++ word width ++ word height ++ halfWord 1 ++ halfWord 24 ++ word 0 ++ word length ++
    List.replicate 16 0

/-- The BMP file of a picture. -/
def encode (picture : Picture) : List UInt8 :=
  let length := (3 * picture.width + padding picture.width) * picture.height
  fileHeader length ++ imageHeader picture.width picture.height length ++
    picture.rows.reverse.flatMap row

end Panorama.Bmp
