import Panorama.Number.BigEndian
import Panorama.Picture.Basic
import Panorama.Picture.Jpeg.Coding
import Panorama.Picture.Jpeg.Frequencies

/-!
# JPEG files

A picture as a JPEG file of quality 75: blocks of eight by eight pixels, each as brightness and two
color differences of full resolution, whose frequencies are divided by steps and written with
codes. Blocks at the right and the lower edge repeat the last pixels.
-/

namespace Panorama.Jpeg

/-- A weighted sum of red, green and blue in units of `2 ^ -16`, rounded; the middle goes down. -/
def weigh (red green blue offset : Int) (color : Color) : Int :=
  (red * color.red.toNat + green * color.green.toNat + blue * color.blue.toNat +
    offset * 65536 + 32767) / 65536

/-- One of the three numbers of a pixel, with all that it is written with. -/
structure Component where
  /-- The number, from 0 to 255. -/
  sample : Color → Int
  /-- What its frequencies are divided by, in the order of the file. -/
  steps : List UInt8
  /-- What its frequencies are written with. -/
  coder : Coder

/-- Brightness and the two color differences. -/
def components : List Component :=
  let luma : Coder := ⟨lumaMeans.codes, lumaDetails.codes⟩
  let chroma : Coder := ⟨chromaMeans.codes, chromaDetails.codes⟩
  [⟨weigh 19595 38469 7471 0, lumaSteps, luma⟩,
    ⟨weigh (-11059) (-21709) 32768 128, chromaSteps, chroma⟩,
    ⟨weigh 32768 (-27439) (-5329) 128, chromaSteps, chroma⟩]

/-- The pixel at a place, or the nearest one to it. -/
def pixelNear (rows : Array (Array Color)) (x y : Nat) : Color :=
  let row := rows.getD (min y (rows.size - 1)) #[]
  row.getD (min x (row.size - 1)) ⟨0, 0, 0⟩

/-- The pixels of the block whose upper left corner is at a place. -/
def blockAt (rows : Array (Array Color)) (x y : Nat) : List (List Color) :=
  (List.range 8).map fun down ↦ (List.range 8).map fun right ↦
    pixelNear rows (x + right) (y + down)

/-- A frequency, which is eight times too large, in steps: without its fraction first, and then
rounded; the middle goes away from zero. -/
def quantize (value : Int) (step : UInt8) : Int :=
  let size := value.natAbs / 8
  let steps : Int := ((2 * size + step.toNat) / (2 * step.toNat) : Nat)
  if value < 0 then -steps else steps

/-- The frequencies of a component of a block in steps, in the order of the file. -/
def Component.quantities (component : Component) (block : List (List Color)) : List Int :=
  let samples : Block := block.map fun row ↦ row.map fun color ↦ component.sample color - 128
  let frequencies := samples.frequencies.flatten.toArray
  List.zipWith quantize (zigzag.map fun position ↦ frequencies.getD position 0) component.steps

/-- Write a block: every component with the first frequency of the block before. With the bits come
the first frequencies of this block. -/
def writeBlock (components : List Component) (block : List (List Color)) (packing : BitPacking)
    (means : List Int) : BitPacking × List Int :=
  (components.zip means).foldl (fun (packing, means) (component, before) ↦
    let quantities := component.quantities block
    ((component.coder.encode before quantities).foldl BitPacking.addHigh packing,
      means ++ quantities.take 1)) (packing, [])

/-- The upper left corners of all blocks, row by row. -/
def corners (width height : Nat) : List (Nat × Nat) :=
  (List.range ((height + 7) / 8)).flatMap fun row ↦
    (List.range ((width + 7) / 8)).map fun column ↦ (8 * column, 8 * row)

/-- The bits of all blocks. Ones fill the last byte. -/
def scan (picture : Picture) : List UInt8 :=
  let rows := (picture.rows.map List.toArray).toArray
  let components := components
  let (packing, _) := (corners picture.width picture.height).foldl
    (fun (packing, means) (x, y) ↦ writeBlock components (blockAt rows x y) packing means)
    (BitPacking.empty, components.map fun _ ↦ 0)
  (packing.addHigh ⟨127, 7⟩).bytes.toList

/-- A byte in a scan: one that could be a mark has a zero behind it. -/
def stuff (byte : UInt8) : List UInt8 :=
  if byte = 0xFF then [0xFF, 0] else [byte]

/-- A part of the file: its mark, its length and its content. -/
def segment (mark : UInt8) (content : List UInt8) : List UInt8 :=
  [0xFF, mark] ++ Number.BigEndian.encode 2 (content.length + 2) ++ content

/-- The codes of a table in the file. The number says what kind of table it is. -/
def codeSegment (kind : UInt8) (table : CodeTable) : List UInt8 :=
  segment 0xC4 (kind :: table.counts ++ table.symbols)

/-- All in front of the bits: the version, the size, and the tables. -/
def header (width height : Nat) : List UInt8 :=
  segment 0xE0 ("JFIF".toUTF8.toList ++ [0, 1, 2, 0, 0, 1, 0, 1, 0, 0]) ++
    segment 0xC0 ([8] ++ Number.BigEndian.encode 2 height ++ Number.BigEndian.encode 2 width ++
      [3, 1, 0x11, 0, 2, 0x11, 1, 3, 0x11, 1]) ++
    segment 0xDB (0 :: lumaSteps) ++ segment 0xDB (1 :: chromaSteps) ++
    codeSegment 0x00 lumaMeans ++ codeSegment 0x10 lumaDetails ++
    codeSegment 0x01 chromaMeans ++ codeSegment 0x11 chromaDetails ++
    segment 0xDA [3, 1, 0x00, 2, 0x11, 3, 0x11, 0, 63, 0]

/-- The JPEG file of a picture. -/
def encode (picture : Picture) : List UInt8 :=
  [0xFF, 0xD8] ++ header picture.width picture.height ++ (scan picture).flatMap stuff ++
    [0xFF, 0xD9]

end Panorama.Jpeg
