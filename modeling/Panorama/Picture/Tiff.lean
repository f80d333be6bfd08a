import Panorama.Number.LittleEndian
import Panorama.Picture.Basic

/-!
# TIFF files

A picture as a TIFF file: a header, the two resolutions, the pixels in strips of whole rows, and a
directory of numbered fields at the end. The values of a field that are too long for the directory
stand in front of it.
-/

namespace Panorama.Tiff

/-- A word of four bytes. -/
def word (value : Nat) : List UInt8 := Number.LittleEndian.encode 4 value

/-- A word of two bytes. -/
def halfWord (value : Nat) : List UInt8 := Number.LittleEndian.encode 2 value

/-- What a field holds. -/
inductive Content where
  /-- Words of two bytes. -/
  | halfWords (values : List Nat)
  /-- Words of four bytes. -/
  | words (values : List Nat)
  /-- A fraction that stands at a position in the file. -/
  | fractionAt (position : Nat)

namespace Content

/-- The number of a kind of content. -/
def kind : Content → Nat
  | halfWords _ => 3
  | words _ => 4
  | fractionAt _ => 5

/-- Number of values. -/
def count : Content → Nat
  | halfWords values => values.length
  | words values => values.length
  | fractionAt _ => 1

/-- The bytes of the values, or of their position. -/
def bytes : Content → List UInt8
  | halfWords values => values.flatMap halfWord
  | words values => values.flatMap word
  | fractionAt position => word position

end Content

/-- A field of the directory. -/
structure Field where
  /-- The number that says what the field means. -/
  tag : Nat
  /-- What it holds. -/
  content : Content

/-- Bytes in front of the strips: the header and two fractions. -/
def headerSize : Nat := 24

/-- Rows of a strip: as many as it takes for a million bytes. -/
def rowsPerStrip (width : Nat) : Nat := (1000000 + 3 * width - 1) / (3 * width)

/-- Rows of each strip. -/
def stripRows (width height : Nat) : List Nat :=
  let rows := rowsPerStrip width
  (List.range ((height + rows - 1) / rows)).map fun strip ↦ min rows (height - strip * rows)

/-- All fields. -/
def fields (width height : Nat) : List Field :=
  let strips := stripRows width height
  let positions := (List.range strips.length).map fun strip ↦
    headerSize + strip * rowsPerStrip width * (3 * width)
  [⟨256, .words [width]⟩, ⟨257, .words [height]⟩, ⟨258, .halfWords [8, 8, 8]⟩,
    ⟨259, .halfWords [1]⟩, ⟨262, .halfWords [2]⟩, ⟨273, .words positions⟩,
    ⟨277, .halfWords [3]⟩, ⟨278, .words [rowsPerStrip width]⟩,
    ⟨279, .words (strips.map fun rows ↦ rows * (3 * width))⟩, ⟨282, .fractionAt 8⟩,
    ⟨283, .fractionAt 16⟩, ⟨296, .halfWords [1]⟩, ⟨317, .halfWords [1]⟩,
    ⟨339, .halfWords [1, 1, 1]⟩]

/-- A field in the directory, with the values that stand in front of the directory from a position
on. -/
def Field.place (field : Field) (position : Nat) : List UInt8 × List UInt8 :=
  let head := halfWord field.tag ++ halfWord field.content.kind ++ word field.content.count
  let bytes := field.content.bytes
  if bytes.length ≤ 4 then ([], head ++ bytes ++ List.replicate (4 - bytes.length) 0)
  else (bytes, head ++ word position)

/-- The values of fields from a position on, and the fields in the directory. -/
def placeAll (position : Nat) : List Field → List UInt8 × List UInt8
  | [] => ([], [])
  | field :: rest =>
    let (values, entry) := field.place position
    let (moreValues, entries) := placeAll (position + values.length) rest
    (values ++ moreValues, entry ++ entries)

/-- The TIFF file of a picture. -/
def encode (picture : Picture) : List UInt8 :=
  let fields := fields picture.width picture.height
  let start := headerSize + 3 * picture.width * picture.height
  let (values, entries) := placeAll start fields
  [0x49, 0x49] ++ halfWord 42 ++ word (start + values.length) ++ word 1 ++ word 1 ++ word 1 ++
    word 1 ++ picture.bytes ++ values ++ halfWord fields.length ++ entries ++ word 0

end Panorama.Tiff
