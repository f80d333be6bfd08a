import Panorama.Canvas

/-!
# Refused pictures

Why a picture cannot be written as a file of a format.
-/

namespace Panorama

/-- A side of a picture. -/
inductive Axis where
  | width | height
  deriving DecidableEq, Repr

namespace Axis

/-- The name of a side. -/
def name : Axis → String
  | width => "width"
  | height => "height"

/-- The length of a side. -/
def length (axis : Axis) (size : Canvas) : UInt32 :=
  match axis with
  | width => size.width
  | height => size.height

end Axis

/-- What the encoder of a format finds wrong with a picture. -/
inductive EncoderFlaw where
  /-- A side is too long. -/
  | dimensions
  /-- A side is too long for the size that it belongs to. -/
  | imageSize (size : Canvas)
  /-- A side is too long, and this is its length. -/
  | side (axis : Axis) (length : UInt32)
  /-- The coder of the pixels fails. -/
  | coder
  deriving DecidableEq, Repr

/-- The wording of an encoder. -/
def EncoderFlaw.message : EncoderFlaw → String
  | .dimensions => "Invalid dimensions"
  | .imageSize size =>
    s!"Invalid image size ({size.width} x {size.height}) to encode as JPEG: " ++
      "width and height must be >= 1 and <= 65535"
  | .side axis length => s!"Invalid TGA {axis.name}: {length}"
  | .coder => "Encoding error reported by rav1e"

/-- Why a picture cannot be written as a file of a format. -/
inductive PictureRefusal where
  /-- No file of this format can be written. -/
  | unwritable (format : String)
  /-- The format does not take pixels of three bytes. -/
  | colors (format : String)
  /-- An icon cannot have a side of this length. -/
  | icon (axis : Axis) (length : UInt32)
  /-- A side is too long. -/
  | dimensions
  /-- The encoder of a format stops. -/
  | encoder (format : String) (flaw : EncoderFlaw)
  deriving DecidableEq, Repr

/-- Why a picture cannot be written, nearest cause first. -/
def PictureRefusal.causes : PictureRefusal → List String
  | .unwritable format => [s!"The image format \x60{format}\x60 is not supported"]
  | .colors format =>
    [s!"The encoder or decoder for {format} does not support the color type \x60Rgb8\x60"]
  | .icon axis length =>
    [s!"The parameter is malformed: the image {axis.name} must be \x601..=256\x60, instead " ++
      s!"{axis.name} {length} was provided"]
  | .dimensions => ["The Image's dimensions are either too small or too large"]
  | .encoder format flaw =>
    [s!"Format error encoding {format}:\n{flaw.message}", flaw.message]

end Panorama
