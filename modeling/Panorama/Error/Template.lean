import Panorama.Canvas
import Panorama.Decimal.Text

/-!
# Malformed templates

What can be wrong with a template: with its region, with the sources of one pixel, with its
encoding.
-/

namespace Panorama

/-- Why a normalized region is none. -/
inductive RegionFlaw where
  /-- A coordinate is infinite or NaN. -/
  | notFinite
  /-- The origin is negative or the extent is not positive. -/
  | outOfOrder
  /-- The region reaches beyond the unit square. -/
  | outside
  deriving DecidableEq, Repr

/-- The wording of a region flaw. -/
def RegionFlaw.message : RegionFlaw → String
  | .notFinite => "region values must be finite"
  | .outOfOrder => "region origin must be >= 0 and extent > 0"
  | .outside => "region must lie inside the unit square"

/-- Why the contributions of one template pixel are refused. -/
inductive PixelFlaw where
  /-- More contributions than a byte can count. -/
  | tooManySources (count : Nat)
  /-- A contribution names a source that the template does not have. -/
  | unknownSource (source inputs : Nat)
  /-- A coordinate or weight is infinite or NaN. -/
  | notFinite
  /-- A coordinate is more than one sample outside its source. -/
  | outside (x y : Float32) (source : Nat) (size : Canvas)
  /-- A weight is below zero. -/
  | negativeWeight
  /-- The weights of several contributions do not sum to one. -/
  | unbalanced (sum : Float32)
  deriving DecidableEq

/-- The wording of a pixel flaw, which follows the pixel's index. -/
def PixelFlaw.message : PixelFlaw → String
  | .tooManySources count => s!"lists {count} sources (max 255)"
  | .unknownSource source inputs => s!"references source {source} of {inputs}"
  | .notFinite => "has non-finite values"
  | .outside x y source size =>
    s!"maps to ({Decimal.singleText x}, {Decimal.singleText y}) outside source {source} " ++
      s!"({size.text})"
  | .negativeWeight => "has a negative weight"
  | .unbalanced sum => s!"weights sum to {Decimal.singleText sum}, expected 1"

/-- The fields of a template file, in the order they are read. -/
inductive TemplateField where
  | magic | version | outputWidth | outputHeight | inputCount | inputWidth | inputHeight | region
  | blendTag | gainTag | edgeTag | pixelCount | sourceCount | source | x | y | weight
  deriving DecidableEq, Repr

/-- What a template field is called. -/
def TemplateField.text : TemplateField → String
  | .magic => "magic"
  | .version => "version"
  | .outputWidth => "output width"
  | .outputHeight => "output height"
  | .inputCount => "input count"
  | .inputWidth => "input width"
  | .inputHeight => "input height"
  | .region => "region"
  | .blendTag => "blend tag"
  | .gainTag => "gain tag"
  | .edgeTag => "edge tag"
  | .pixelCount => "entry count"
  | .sourceCount => "entry length"
  | .source => "source index"
  | .x => "source x"
  | .y => "source y"
  | .weight => "weight"

/-- The tags of a template, each a byte with few meanings. -/
inductive TemplateTag where
  | blend | gain | horizontalEdge | verticalEdge
  deriving DecidableEq, Repr

/-- What a template tag is called. -/
def TemplateTag.text : TemplateTag → String
  | .blend => "blend"
  | .gain => "gain"
  | .horizontalEdge => "horizontal edge"
  | .verticalEdge => "vertical edge"

/-- Why a template is refused. -/
inductive TemplateFlaw where
  /-- The stream does not start with the template mark. -/
  | badMagic (bytes : List UInt8)
  /-- The stream has another version. -/
  | unsupportedVersion (version : Nat)
  /-- The stream ends in front of or inside a field. -/
  | truncated (field : TemplateField)
  /-- A tag byte has no meaning. -/
  | unknownTag (tag : TemplateTag)
  /-- The output size is empty or too large. -/
  | outputSize (size : Canvas)
  /-- There is no source or there are too many. -/
  | inputCount (count : Nat)
  /-- The size of a source is empty or too large. -/
  | inputSize (input : Nat) (size : Canvas)
  /-- The placement is no region. -/
  | region (flaw : RegionFlaw)
  /-- The declared number of pixels is not that of the output. -/
  | pixelCount (declared : Nat) (size : Canvas)
  /-- The contributions of a pixel are refused. -/
  | pixel (index : Nat) (flaw : PixelFlaw)
  /-- The output has another number of pixels than a builder. -/
  | outputMemory (size : Canvas)
  /-- There are more contributions than an offset can count. -/
  | tooManySamples
  /-- Something follows the last pixel. -/
  | trailingBytes
  /-- A flaw of the template in a named file. -/
  | inFile (path : String) (flaw : TemplateFlaw)
  deriving DecidableEq

/-- The wording of a template flaw. -/
def TemplateFlaw.message : TemplateFlaw → String
  | .badMagic bytes =>
    "bad magic [" ++ ", ".intercalate (bytes.map fun byte ↦ Decimal.hexText 2 byte.toNat) ++ "]"
  | .unsupportedVersion version => s!"unsupported version {version} (expected 1)"
  | .truncated field => s!"truncated stream while reading {field.text}"
  | .unknownTag tag => s!"unknown {tag.text} tag"
  | .outputSize size => s!"output size {size.text} outside 1..=65536"
  | .inputCount count => s!"input count {count} outside 1..=65536"
  | .inputSize input size => s!"input {input} has invalid size {size.text}"
  | .region flaw => s!"region: validation error: {flaw.message}"
  | .pixelCount declared size =>
    s!"declared {declared} entries for a {size.text} output ({size.area} pixels)"
  | .pixel index flaw => s!"pixel {index} {flaw.message}"
  | .outputMemory size => s!"output size {size.text} does not fit in memory"
  | .tooManySamples => "template holds more than u32::MAX samples"
  | .trailingBytes => "trailing bytes after coordinate table"
  | .inFile path flaw => s!"'{path}': {flaw.message}"

end Panorama
