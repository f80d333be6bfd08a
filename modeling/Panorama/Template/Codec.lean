import Panorama.Digest.XXH3
import Panorama.Number.LittleEndian
import Panorama.Stream
import Panorama.Template.Validation

/-!
# The template file

A template file holds, in little-endian words and without anything in between:

* the mark `PSTM` and the version 1;
* width and height of the output;
* the number of sources, then width and height of each;
* the four doubles of the region;
* four tag bytes: blend mode, gain hint, horizontal and vertical edge;
* the number of output pixels as a 64-bit word;
* for every pixel the number of its contributions as a byte, then for each of them the source
  index, the column, the row and the weight as one half word and three singles.

Nothing follows. There is one way to write a template, so encoding what was decoded gives the same
bytes back.
-/

namespace Panorama

open Number (LittleEndian.encode LittleEndian.decode)

/-- The mark at the start of a template file. -/
def templateMagic : List UInt8 := [0x50, 0x53, 0x54, 0x4D]

/-- The version of the format. -/
def templateVersion : Nat := 1

/-- The tag of a blend mode. -/
def BlendMode.tag : BlendMode → UInt8
  | .weighted => 0
  | .hardSeam => 1

/-- The blend mode of a tag. -/
def BlendMode.ofTag? : UInt8 → Option BlendMode
  | 0 => some .weighted
  | 1 => some .hardSeam
  | _ => none

/-- The tag of a gain hint. -/
def GainHint.tag : GainHint → UInt8
  | .off => 0
  | .adaptive => 1

/-- The gain hint of a tag. -/
def GainHint.ofTag? : UInt8 → Option GainHint
  | 0 => some .off
  | 1 => some .adaptive
  | _ => none

/-- The tag of an edge mode. -/
def EdgeMode.tag : EdgeMode → UInt8
  | .fill => 0
  | .wrap => 1

/-- The edge mode of a tag. -/
def EdgeMode.ofTag? : UInt8 → Option EdgeMode
  | 0 => some .fill
  | 1 => some .wrap
  | _ => none

/-! ### Writing -/

/-- The bytes of a size. -/
def Canvas.encode (size : Canvas) : List UInt8 :=
  LittleEndian.encode 4 size.width.toNat ++ LittleEndian.encode 4 size.height.toNat

/-- The bytes of a region. -/
def Region.encode (region : Region) : List UInt8 :=
  [region.x, region.y, region.width, region.height].flatMap fun value ↦
    LittleEndian.encode 8 value.toBits.toNat

/-- The bytes of a contribution. -/
def Sample.encode (sample : Sample) : List UInt8 :=
  LittleEndian.encode 2 sample.source.toNat ++
    [sample.x, sample.y, sample.weight].flatMap fun value ↦
      LittleEndian.encode 4 value.toBits.toNat

/-- The bytes of the contributions of one pixel. -/
def Sample.encodeEntry (entry : List Sample) : List UInt8 :=
  .ofNat entry.length :: entry.flatMap Sample.encode

/-- The bytes of a header, up to the number of pixels. -/
def TemplateHeader.encode (header : TemplateHeader) : List UInt8 :=
  templateMagic ++ LittleEndian.encode 4 templateVersion ++ header.size.encode ++
    LittleEndian.encode 4 header.inputs.length ++ header.inputs.flatMap Canvas.encode ++
    header.region.encode ++
    [header.blend.tag, header.gain.tag, header.edge.x.tag, header.edge.y.tag]

namespace Template

/-- The bytes of a template. -/
def encode (template : Template) : List UInt8 :=
  template.toTemplateHeader.encode ++ LittleEndian.encode 8 template.table.size ++
    (List.range template.table.size).flatMap fun index ↦
      Sample.encodeEntry ((template.table.entry? index).getD [])

/-- Write a template. -/
def save (template : Template) (sink : Sink) : Result Sink :=
  sink.write template.encode

/-- A short mark of the template's bytes. -/
def fingerprint (template : Template) : UInt64 :=
  Digest.XXH3.digest template.encode.toArray

end Template

/-! ### Reading -/

/-- A step of reading a template: a value and the stream that is left. -/
abbrev TemplateReader := StateT Source Result

namespace TemplateReader

/-- Refuse what was read. -/
def refuse {α : Type} (flaw : TemplateFlaw) : TemplateReader α :=
  throw (.malformedTemplate flaw)

/-- The bytes of a field. A stream that ends before is truncated; one that fails, failed. -/
def bytes (field : TemplateField) (count : Nat) : TemplateReader (List UInt8) := fun source ↦
  let filled := source.fill count
  if filled.bytes.length = count then .ok (filled.bytes, filled.source)
  else
    match filled.failure with
    | some failure => .error (.io failure)
    | none => .error (.malformedTemplate (.truncated field))

/-- The word of a field. -/
def word (field : TemplateField) (count : Nat) : TemplateReader Nat := do
  return LittleEndian.decode (← bytes field count)

/-- The size in two fields. -/
def size (width height : TemplateField) : TemplateReader Canvas := do
  let width ← word width 4
  let height ← word height 4
  return ⟨.ofNat width, .ofNat height⟩

/-- A coordinate of the region. -/
def double (field : TemplateField) : TemplateReader Float := do
  return Float.ofBits (.ofNat (← word field 8))

/-- A number of a contribution. -/
def single (field : TemplateField) : TemplateReader Float32 := do
  return Float32.ofBits (.ofNat (← word field 4))

/-- A tag with its meaning. -/
def tagged {α : Type} (field : TemplateField) (tag : TemplateTag) (meaning : UInt8 → Option α) :
    TemplateReader α := do
  match meaning (.ofNat (← word field 1)) with
  | some value => return value
  | none => refuse (.unknownTag tag)

/-- The sizes of sources. -/
def inputs : Nat → TemplateReader (List Canvas)
  | 0 => return []
  | count + 1 => do
    let first ← size .inputWidth .inputHeight
    return first :: (← inputs count)

/-- One contribution. -/
def sample : TemplateReader Sample := do
  let source ← word .source 2
  let x ← single .x
  let y ← single .y
  let weight ← single .weight
  return ⟨.ofNat source, x, y, weight⟩

/-- Several contributions. -/
def samples : Nat → TemplateReader (List Sample)
  | 0 => return []
  | count + 1 => do
    let first ← sample
    return first :: (← samples count)

/-- The contributions of further pixels. -/
def entries (inputs : List Canvas) : Nat → SampleTable → TemplateReader SampleTable
  | 0, table => return table
  | count + 1, table => do
    let entry ← samples (← word .sourceCount 1)
    let table ← (table.add inputs entry : Result SampleTable)
    entries inputs count table

/-- The header, up to the tags. -/
def header : TemplateReader TemplateHeader := do
  let magic ← bytes .magic 4
  if magic ≠ templateMagic then refuse (.badMagic magic)
  let version ← word .version 4
  if version ≠ templateVersion then refuse (.unsupportedVersion version)
  let outputSize ← size .outputWidth .outputHeight
  let count ← word .inputCount 4
  if count = 0 ∨ maxTemplateInputs < count then refuse (.inputCount count)
  let inputSizes ← inputs count
  let x ← double .region
  let y ← double .region
  let width ← double .region
  let height ← double .region
  let blend ← tagged .blendTag .blend BlendMode.ofTag?
  let gain ← tagged .gainTag .gain GainHint.ofTag?
  let horizontal ← tagged .edgeTag .horizontalEdge EdgeMode.ofTag?
  let vertical ← tagged .edgeTag .verticalEdge EdgeMode.ofTag?
  return { size := outputSize, inputs := inputSizes, region := ⟨x, y, width, height⟩
           blend, gain, edge := ⟨horizontal, vertical⟩ }

/-- The end of the stream. -/
def finish : TemplateReader Unit := fun source ↦
  match source.read 1 with
  | .error failure => .error (.io failure)
  | .ok ([], source) => .ok ((), source)
  | .ok (_ :: _, _) => .error (.malformedTemplate .trailingBytes)

/-- A whole template file. -/
def template : TemplateReader Template := do
  let header ← header
  header.validate
  let declared ← word .pixelCount 8
  if declared ≠ header.size.area then refuse (.pixelCount declared header.size)
  let table ← entries header.inputs declared .empty
  finish
  return { header with table }

end TemplateReader

/-- Read a template from a stream that holds nothing else. -/
def Template.load (source : Source) : Result Template := do
  let (template, _) ← TemplateReader.template.run source
  return template

end Panorama
