import Panorama.Template.Basic

/-!
# Which templates are accepted

The rules that the header of a template and the contributions of each pixel obey. Both ways of
making a template, building and decoding, add contributions with `SampleTable.add`, so that they
accept the same ones.
-/

namespace Panorama

/-- The largest width or height of an output or source. -/
def maxTemplateDimension : Nat := 65536

/-- The largest number of sources. -/
def maxTemplateInputs : Nat := 65536

/-- How far from one the weights of an overlap may sum. -/
def weightTolerance : Float32 := 1e-3

/-- Whether a size is neither empty nor too large. -/
def Canvas.isTemplateSize (size : Canvas) : Bool :=
  !size.isEmpty && size.width.toNat ≤ maxTemplateDimension &&
    size.height.toNat ≤ maxTemplateDimension

namespace TemplateHeader

/-- The first rule that a header breaks. -/
def flaw? (header : TemplateHeader) : Option TemplateFlaw :=
  if !header.size.isTemplateSize then some (.outputSize header.size)
  else if header.inputs.isEmpty || maxTemplateInputs < header.inputs.length then
    some (.inputCount header.inputs.length)
  else
    match header.inputs.zipIdx.find? fun (size, _) ↦ !size.isTemplateSize with
    | some (size, input) => some (.inputSize input size)
    | none => header.region.flaw?.map .region

/-- Refuse a header that breaks a rule. -/
def validate (header : TemplateHeader) : Result Unit :=
  match header.flaw? with
  | some flaw => .error (.malformedTemplate flaw)
  | none => .ok ()

end TemplateHeader

namespace Sample

/-- Whether a coordinate is at most one sample beyond either end of an axis. -/
def isNear (position : Float32) (length : UInt32) : Bool :=
  !(position < -1 || length.toFloat32 < position)

/-- The first rule that a contribution breaks. -/
def flaw? (inputs : List Canvas) (sample : Sample) : Option PixelFlaw :=
  match inputs[sample.source.toNat]? with
  | none => some (.unknownSource sample.source.toNat inputs.length)
  | some size =>
    if !(sample.x.isFinite && sample.y.isFinite && sample.weight.isFinite) then some .notFinite
    else if !(isNear sample.x size.width && isNear sample.y size.height) then
      some (.outside sample.x sample.y sample.source.toNat size)
    else if sample.weight < 0 then some .negativeWeight
    else none

/-- The first rule that the contributions of one pixel break. Several weights sum to one. -/
def entryFlaw? (inputs : List Canvas) (entry : List Sample) : Option PixelFlaw :=
  if 255 < entry.length then some (.tooManySources entry.length)
  else
    match entry.findSome? (flaw? inputs) with
    | some flaw => some flaw
    | none =>
      let sum := entry.foldl (fun sum sample ↦ sum + sample.weight) 0
      if 1 < entry.length && weightTolerance < (sum - 1).abs then some (.unbalanced sum) else none

end Sample

/-- Add the contributions of the next pixel, if they are accepted. -/
def SampleTable.add (table : SampleTable) (inputs : List Canvas) (entry : List Sample) :
    Result SampleTable :=
  match Sample.entryFlaw? inputs entry with
  | some flaw => .error (.malformedTemplate (.pixel table.size flaw))
  | none =>
    let samples := table.samples ++ entry
    if samples.size < UInt32.size then .ok ⟨table.offsets.push samples.size, samples⟩
    else .error (.malformedTemplate .tooManySamples)

end Panorama
