import Panorama.Template.Validation

/-!
# Building templates

A builder collects the contributions of each output pixel and turns them into a template. Setting
a pixel again replaces its contributions; setting one outside the output does nothing.
-/

namespace Panorama

/-- A template in the making. -/
structure TemplateBuilder extends TemplateHeader where
  /-- The contributions of each output pixel, row by row. -/
  entries : Array (List Sample)

namespace TemplateBuilder

/-- A builder of a template without contributions. An output of no acceptable size has no pixel. -/
def start (header : TemplateHeader) : TemplateBuilder where
  toTemplateHeader := header
  entries := Array.replicate (if header.size.isTemplateSize then header.size.area else 0) []

/-- Set the contributions of an output pixel. -/
def set (builder : TemplateBuilder) (x y : Nat) (entry : List Sample) : TemplateBuilder :=
  if x < builder.size.width.toNat ∧ y < builder.size.height.toNat then
    let index := y * builder.size.width.toNat + x
    { builder with entries := builder.entries.setIfInBounds index entry }
  else builder

/-- Map an output pixel to one point of one source. -/
def mapSingle (builder : TemplateBuilder) (x y : Nat) (source : UInt16)
    (sourceX sourceY : Float32) : TemplateBuilder :=
  builder.set x y [⟨source, sourceX, sourceY, 1⟩]

/-- The finished template, if its header, its number of pixels and all contributions are
accepted. -/
def build (builder : TemplateBuilder) : Result Template := do
  builder.toTemplateHeader.validate
  if builder.size.area ≠ builder.entries.size then
    throw (.malformedTemplate (.outputMemory builder.size))
  let table ← builder.entries.toList.foldlM
    (fun table entry ↦ table.add builder.inputs entry) SampleTable.empty
  return { builder.toTemplateHeader with table }

end TemplateBuilder

end Panorama
