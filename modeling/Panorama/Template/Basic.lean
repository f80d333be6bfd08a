import Panorama.Region

/-!
# Templates

A template says for every pixel of an output which points of which sources it is made of. The
contributions of all pixels stand in one array, and an array of offsets says where those of a
pixel begin and end. A pixel without contributions is unmapped; one with several is an overlap.
-/

namespace Panorama

/-- One contribution to an output pixel: a point of a source with a weight. -/
structure Sample where
  /-- Index of the source. -/
  source : UInt16
  /-- Column, which may lie between pixels. -/
  x : Float32
  /-- Row, which may lie between pixels. -/
  y : Float32
  /-- Share in the output pixel. -/
  weight : Float32
  deriving DecidableEq

/-- How the contributions of an overlap are combined. -/
inductive BlendMode where
  /-- Their weighted sum. -/
  | weighted
  /-- The one with the largest weight. -/
  | hardSeam
  deriving DecidableEq, Repr

/-- Whether a template asks for exposure compensation. -/
inductive GainHint where
  /-- It does not. -/
  | off
  /-- Overlaps are to be equalized. -/
  | adaptive
  deriving DecidableEq, Repr

/-- What lies beyond the edge of a source along one axis. -/
inductive EdgeMode where
  /-- A fill value. -/
  | fill
  /-- The opposite edge. -/
  | wrap
  deriving DecidableEq, Repr

/-- What lies beyond the edges of a source. -/
structure EdgePolicy where
  /-- Beyond the left and right edge. -/
  x : EdgeMode
  /-- Beyond the top and bottom edge. -/
  y : EdgeMode
  deriving DecidableEq, Repr

namespace EdgePolicy

/-- Fill values all around. -/
def fill : EdgePolicy := ⟨.fill, .fill⟩

/-- A full turn around the horizon. -/
def azimuthal : EdgePolicy := ⟨.wrap, .fill⟩

end EdgePolicy

/-- The contributions of all pixels, row by row. -/
structure SampleTable where
  /-- Where the contributions of each pixel begin, and where those of the last one end. -/
  offsets : Array Nat
  /-- The contributions. -/
  samples : Array Sample
  deriving DecidableEq

namespace SampleTable

/-- The table of no pixel. -/
def empty : SampleTable := ⟨#[0], #[]⟩

/-- The contributions of a pixel; none if the table has no such pixel. -/
def entry? (table : SampleTable) (index : Nat) : Option (List Sample) := do
  let start ← table.offsets[index]?
  let stop ← table.offsets[index + 1]?
  if start ≤ stop ∧ stop ≤ table.samples.size then some (table.samples.extract start stop).toList
  else none

/-- Number of pixels. -/
def size (table : SampleTable) : Nat := table.offsets.size - 1

/-- How many contributions each pixel has. -/
def counts (table : SampleTable) : List Nat :=
  (List.range table.size).map fun index ↦
    table.offsets.getD (index + 1) 0 - table.offsets.getD index 0

end SampleTable

/-- Everything about a template but its contributions. -/
structure TemplateHeader where
  /-- Size of the output. -/
  size : Canvas
  /-- Sizes of the sources. -/
  inputs : List Canvas
  /-- Place of the output on a larger canvas. -/
  region : Region
  /-- How overlaps are combined unless something else is configured. -/
  blend : BlendMode
  /-- Whether overlaps are equalized unless something else is configured. -/
  gain : GainHint
  /-- What lies beyond the edges of the sources. -/
  edge : EdgePolicy
  deriving DecidableEq

/-- A mapping from the pixels of an output to points of sources. -/
structure Template extends TemplateHeader where
  /-- The contributions of the output's pixels. -/
  table : SampleTable
  deriving DecidableEq

/-- How much of an output a template covers. -/
structure Coverage where
  /-- Pixels with contributions. -/
  mapped : Nat
  /-- Pixels without. -/
  unmapped : Nat
  /-- Pixels with several. -/
  overlap : Nat
  /-- The largest number of contributions of a pixel. -/
  maxSources : Nat
  deriving DecidableEq, Repr

/-- Count one more pixel. -/
def Coverage.add (coverage : Coverage) (sources : Nat) : Coverage where
  mapped := if sources = 0 then coverage.mapped else coverage.mapped + 1
  unmapped := if sources = 0 then coverage.unmapped + 1 else coverage.unmapped
  overlap := if 2 ≤ sources then coverage.overlap + 1 else coverage.overlap
  maxSources := max coverage.maxSources sources

namespace Template

/-- The contributions of an output pixel; none outside the output. -/
def lookup? (template : Template) (x y : Nat) : Option (List Sample) :=
  if x < template.size.width.toNat ∧ y < template.size.height.toNat then
    template.table.entry? (y * template.size.width.toNat + x)
  else none

/-- The indices of the pixels with several contributions, in order. -/
def overlapPixels (template : Template) : List Nat :=
  (template.table.counts.zipIdx.filter fun (count, _) ↦ 2 ≤ count).map Prod.snd

/-- How much of the output the template covers. -/
def coverage (template : Template) : Coverage :=
  template.table.counts.foldl Coverage.add ⟨0, 0, 0, 0⟩

end Template

end Panorama
