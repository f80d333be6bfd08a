import Panorama.Frame.Basic
import Panorama.Template.Basic

/-!
# Output layouts

Where the output of each template goes: into a frame of its own, or into the pixels of its region
on one merged canvas. On a merged canvas a region covers exactly the pixels of its template. What
no template covers shows "no signal".
-/

namespace Panorama

/-- One configured output. -/
structure OutputSpec where
  /-- The mapping. -/
  template : Template
  /-- How overlaps are combined. -/
  blend : BlendMode
  /-- Place on a merged canvas. -/
  region : Region
  deriving DecidableEq

/-- The output of a template with the template's own blend mode and region. -/
def OutputSpec.ofTemplate (template : Template) : OutputSpec where
  template := template
  blend := template.blend
  region := template.region

/-- How outputs become frames. -/
inductive OutputLayout where
  /-- Every output is a frame of its own. -/
  | separate
  /-- All outputs share one canvas. -/
  | merged (canvas : Canvas)
  deriving DecidableEq, Repr

/-- The pixels of a frame that an output fills. -/
structure Placement where
  /-- Index of the frame. -/
  frame : Nat
  /-- The pixels. -/
  rect : PixelRect
  deriving DecidableEq, Repr

/-- Sizes of the produced frames, the place of every output, and whether the frames have to be
cleared first. -/
structure Arrangement where
  frames : List Canvas
  placements : List Placement
  prefill : Bool
  deriving DecidableEq

namespace Arrangement

/-- Every output in a frame of its own. -/
def separate (outputs : List OutputSpec) : Arrangement where
  frames := outputs.map fun output ↦ output.template.size
  placements := outputs.mapIdx fun index output ↦ ⟨index, .ofCanvas output.template.size⟩
  prefill := false

/-- The place of an output on a merged canvas. -/
def place (format : PixelFormat) (canvas : Canvas) (index : Nat) (output : OutputSpec) :
    Result Placement :=
  let rect := output.region.toPixels canvas
  let size := output.template.size
  if rect.size ≠ size || !rect.fits canvas then
    .error (.sizeMismatch (.placement index size rect.size canvas))
  else if format.isChromaSubsampled && (rect.x % 2 != 0 || rect.y % 2 != 0) then
    .error (.invalid (.oddPlacement index rect.x rect.y))
  else .ok ⟨0, rect⟩

/-- The places of outputs on a merged canvas, from position `index` on. -/
def placeFrom (format : PixelFormat) (canvas : Canvas) (index : Nat) :
    List OutputSpec → Result (List Placement)
  | [] => .ok []
  | output :: rest => do
    let first ← place format canvas index output
    return first :: (← placeFrom format canvas (index + 1) rest)

/-- Whether any two rectangles overlap. -/
def overlaps : List PixelRect → Bool
  | [] => false
  | rect :: rest => rest.any rect.intersects || overlaps rest

/-- All outputs on one canvas, which is cleared first unless they tile it. -/
def merged (format : PixelFormat) (canvas : Canvas) (outputs : List OutputSpec) :
    Result Arrangement := do
  format.checkSize canvas
  let placements ← placeFrom format canvas 0 outputs
  let rects := placements.map Placement.rect
  let covered := (rects.map fun rect ↦ rect.size.area).foldl (· + ·) 0
  return { frames := [canvas], placements
           prefill := !(covered = canvas.area && !overlaps rects) }

/-- The arrangement of a layout. -/
def make (format : PixelFormat) (outputs : List OutputSpec) : OutputLayout → Result Arrangement
  | .separate => .ok (separate outputs)
  | .merged canvas => merged format canvas outputs

end Arrangement

end Panorama
