import Panorama.Compositor.Render
import Panorama.Frame.Pool
import Panorama.Frame.Preview
import Panorama.Gain.Compensator

/-!
# Stitchers

A stitcher turns one frame set after the other into output frames: it updates the gains, takes
buffers from a pool, composes into them, and makes a preview of the first output. Output frames
that are given back go to the pool.
-/

namespace Panorama

/-- What a frame set becomes. -/
structure StitchOutput where
  /-- The output frames. -/
  outputs : List Frame
  /-- The first output at the preview's size. -/
  preview : Option Frame
  deriving DecidableEq

/-- A compositor with gains, a pool of buffers, and the size of its previews. -/
structure Stitcher where
  /-- What composes. -/
  compositor : Compositor
  /-- The gains over time. -/
  gains : GainCompensator
  /-- Where output buffers come from. -/
  pool : FramePool
  /-- Size of the previews, if any are made. -/
  preview : Option Canvas
  deriving DecidableEq

namespace Stitcher

/-- A stitcher. The gains must follow as many templates as there are outputs, and the size of the
previews must suit the pixel format. -/
def make (compositor : Compositor) (gains : GainCompensator) (preview : Option Canvas)
    (limits : PoolLimits) : Result Stitcher := do
  if gains.templates ≠ compositor.outputs.length then
    throw (.invalid (.trackedTemplates gains.templates compositor.outputs.length))
  if let some size := preview then compositor.format.checkSize size
  return ⟨compositor, gains, .start limits, preview⟩

/-- The preview of composed frames. -/
def previewOf (stitcher : Stitcher) (outputs : List Frame) : Outcome (Option Frame) :=
  match stitcher.preview, outputs with
  | some size, first :: _ => some <$> first.preview size
  | _, _ => .ok none

/-- Compose into given buffers and make the preview. -/
def finish (stitcher : Stitcher) (views : List FrameView) (targets : List Frame) :
    Outcome StitchOutput := do
  let outputs ← stitcher.compositor.render views stitcher.gains.table targets
  let preview ← stitcher.previewOf outputs
  return ⟨outputs, preview⟩

/-- Take buffers for the views of a frame set, compose into them and make the preview. -/
def compose (stitcher : Stitcher) (views : List FrameView) : Outcome StitchOutput × Stitcher :=
  let (targets, pool) :=
    stitcher.pool.borrowAll stitcher.compositor.format stitcher.compositor.outputSizes
  let stitcher := { stitcher with pool }
  match targets with
  | .error error => (.error (.refused error), stitcher)
  | .ok targets => (stitcher.finish views targets, stitcher)

/-- Process a frame set. A set that does not suit the compositor leaves no trace. Otherwise the
gains have moved on, even if there is no memory for the output. -/
def process (stitcher : Stitcher) (frames : List Frame) : Outcome StitchOutput × Stitcher :=
  match stitcher.compositor.prepare frames with
  | .error failure => (.error failure, stitcher)
  | .ok views =>
    let (updated, gains) := stitcher.gains.update views stitcher.compositor.templates
    let stitcher := { stitcher with gains }
    match updated with
    | .error failure => (.error failure, stitcher)
    | .ok () => stitcher.compose views

/-- Give frames back for reuse. -/
def recycle (stitcher : Stitcher) (frames : List Frame) : Stitcher :=
  { stitcher with pool := stitcher.pool.releaseAll frames }

end Stitcher

end Panorama
