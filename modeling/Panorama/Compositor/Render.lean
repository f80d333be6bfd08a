import Panorama.Blend
import Panorama.Compositor.Basic
import Panorama.Number.Byte

/-!
# Composition

Every output paints its pixels into its target frame, in order, so that a later output wins where
two overlap on a canvas. The first plane is sampled at the template's points and multiplied by the
source's gain. Chroma planes have one pixel per block of two by two: it is made of what the block's
upper left pixel is made of, at half the coordinates and without gain.
-/

namespace Panorama

namespace Plane

/-- Number of rows of which a plane has a byte. A plane without a stride has no rows. -/
def rowCount (plane : Plane) : Nat :=
  (plane.data.size + plane.stride.toNat - 1) / plane.stride.toNat

/-- The row behind the last one of a rectangle that is painted, where `rows` rows can be. -/
def bottom (rows top height : Nat) : Nat := min rows (top + height)

/-- Whether a plane has rows, and these hold the pixels of a rectangle as far as it is painted. -/
def holds (plane : Plane) (channels left top width bottom : Nat) : Bool :=
  0 < plane.stride.toNat && (bottom ≤ top ||
    ((left + width) * channels ≤ plane.stride.toNat &&
      (bottom - 1) * plane.stride.toNat + (left + width) * channels ≤ plane.data.size))

/-- Paint the pixels of a rectangle, given by its left, its top and its dimensions, and leave all
other bytes as they are. Of the rectangle, only what lies in the first `rows` rows is painted. A
color is asked for by column, row and channel inside the rectangle. -/
def paint? (plane : Plane) (rows channels left top width height : Nat)
    (color? : Nat → Nat → Nat → Option UInt8) : Option Plane := do
  let bottom := bottom rows top height
  if plane.holds channels left top width bottom then
    let stride := plane.stride.toNat
    let data ← plane.data.mapIdxM fun position byte ↦
      let row := position / stride
      let offset := position % stride
      if top ≤ row && row < bottom && left * channels ≤ offset &&
          offset < (left + width) * channels then
        let inside := offset - left * channels
        color? (inside / channels) (row - top) (inside % channels)
      else some byte
    return { plane with data }
  else none

end Plane

/-- The rows of a frame's plane that can be painted: all that have a byte in it and, for a chroma
plane, in the other one too. -/
def Frame.paintableRows (frame : Frame) (index : Nat) (plane : Plane) : Nat :=
  if index = 0 then plane.rowCount
  else (frame.planes.drop 1).foldl (fun rows chroma ↦ min rows chroma.rowCount) plane.rowCount

namespace Compositor

/-- The byte of a neighbor outside a filled axis. -/
def fillByte (compositor : Compositor) (plane channel : Nat) : UInt8 :=
  match compositor.options.fill with
  | none => compositor.format.noSignal plane
  | some (first, second, third) =>
    match if compositor.format = .rgb24 then channel else plane with
    | 0 => first
    | 1 => second
    | _ => third

/-- The value of a contribution in the first plane. -/
def primaryValue? (compositor : Compositor) (output : OutputSpec) (views : List FrameView)
    (gains : List Float32) (channel : Nat) (sample : Sample) : Option Float32 := do
  let view ← views[sample.source.toNat]?
  let plane ← view.planes[0]?
  let value ← plane.sample? channel compositor.options.interpolation output.template.edge
    (compositor.fillByte 0 channel) sample.x sample.y
  let gain ← gains[sample.source.toNat]?
  return value * gain

/-- The byte of an output in the first plane. -/
def primaryByte? (compositor : Compositor) (output : OutputSpec) (views : List FrameView)
    (gains : List Float32) (x y channel : Nat) : Option UInt8 := do
  let entry ← output.template.table.entry? (y * output.template.size.width.toNat + x)
  (Blend.of output.blend entry).evaluate? (compositor.format.noSignal 0)
    (compositor.primaryValue? output views gains channel) Number.roundToByte

/-- The value of a contribution in a chroma plane. -/
def chromaValue? (compositor : Compositor) (output : OutputSpec) (views : List FrameView)
    (index : Nat) (sample : Sample) : Option Float32 := do
  let view ← views[sample.source.toNat]?
  let plane ← view.planes[index]?
  plane.sample? 0 compositor.options.interpolation output.template.edge
    (compositor.fillByte index 0) (sample.x * 0.5) (sample.y * 0.5)

/-- The byte of an output in a chroma plane. -/
def chromaByte? (compositor : Compositor) (output : OutputSpec) (views : List FrameView)
    (index x y : Nat) : Option UInt8 := do
  let entry ← output.template.table.entry? (2 * y * output.template.size.width.toNat + 2 * x)
  (Blend.of output.blend entry).evaluate? (compositor.format.noSignal index)
    (compositor.chromaValue? output views index) Number.roundToByte

/-- Paint one plane of an output, of which `rows` rows can be painted. -/
def paintPlane? (compositor : Compositor) (output : OutputSpec) (views : List FrameView)
    (gains : List Float32) (rect : PixelRect) (rows index : Nat) (plane : Plane) :
    Option Plane :=
  let left := rect.x.toNat
  let top := rect.y.toNat
  let width := rect.width.toNat
  let height := rect.height.toNat
  if index = 0 then
    plane.paint? rows compositor.format.channels left top width height
      (compositor.primaryByte? output views gains)
  else
    plane.paint? rows 1 (left / 2) (top / 2) (width / 2) (height / 2)
      fun x y _ ↦ compositor.chromaByte? output views index x y

/-- Paint an output into its target. -/
def paintOutput? (compositor : Compositor) (output : OutputSpec) (views : List FrameView)
    (gains : List Float32) (rect : PixelRect) (target : Frame) : Option Frame := do
  let planes ← target.planes.zipIdx.mapM fun (plane, index) ↦
    compositor.paintPlane? output views gains rect (target.paintableRows index plane) index plane
  return { target with planes }

/-- The outputs that go into one frame, with their gains and places. -/
def painters (compositor : Compositor) (gains : GainTable) (frame : Nat) :
    List (OutputSpec × List Float32 × PixelRect) :=
  ((compositor.outputs.zip gains.rows).zip compositor.arrangement.placements).filterMap
    fun ((output, row), placement) ↦
      if placement.frame = frame then some (output, row, placement.rect) else none

/-- Whether a frame can be painted as one of the produced frames. -/
def accepts (compositor : Compositor) (size : Canvas) (target : Frame) : Bool :=
  target.size = size && target.format = compositor.format

/-- Paint all outputs of one frame. -/
def renderFrame? (compositor : Compositor) (views : List FrameView) (gains : GainTable)
    (frame : Nat) (size : Canvas) (target : Frame) : Option Frame :=
  if compositor.accepts size target then
    let target := if compositor.arrangement.prefill then target.fillNoSignal else target
    (compositor.painters gains frame).foldlM (fun target (output, row, rect) ↦
      compositor.paintOutput? output views row rect target) target
  else none

/-- Paint all outputs into given frames, which must be as many and as large as the produced ones,
with gains for all of them. -/
def render (compositor : Compositor) (views : List FrameView) (gains : GainTable)
    (targets : List Frame) : Outcome (List Frame) :=
  if targets.length = compositor.outputSizes.length ∧
      compositor.outputs.length ≤ gains.rows.length then
    Outcome.ofOption <| (compositor.outputSizes.zip targets).zipIdx.mapM
      fun ((size, target), frame) ↦ compositor.renderFrame? views gains frame size target
  else .error .fault

/-- Compose a frame set into given frames. -/
def compositeInto (compositor : Compositor) (frames : List Frame) (gains : GainTable)
    (targets : List Frame) : Outcome (List Frame) := do
  Outcome.ofResult (compositor.checkGains gains)
  let views ← compositor.prepare frames
  compositor.render views gains targets

/-- Fresh frames to compose into. -/
def freshTargets (compositor : Compositor) : Result (List Frame) :=
  compositor.outputSizes.mapM (Frame.blank compositor.format)

/-- Compose a frame set into fresh frames. -/
def composite (compositor : Compositor) (frames : List Frame) (gains : GainTable) :
    Outcome (List Frame) := do
  let targets ← Outcome.ofResult compositor.freshTargets
  compositor.compositeInto frames gains targets

end Compositor

end Panorama
