import Panorama.Compositor.Layout
import Panorama.Gain.Table
import Panorama.Sampling

/-!
# Compositors

A compositor is a checked set of outputs: all templates were made for the same sources, and every
size suits the pixel format. It tells which frame sets and gain tables it can work with.
-/

namespace Panorama

/-- How sources are sampled and how many workers may do it. -/
structure CompositeOptions where
  /-- The filter between pixels. -/
  interpolation : Interpolation
  /-- What neighbors outside a filled axis have: one byte per plane, or per channel where a plane
  has several. -/
  fill : Option (UInt8 × UInt8 × UInt8)
  /-- Number of workers. -/
  threads : Option Nat
  deriving DecidableEq, Repr

/-- A checked set of outputs. -/
structure Compositor where
  /-- Pixel layout of all frames. -/
  format : PixelFormat
  /-- The columns of the sources that are used. -/
  crop : Option Crop
  /-- How sources are sampled. -/
  options : CompositeOptions
  /-- The outputs. -/
  outputs : List OutputSpec
  /-- Sizes of the sources, after the crop. -/
  inputs : List Canvas
  /-- Where the outputs go. -/
  arrangement : Arrangement
  deriving DecidableEq

namespace Compositor

/-- Check the outputs from position `index` on against the sources of the first. -/
def checkOutputs (format : PixelFormat) (inputs : List Canvas) (index : Nat) :
    List OutputSpec → Result Unit
  | [] => .ok ()
  | output :: rest => do
    if output.template.inputs ≠ inputs then
      throw (.sizeMismatch (.templateInputs index output.template.inputs inputs))
    format.checkSize output.template.size
    checkOutputs format inputs (index + 1) rest

/-- The compositor of some outputs, of which there is at least one. -/
def make (format : PixelFormat) (crop : Option Crop) (outputs : List OutputSpec)
    (layout : OutputLayout) (options : CompositeOptions) : Result Compositor := do
  let inputs ← match outputs with
    | [] => throw (.invalid .noTemplate)
    | first :: _ => pure first.template.inputs
  checkOutputs format inputs 0 outputs
  inputs.forM format.checkSize
  let arrangement ← Arrangement.make format outputs layout
  if options.threads = some 0 then throw (.invalid .noWorker)
  return { format, crop, options, outputs, inputs, arrangement }

/-- The templates of the outputs. -/
def templates (compositor : Compositor) : List Template :=
  compositor.outputs.map OutputSpec.template

/-- Sizes of the produced frames. -/
def outputSizes (compositor : Compositor) : List Canvas :=
  compositor.arrangement.frames

/-- Show the frames from position `index` on through the crop, and compare format and size. -/
def prepareFrom (compositor : Compositor) (index : Nat) :
    List (Frame × Canvas) → Outcome (List FrameView)
  | [] => .ok []
  | (frame, expected) :: rest => do
    if frame.format ≠ compositor.format then
      throw (.refused (.sizeMismatch (.inputFormat index frame.format compositor.format)))
    let view ← frame.view compositor.crop
    if view.size ≠ expected then
      throw (.refused (.sizeMismatch (.inputSize index view.size expected)))
    return view :: (← compositor.prepareFrom (index + 1) rest)

/-- The views of a frame set with one frame per source. -/
def prepare (compositor : Compositor) (frames : List Frame) : Outcome (List FrameView) :=
  if frames.length ≠ compositor.inputs.length then
    .error (.refused (.sizeMismatch (.frameCount frames.length compositor.inputs.length)))
  else compositor.prepareFrom 0 (frames.zip compositor.inputs)

/-- Check the rows of a gain table from position `index` on. -/
def checkRows (inputs index : Nat) : List (List Float32) → Result Unit
  | [] => .ok ()
  | row :: rest => do
    if row.length ≠ inputs then throw (.sizeMismatch (.gainRow index row.length inputs))
    checkRows inputs (index + 1) rest

/-- Refuse a gain table without one row per output and one gain per source. -/
def checkGains (compositor : Compositor) (gains : GainTable) : Result Unit :=
  if gains.rows.length ≠ compositor.outputs.length then
    .error (.sizeMismatch (.gainRows gains.rows.length compositor.outputs.length))
  else checkRows compositor.inputs.length 0 gains.rows

end Compositor

end Panorama
