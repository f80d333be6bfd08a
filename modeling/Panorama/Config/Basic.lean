import Panorama.Compositor.Basic
import Panorama.Frame.Pool
import Panorama.Gain.Mode

/-!
# Configurations

Everything that a user chooses about a stitcher: the inputs, one or more outputs with their
templates, and options with defaults.
-/

namespace Panorama

/-- One configured output. -/
structure OutputConfig where
  /-- Path of the template. -/
  template : String
  /-- How overlaps are combined, if not as the template says. -/
  blend : Option BlendMode
  /-- How gains come about, if not as the template says. -/
  gain : Option GainMode
  /-- Path of a gain schedule. -/
  gainSchedule : Option String
  /-- Place on the canvas, if not that of the template. -/
  region : Option Region
  deriving DecidableEq

/-- A configured stitcher. -/
structure StitchConfig where
  /-- Number of sources. -/
  inputs : Nat
  /-- Pixel layout of sources and outputs. -/
  inputFormat : PixelFormat
  /-- The columns of the sources that are used. -/
  crop : Option Crop
  /-- The outputs. -/
  outputs : List OutputConfig
  /-- Size of a canvas that all outputs share. -/
  canvas : Option Canvas
  /-- Size of the previews. -/
  preview : Option Canvas
  /-- The filter between pixels. -/
  interpolation : Interpolation
  /-- What neighbors outside a filled axis have. -/
  fill : Option (UInt8 × UInt8 × UInt8)
  /-- Number of workers. -/
  workerThreads : Option Nat
  /-- What the pool may keep. -/
  pool : PoolLimits
  deriving DecidableEq

/-- Refuse an output with two sources of gains, with gains that are none, or with a region that is
none or has no canvas. -/
def OutputConfig.validate (output : OutputConfig) (index inputs : Nat) (canvas : Option Canvas) :
    Result Unit := do
  if output.gain.isSome && output.gainSchedule.isSome then
    throw (.invalid (.configTwoGains index))
  if let some gain := output.gain then
    if let .error flaw := gain.validate inputs then throw (.invalid (.configGain index flaw))
  if let some region := output.region then
    region.validate
    if canvas.isNone then throw (.invalid (.configRegion index))

namespace StitchConfig

/-- The largest number of sources of a configuration. -/
def maxInputs : Nat := 65535

/-- Refuse a crop of no column and one that cuts through a chroma pixel. -/
def checkCrop (format : PixelFormat) (crop : Crop) : Result Unit := do
  if crop.width == 0 then throw (.invalid .configCropWidth)
  if format.isChromaSubsampled && (crop.x % 2 != 0 || crop.width % 2 != 0) then
    throw (.invalid .configOddCrop)

/-- Refuse the first output that is not accepted, from position `index` on. -/
def checkOutputs (config : StitchConfig) (index : Nat) : List OutputConfig → Result Unit
  | [] => .ok ()
  | output :: rest => do
    output.validate index config.inputs config.canvas
    config.checkOutputs (index + 1) rest

/-- Refuse a configuration that no stitcher can have. -/
def validate (config : StitchConfig) : Result Unit := do
  if config.inputs = 0 ∨ maxInputs < config.inputs then
    throw (.invalid (.configInputs config.inputs))
  if config.outputs.isEmpty then throw (.invalid .configOutputs)
  if let some crop := config.crop then checkCrop config.inputFormat crop
  if let some canvas := config.canvas then config.inputFormat.checkSize canvas
  if let some preview := config.preview then config.inputFormat.checkSize preview
  if config.workerThreads = some 0 then throw (.invalid .configWorkers)
  config.checkOutputs 0 config.outputs

/-- How the outputs become frames. -/
def layout (config : StitchConfig) : OutputLayout :=
  match config.canvas with
  | some canvas => .merged canvas
  | none => .separate

end StitchConfig

end Panorama
