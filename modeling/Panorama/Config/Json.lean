import Panorama.Config.Basic
import Panorama.Config.GainMode
import Panorama.Config.Names

/-!
# Configurations as JSON

A configuration and each of its outputs are closed records; the records inside them are open. The
parts that may be missing may also be null, except for the filter and the pool, which then have to
be left out.
-/

namespace Panorama

open Json

/-- Take a size. -/
def Canvas.decode : Decoder Canvas := fun value ↦ do
  let fields ← Fields.of? ["width", "height"] false value
  return ⟨← fields.required "width" Decoder.word, ← fields.required "height" Decoder.word⟩

/-- Take a crop. -/
def Crop.decode : Decoder Crop := fun value ↦ do
  let fields ← Fields.of? ["x", "width"] false value
  return ⟨← fields.required "x" Decoder.word, ← fields.required "width" Decoder.word⟩

/-- Take a region. -/
def Region.decode : Decoder Region := fun value ↦ do
  let fields ← Fields.of? ["x", "y", "width", "height"] false value
  return ⟨← fields.required "x" Decoder.double, ← fields.required "y" Decoder.double,
    ← fields.required "width" Decoder.double, ← fields.required "height" Decoder.double⟩

/-- Take what a pool may keep. -/
def PoolLimits.decode : Decoder PoolLimits := fun value ↦ do
  let fields ← Fields.of? ["max_pool_bytes", "max_frames_per_bucket"] false value
  return {
    maxBytes := ← fields.withDefault "max_pool_bytes" standard.maxBytes Decoder.count
    maxFramesPerBucket := ←
      fields.withDefault "max_frames_per_bucket" standard.maxFramesPerBucket Decoder.count }

/-- Take the three fill values. -/
def decodeFill : Decoder (UInt8 × UInt8 × UInt8)
  | .array [first, second, third] => do
    return (← Decoder.byte first, ← Decoder.byte second, ← Decoder.byte third)
  | _ => none

/-- How deeply the gains of an output may nest. -/
def OutputConfig.gainLevels : Nat := 124

/-- Take an output. -/
def OutputConfig.decode : Decoder OutputConfig := fun value ↦ do
  let fields ← Fields.of? ["template", "blend", "gain", "gain_schedule", "region"] true value
  return {
    template := ← fields.required "template" Decoder.text
    blend := ← fields.optional "blend" (Decoder.choice BlendMode.ofName?)
    gain := ← fields.optional "gain" (GainMode.decode gainLevels)
    gainSchedule := ← fields.optional "gain_schedule" Decoder.text
    region := ← fields.optional "region" Region.decode }

namespace StitchConfig

/-- The names of a configuration's fields. -/
def fieldNames : List String :=
  ["inputs", "input_format", "crop", "outputs", "canvas", "preview", "interpolation", "fill",
    "worker_threads", "pool"]

/-- Take a configuration. -/
def decode : Decoder StitchConfig := fun value ↦ do
  let fields ← Fields.of? fieldNames true value
  return {
    inputs := ← fields.required "inputs" Decoder.count
    inputFormat := ← fields.required "input_format" (Decoder.choice PixelFormat.ofName?)
    crop := ← fields.optional "crop" Crop.decode
    outputs := ← fields.required "outputs" (Decoder.list OutputConfig.decode)
    canvas := ← fields.optional "canvas" Canvas.decode
    preview := ← fields.optional "preview" Canvas.decode
    interpolation := ←
      fields.withDefault "interpolation" .bilinear (Decoder.choice Interpolation.ofName?)
    fill := ← fields.optional "fill" decodeFill
    workerThreads := ← fields.optional "worker_threads" Decoder.count
    pool := ← fields.withDefault "pool" .standard PoolLimits.decode }

/-- The configuration written in a byte string, whether it is accepted or not. -/
def ofJson? (bytes : List UInt8) : Option StitchConfig := do
  decode (← Value.ofBytes? bytes)

/-- Read a configuration. -/
def parse (bytes : List UInt8) : Result StitchConfig :=
  match ofJson? bytes with
  | none => .error (.invalid .configText)
  | some config => do
    config.validate
    return config

end StitchConfig

/-- A size as JSON. -/
def Canvas.toJson (size : Canvas) : String :=
  Writing.object [("width", Writing.natural size.width.toNat),
    ("height", Writing.natural size.height.toNat)]

/-- A crop as JSON. -/
def Crop.toJson (crop : Crop) : String :=
  Writing.object [("x", Writing.natural crop.x.toNat),
    ("width", Writing.natural crop.width.toNat)]

/-- A region as JSON. -/
def Region.toJson (region : Region) : String :=
  Writing.object [("x", Writing.double region.x), ("y", Writing.double region.y),
    ("width", Writing.double region.width), ("height", Writing.double region.height)]

/-- What a pool may keep, as JSON. -/
def PoolLimits.toJson (limits : PoolLimits) : String :=
  Writing.object [("max_pool_bytes", Writing.natural limits.maxBytes),
    ("max_frames_per_bucket", Writing.natural limits.maxFramesPerBucket)]

/-- The three fill values as JSON. -/
def fillToJson (fill : UInt8 × UInt8 × UInt8) : String :=
  let (first, second, third) := fill
  Writing.array ([first, second, third].map fun byte ↦ Writing.natural byte.toNat)

/-- An output as JSON. -/
def OutputConfig.toJson (output : OutputConfig) : String :=
  Writing.object [("template", Writing.text output.template),
    ("blend", Writing.optional (fun blend ↦ Writing.text blend.name) output.blend),
    ("gain", Writing.optional GainMode.toJson output.gain),
    ("gain_schedule", Writing.optional Writing.text output.gainSchedule),
    ("region", Writing.optional Region.toJson output.region)]

/-- A configuration as JSON, with everything that has a default. -/
def StitchConfig.toJson (config : StitchConfig) : String :=
  Writing.object [("inputs", Writing.natural config.inputs),
    ("input_format", Writing.text config.inputFormat.name),
    ("crop", Writing.optional Crop.toJson config.crop),
    ("outputs", Writing.array (config.outputs.map OutputConfig.toJson)),
    ("canvas", Writing.optional Canvas.toJson config.canvas),
    ("preview", Writing.optional Canvas.toJson config.preview),
    ("interpolation", Writing.text config.interpolation.name),
    ("fill", Writing.optional fillToJson config.fill),
    ("worker_threads", Writing.optional Writing.natural config.workerThreads),
    ("pool", PoolLimits.toJson config.pool)]

end Panorama
