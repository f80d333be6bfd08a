import Panorama.Decimal.Reading
import Panorama.Error.Device
import Panorama.Error.Template
import Panorama.Frame.Format

/-!
# Invalid values

The values that no frame, gain, compositor or configuration may hold.
-/

namespace Panorama

/-- A value that no configuration may hold. -/
inductive Invalid where
  /-- A normalized region is none. -/
  | region (flaw : RegionFlaw)
  /-- A frame has no pixel. -/
  | emptyFrame (format : PixelFormat) (size : Canvas)
  /-- A frame with subsampled chroma has an odd dimension. -/
  | oddFrame (format : PixelFormat) (size : Canvas)
  /-- A frame is delivered for an input that does not exist. -/
  | unknownInput (input inputs : Nat)
  /-- Fixed gains are not one per source. -/
  | fixedGains (gains inputs : Nat)
  /-- A gain is not finite and positive. -/
  | multiplier (gain : Float32)
  /-- Gains are recomputed without an interval. -/
  | gainInterval
  /-- Gains are measured without a step. -/
  | gainStep
  /-- The smoothing factor is outside its range. -/
  | gainSmoothing
  /-- The gain bounds do not enclose one. -/
  | gainBounds
  /-- A gain schedule holds nothing. -/
  | emptySchedule
  /-- The frame count of a gain schedule is none. -/
  | scheduleCount (flaw : Decimal.CountFlaw)
  /-- A gain schedule has fewer values than it declares. -/
  | scheduleEnd (frame input : Nat)
  /-- A value of a gain schedule is no number. -/
  | scheduleValue (word : String)
  /-- A gain schedule has more values than it declares. -/
  | scheduleExcess
  /-- A gain schedule declares no frame. -/
  | scheduleWithoutFrames
  /-- A row of a gain schedule does not have one gain per source. -/
  | scheduleRow (frame gains inputs : Nat)
  /-- A gain schedule cannot be read. -/
  | scheduleFile (path : String) (failure : DeviceFailure)
  /-- A gain update is given the wrong number of templates. -/
  | gainTemplates (templates expected : Nat)
  /-- There is no output. -/
  | noTemplate
  /-- A template starts inside a chroma pixel of the canvas. -/
  | oddPlacement (template : Nat) (x y : UInt32)
  /-- The number of workers is zero. -/
  | noWorker
  /-- The gains follow another number of templates. -/
  | trackedTemplates (tracked templates : Nat)
  /-- A configuration cannot be opened. -/
  | configFile (path : String) (failure : DeviceFailure)
  /-- A configuration is not written as one. -/
  | configText
  /-- A configuration has no input or too many. -/
  | configInputs (inputs : Nat)
  /-- A configuration has no output. -/
  | configOutputs
  /-- A configuration crops every column. -/
  | configCropWidth
  /-- A configuration crops through a chroma pixel. -/
  | configOddCrop
  /-- A configuration asks for no worker. -/
  | configWorkers
  /-- A configured output has two sources of gains. -/
  | configTwoGains (output : Nat)
  /-- The gains of a configured output are refused. -/
  | configGain (output : Nat) (flaw : Invalid)
  /-- A configured output is placed, and there is no canvas. -/
  | configRegion (output : Nat)
  /-- A configuration is given the wrong number of templates. -/
  | configTemplates (templates outputs : Nat)
  deriving DecidableEq

/-- The wording of an invalid value. -/
def Invalid.message : Invalid → String
  | .region flaw => flaw.message
  | .emptyFrame format size => s!"{format.text} frame must be non-empty, got {size.text}"
  | .oddFrame format size => s!"{format.text} frame dimensions must be even, got {size.text}"
  | .unknownInput input inputs => s!"input {input} out of range 0..{inputs}"
  | .fixedGains gains inputs => s!"static gain lists {gains} values for {inputs} inputs"
  | .multiplier gain =>
    s!"gain multipliers must be finite and > 0, got {Decimal.singleText gain}"
  | .gainInterval => "adaptive gain interval must be >= 1"
  | .gainStep => "adaptive gain sample_step must be >= 1"
  | .gainSmoothing => "adaptive gain smoothing must be in (0, 1]"
  | .gainBounds => "adaptive gain bounds must satisfy 0 < min_gain <= 1 <= max_gain"
  | .emptySchedule => "gain schedule is empty"
  | .scheduleCount flaw => s!"gain schedule frame count: {flaw.message}"
  | .scheduleEnd frame input => s!"gain schedule ends early at frame {frame}, input {input}"
  | .scheduleValue word => s!"gain schedule value '{word}': invalid float literal"
  | .scheduleExcess => "gain schedule has more values than declared"
  | .scheduleWithoutFrames => "gain schedule has no frames"
  | .scheduleRow frame gains inputs =>
    s!"gain schedule frame {frame} has {gains} values for {inputs} inputs"
  | .scheduleFile path failure => s!"read gain schedule '{path}': {failure.message}"
  | .gainTemplates templates expected =>
    s!"gain update got {templates} templates, {expected} configured"
  | .noTemplate => "compositor needs at least one template"
  | .oddPlacement template x y =>
    s!"template {template} region starts at odd offset ({x.toNat}, {y.toNat}) on a " ++
      "chroma-subsampled canvas"
  | .noWorker => "compositor 'threads' must be >= 1 when set"
  | .trackedTemplates tracked templates =>
    s!"gain compensator tracks {tracked} templates, compositor has {templates}"
  | .configFile path failure => s!"open stitch config '{path}': {failure.message}"
  | .configText => "parse stitch config JSON: not a stitch configuration"
  | .configInputs inputs => s!"'inputs' must be in 1..=65535, got {inputs}"
  | .configOutputs => "'outputs' must list at least one template"
  | .configCropWidth => "'crop.width' must be >= 1"
  | .configOddCrop => "'crop' must be even-aligned for chroma-subsampled formats"
  | .configWorkers => "'worker_threads' must be >= 1 when set"
  | .configTwoGains output => s!"output {output}: 'gain' and 'gain_schedule' are mutually exclusive"
  | .configGain output flaw => s!"output {output}: validation error: {flaw.message}"
  | .configRegion output => s!"output {output}: 'region' needs a merged 'canvas'"
  | .configTemplates templates outputs => s!"{templates} templates for {outputs} configured outputs"

end Panorama
