import Panorama.Gain.Mode
import Panorama.Json.Decoding
import Panorama.Json.Writing

/-!
# Gain modes as JSON

A gain mode is a record whose field `mode` names the mode. As an array it has that name in front.
Everything in the record must be plain, also what is ignored.
-/

namespace Panorama

open Json

/-- The names of an adaptive policy's fields. -/
def AdaptivePolicy.fieldNames : List String :=
  ["warmup_frames", "interval_frames", "smoothing", "min_gain", "max_gain", "sample_step",
    "freeze_after"]

/-- Take an adaptive policy from its fields; those that are missing have their standard value. -/
def AdaptivePolicy.decode : Decoder AdaptivePolicy := fun value ↦ do
  let fields ← Fields.of? fieldNames false value
  return {
    warmupFrames := ← fields.withDefault "warmup_frames" standard.warmupFrames Decoder.count
    intervalFrames := ← fields.withDefault "interval_frames" standard.intervalFrames Decoder.count
    smoothing := ← fields.withDefault "smoothing" standard.smoothing Decoder.single
    minGain := ← fields.withDefault "min_gain" standard.minGain Decoder.single
    maxGain := ← fields.withDefault "max_gain" standard.maxGain Decoder.single
    sampleStep := ← fields.withDefault "sample_step" standard.sampleStep Decoder.count
    freezeAfter := ← fields.withDefault "freeze_after" standard.freezeAfter
      (Decoder.natural UInt32.size).optional }

namespace GainMode

/-- Take the mode with a name from the rest of its record. -/
def decodeNamed (name : String) (rest : Value) : Option GainMode :=
  match name with
  | "disabled" =>
    match rest with
    | .array (_ :: _) => none
    | _ => some .disabled
  | "static" => do
    let fields ← Fields.of? ["gains"] false rest
    return .fixed (← fields.required "gains" Decoder.single.list)
  | "scheduled" => do
    let fields ← Fields.of? ["rows"] false rest
    return .scheduled ⟨← fields.required "rows" Decoder.single.list.list⟩
  | "adaptive" => (AdaptivePolicy.decode rest).map .adaptive
  | _ => none

/-- Take a mode from its record. -/
def decodeRecord : Decoder GainMode
  | .array (.text (some name) :: rest) => decodeNamed name (.array rest)
  | .object members =>
    let (tags, rest) := members.partition fun (key, _) ↦ key == some "mode"
    match tags with
    | [(_, .text (some name))] => decodeNamed name (.object rest)
    | _ => none
  | _ => none

/-- Take a mode from a plain value in which containers nest at most `levels` deep. -/
def decode (levels : Nat) : Decoder GainMode := fun value ↦
  if value.isPlain levels then decodeRecord value else none

/-- The mode written in a byte string. -/
def ofJson? (bytes : List UInt8) : Option GainMode := do
  decode 127 (← Value.ofBytes? bytes)

/-- The fields of a mode, written. -/
def jsonFields : GainMode → List (String × String)
  | .disabled => [("mode", Writing.text "disabled")]
  | .fixed gains =>
    [("mode", Writing.text "static"), ("gains", Writing.array (gains.map Writing.single))]
  | .scheduled schedule =>
    let rows := schedule.rows.map fun row ↦ Writing.array (row.map Writing.single)
    [("mode", Writing.text "scheduled"), ("rows", Writing.array rows)]
  | .adaptive policy =>
    [("mode", Writing.text "adaptive"),
      ("warmup_frames", Writing.natural policy.warmupFrames),
      ("interval_frames", Writing.natural policy.intervalFrames),
      ("smoothing", Writing.single policy.smoothing),
      ("min_gain", Writing.single policy.minGain),
      ("max_gain", Writing.single policy.maxGain),
      ("sample_step", Writing.natural policy.sampleStep),
      ("freeze_after", Writing.optional Writing.natural policy.freezeAfter)]

/-- A mode as JSON. -/
def toJson (mode : GainMode) : String :=
  Writing.object mode.jsonFields

end GainMode

end Panorama
