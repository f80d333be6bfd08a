import Panorama.Gain.Schedule
import Panorama.Template.Basic

/-!
# Gain modes

How the gains of one output template come about: not at all, fixed, from a schedule, or adapted to
the brightness of its overlaps.
-/

namespace Panorama

/-- When gains are recomputed, and how far they move. -/
structure AdaptivePolicy where
  /-- Updates before the first recomputation. -/
  warmupFrames : Nat
  /-- Updates from one recomputation to the next. -/
  intervalFrames : Nat
  /-- Share of the way to the solution that a recomputation goes. -/
  smoothing : Float32
  /-- Lower bound of a gain. -/
  minGain : Float32
  /-- Upper bound of a gain. -/
  maxGain : Float32
  /-- Every how many overlap pixels one is measured. -/
  sampleStep : Nat
  /-- Number of recomputations after which the gains stay. -/
  freezeAfter : Option Nat
  deriving DecidableEq

namespace AdaptivePolicy

/-- The policy of a template that asks for adaptive gains. -/
def standard : AdaptivePolicy where
  warmupFrames := 0
  intervalFrames := 30
  smoothing := 0.5
  minGain := 0.5
  maxGain := 2
  sampleStep := 1
  freezeAfter := none

/-- Whether the bounds are finite, positive, and enclose one. -/
def hasBounds (policy : AdaptivePolicy) : Bool :=
  policy.minGain.isFinite && policy.maxGain.isFinite &&
    !(policy.minGain ≤ 0) && !(1 < policy.minGain) && !(policy.maxGain < 1)

/-- Refuse a policy that cannot be followed. -/
def validate (policy : AdaptivePolicy) : Except Invalid Unit := do
  if policy.intervalFrames = 0 then throw .gainInterval
  if policy.sampleStep = 0 then throw .gainStep
  unless 0 < policy.smoothing && policy.smoothing ≤ 1 do throw .gainSmoothing
  unless policy.hasBounds do throw .gainBounds

/-- Whether an update recomputes the gains, when so many recomputations have run. -/
def isDue (policy : AdaptivePolicy) (frame recomputed : Nat) : Bool :=
  let frozen := match policy.freezeAfter with
    | some limit => limit ≤ recomputed
    | none => false
  !frozen && policy.warmupFrames ≤ frame &&
    (frame - policy.warmupFrames) % policy.intervalFrames = 0

end AdaptivePolicy

/-- How the gains of a template come about. -/
inductive GainMode where
  /-- Every gain is one. -/
  | disabled
  /-- One fixed gain per source. -/
  | fixed (gains : List Float32)
  /-- One row of gains per frame. -/
  | scheduled (schedule : GainSchedule)
  /-- Gains that equalize the overlaps. -/
  | adaptive (policy : AdaptivePolicy)
  deriving DecidableEq

namespace GainMode

/-- The mode that a template asks for. -/
def ofHint : GainHint → GainMode
  | .off => .disabled
  | .adaptive => .adaptive .standard

/-- Refuse a mode that does not give every source a gain. -/
def validate (mode : GainMode) (inputs : Nat) : Except Invalid Unit :=
  match mode with
  | .disabled => .ok ()
  | .fixed gains => do
    if gains.length ≠ inputs then throw (.fixedGains gains.length inputs)
    checkMultipliers gains
  | .scheduled schedule => schedule.validate inputs
  | .adaptive policy => policy.validate

end GainMode

end Panorama
