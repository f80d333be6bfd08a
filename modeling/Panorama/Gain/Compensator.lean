import Panorama.Gain.LeastSquares
import Panorama.Gain.Mode
import Panorama.Gain.Table
import Panorama.Sampling

/-!
# Gain compensation

A compensator keeps the gains of all templates from one frame set to the next. Every update counts
one frame set; fixed and scheduled gains are looked up, adaptive ones are recomputed when their
policy says so, from the brightness of the overlaps in this frame set.
-/

namespace Panorama

/-- A gain mode with the number of recomputations so far. Runs stay below the `2 ^ 32` that a
32-bit word can count. -/
structure TrackedGain where
  mode : GainMode
  recomputed : Nat
  deriving DecidableEq

/-- Whether an update with the frame set of this number recomputes the gains. -/
def TrackedGain.isDue (tracked : TrackedGain) (frame : Nat) : Bool :=
  match tracked.mode with
  | .adaptive policy => policy.isDue frame tracked.recomputed
  | _ => false

/-- Count a recomputation, if there is one. -/
def TrackedGain.advance (tracked : TrackedGain) (frame : Nat) : TrackedGain :=
  if tracked.isDue frame then { tracked with recomputed := tracked.recomputed + 1 } else tracked

/-- The gains of several templates over time. -/
structure GainCompensator where
  /-- Number of sources. -/
  inputs : Nat
  /-- How sources are sampled when they are measured. -/
  interpolation : Interpolation
  /-- The modes of the templates. -/
  states : List TrackedGain
  /-- The gains of the last update. -/
  table : GainTable
  /-- Updates so far. Runs stay below the `2 ^ 64` that a word can count. -/
  framesObserved : Nat
  deriving DecidableEq

/-- Every `step`-th item, from the first one on. -/
def everyNth {α : Type} (step : Nat) (items : List α) : List α :=
  (items.zipIdx.filter fun (_, index) ↦ index % step = 0).map Prod.fst

namespace GainCompensator

/-- A compensator in which every gain is one. There must be memory for the gains. -/
def make (modes : List GainMode) (inputs : Nat) (interpolation : Interpolation) :
    Outcome GainCompensator := do
  match modes.forM (fun mode ↦ mode.validate inputs) with
  | .error flaw => throw (.refused (.invalid flaw))
  | .ok () =>
    let table ← Outcome.ofOption (GainTable.unity? modes.length inputs)
    return { inputs, interpolation
             states := modes.map fun mode ↦ ⟨mode, 0⟩
             table := table
             framesObserved := 0 }

/-- Number of templates. -/
def templates (compensator : GainCompensator) : Nat := compensator.states.length

/-- The brightness of the contributions of one pixel, without those of sources that have no
frame. -/
def measurePixel (interpolation : Interpolation) (edge : EdgePolicy) (frames : List FrameView)
    (entry : List Sample) : Option (List (Fin frames.length × Float)) :=
  (entry.filterMap fun sample ↦
    if known : sample.source.toNat < frames.length then
      some (sample, (⟨sample.source.toNat, known⟩ : Fin frames.length))
    else none).mapM fun (sample, source) ↦ do
      let brightness ← frames[source].brightness? interpolation edge sample.x sample.y
      return (source, Number.widen brightness)

/-- The brightness of every `step`-th overlap pixel. -/
def measure (interpolation : Interpolation) (template : Template) (frames : List FrameView)
    (step : Nat) : Option (Overlap Float frames.length) :=
  (everyNth (max step 1) template.overlapPixels).foldlM (fun overlap index ↦ do
    let entry ← template.table.entry? index
    let brightness ← measurePixel interpolation template.edge frames entry
    return overlap.observe brightness) Overlap.empty

/-- A number brought between two bounds, which are in order. -/
def clamp? (low high value : Float32) : Option Float32 :=
  if low ≤ high then
    let value := if value < low then low else value
    some (if high < value then high else value)
  else none

/-- Move the gains of a row towards those that a recomputation gives. -/
def approach? (policy : AdaptivePolicy) (held solved : List Float32) : Option (List Float32) :=
  (held.zip solved).mapM fun (gain, target) ↦
    clamp? policy.minGain policy.maxGain (gain + policy.smoothing * (target - gain))

/-- The row of a template after a recomputation. It stays as it is if no overlap was measured or
no gains come out. -/
def recompute? (compensator : GainCompensator) (policy : AdaptivePolicy) (template : Template)
    (frames : List FrameView) (held : List Float32) : Option (List Float32) := do
  let overlap ← measure compensator.interpolation template frames policy.sampleStep
  if overlap.isEmpty then return held
  else
    match overlap.gains? with
    | none => return held
    | some solved => approach? policy held solved

/-- The row of a template after the update with a frame set. -/
def nextRow? (compensator : GainCompensator) (frames : List FrameView) (template : Template)
    (tracked : TrackedGain) (held : List Float32) : Option (List Float32) :=
  match tracked.mode with
  | .disabled => some held
  | .fixed gains => some gains
  | .scheduled schedule => schedule.row? compensator.framesObserved
  | .adaptive policy =>
    if policy.isDue compensator.framesObserved tracked.recomputed then
      compensator.recompute? policy template frames held
    else some held

/-- The table after the update of the template at position `index`. -/
def updateRow? (compensator : GainCompensator) (frames : List FrameView) (index : Nat)
    (tracked : TrackedGain) (template : Template) (table : GainTable) : Option GainTable := do
  let held ← table.row? index
  table.set? index (← compensator.nextRow? frames template tracked held)

/-- What an update has come to. -/
structure Progress where
  /-- Whether all templates are updated. -/
  isComplete : Bool
  /-- The modes. -/
  states : List TrackedGain
  /-- The gains. -/
  table : GainTable

/-- Update the templates from position `index` on. A broken precondition ends the update at its
template, whose recomputation counts all the same. -/
def updateFrom (compensator : GainCompensator) (frames : List FrameView) (index : Nat)
    (table : GainTable) : List (TrackedGain × Template) → Progress
  | [] => ⟨true, [], table⟩
  | (tracked, template) :: rest =>
    let advanced := tracked.advance compensator.framesObserved
    match compensator.updateRow? frames index tracked template table with
    | none => ⟨false, advanced :: rest.map Prod.fst, table⟩
    | some table =>
      let later := compensator.updateFrom frames (index + 1) table rest
      { later with states := advanced :: later.states }

/-- Take in one frame set. A refused one leaves no trace. -/
def update (compensator : GainCompensator) (frames : List FrameView) (templates : List Template) :
    Outcome Unit × GainCompensator :=
  if frames.length ≠ compensator.inputs then
    (.error (.refused (.sizeMismatch (.gainFrames frames.length compensator.inputs))),
      compensator)
  else if templates.length ≠ compensator.states.length then
    (.error (.refused (.invalid
      (.gainTemplates templates.length compensator.states.length))), compensator)
  else
    let progress :=
      compensator.updateFrom frames 0 compensator.table (compensator.states.zip templates)
    let updated := { compensator with states := progress.states, table := progress.table }
    if progress.isComplete then
      (.ok (), { updated with framesObserved := compensator.framesObserved + 1 })
    else (.error .fault, updated)

end GainCompensator

end Panorama
