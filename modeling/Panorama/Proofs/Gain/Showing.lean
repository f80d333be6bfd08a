import Panorama.Gain.Compensator
import Panorama.Proofs.Frame.Cropped

/-!
# Gains of sources that show the same

What is measured of an overlap is the brightness of sources at points. Two frame sets that show the
same are measured alike, and so they move the gains alike. Read `GainCompensator.update_of_same`
first.
-/

namespace Panorama

/-- Two frame sets of one format that show the same, frame by frame. -/
def FrameView.ShowSame (format : PixelFormat) : List FrameView → List FrameView → Prop :=
  List.Forall₂ (FrameView.ShowsSame format)

namespace GainCompensator

variable {format : PixelFormat} {frames others : List FrameView}

/-- What `measure` does when the brightness of a source at a point of a pixel is known otherwise
than from a list of frames. -/
def measureBy (sources : Nat) (brightness? : Nat → Sample → Option Float32) (template : Template)
    (step : Nat) : Option (Overlap Float sources) :=
  (everyNth (max step 1) template.overlapPixels).foldlM (fun overlap index ↦ do
    let entry ← template.table.entry? index
    let brightness ← (entry.filterMap fun sample ↦
      if known : sample.source.toNat < sources then
        some (sample, (⟨sample.source.toNat, known⟩ : Fin sources))
      else none).mapM fun (sample, source) ↦ do
        let brightness ← brightness? source sample
        return (source, Number.widen brightness)
    return overlap.observe brightness) Overlap.empty

/-- The brightness of the source at a position. -/
def brightnessAt? (interpolation : Interpolation) (edge : EdgePolicy) (frames : List FrameView)
    (source : Nat) (sample : Sample) : Option Float32 := do
  let frame ← frames[source]?
  frame.brightness? interpolation edge sample.x sample.y

/-- Overlaps are measured by the brightness of the sources in the list. -/
theorem measure_eq (interpolation : Interpolation) (template : Template) (frames : List FrameView)
    (step : Nat) : measure interpolation template frames step
      = measureBy frames.length (brightnessAt? interpolation template.edge frames) template
          step := by
  have hbrightness (source : Fin frames.length) (sample : Sample) :
      frames[source].brightness? interpolation template.edge sample.x sample.y
        = brightnessAt? interpolation template.edge frames source sample := by
    unfold brightnessAt?
    rw [List.getElem?_eq_getElem source.isLt]
    rfl
  unfold measure measureBy measurePixel
  simp only [hbrightness]

/-- Sources that show the same have the same brightness. -/
theorem brightness_at_congr (h : FrameView.ShowSame format frames others)
    (interpolation : Interpolation) (edge : EdgePolicy) :
    brightnessAt? interpolation edge frames = brightnessAt? interpolation edge others :=
  funext₂ fun _ sample ↦ Failing.position_congr h fun _ _ hsame ↦
    hsame.brightness interpolation edge sample.x sample.y

/-- Sources that show the same give a template the same row. -/
theorem next_row_of_same (h : FrameView.ShowSame format frames others)
    (compensator : GainCompensator) (template : Template) (tracked : TrackedGain)
    (held : List Float32) : compensator.nextRow? frames template tracked held
      = compensator.nextRow? others template tracked held := by
  unfold nextRow? recompute?
  simp only [measure_eq]
  rw [brightness_at_congr h, h.length_eq]

/-- Sources that show the same update the templates alike. -/
theorem update_from_of_same (h : FrameView.ShowSame format frames others)
    (compensator : GainCompensator) (index : Nat) (table : GainTable)
    (items : List (TrackedGain × Template)) : compensator.updateFrom frames index table items
      = compensator.updateFrom others index table items := by
  induction items generalizing index table with
  | nil => rfl
  | cons item items ih =>
      obtain ⟨tracked, template⟩ := item
      unfold updateFrom updateRow?
      simp only [compensator.next_row_of_same h, ih]

/-- Frame sets that show the same move the gains alike. -/
theorem update_of_same (h : FrameView.ShowSame format frames others)
    (compensator : GainCompensator) (templates : List Template) :
    compensator.update frames templates = compensator.update others templates := by
  unfold update
  rw [compensator.update_from_of_same h, h.length_eq]

end GainCompensator

end Panorama
