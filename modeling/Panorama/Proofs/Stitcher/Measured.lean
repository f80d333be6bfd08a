import Panorama.Config.Build
import Panorama.Proofs.Gain.Showing
import Panorama.Proofs.Stitcher.Safety

/-!
# What is measured and what is blended

The gains of a built stitcher follow the brightness of contributions, and the values of the same
contributions are blended. Both are sampled alike, up to the neighbors outside a filled axis: these
are measured as black, whatever the compositor fills with (`measures_on_black`). So the two agree
if the fill is black and at points that need no fill, and not elsewhere (`seam_mismeasured`).
-/

namespace Panorama

/-! ### Points that need no fill -/

section Points

variable {α : Type} [Arithmetic α]

/-- The whole coordinates at which a filter takes neighbors along an axis. -/
def Interpolation.taken (interpolation : Interpolation) (position : α) : List Int :=
  match interpolation with
  | .nearest => [Arithmetic.floor (position + Arithmetic.one / Arithmetic.ofInt 2)]
  | .bilinear | .biquadratic => [Arithmetic.floor position, Arithmetic.floor position + 1]

/-- A filter has all its neighbors on an axis. -/
structure EdgeMode.Inside (mode : EdgeMode) (interpolation : Interpolation) (length : UInt32)
    (position : α) : Prop where
  near : PlaneView.isBeyond mode length position = false
  pixels : ∀ place ∈ interpolation.taken position, mode.resolve? length place ≠ some .outside

namespace PlaneView

variable {plane : PlaneView} {channel : Nat} {edge : EdgePolicy} {interpolation : Interpolation}

/-- A neighbor that is not outside has the same value with every fill. -/
theorem neighbor_of_inside {x y : Int} (hx : edge.x.resolve? plane.width x ≠ some .outside)
    (hy : edge.y.resolve? plane.height y ≠ some .outside) (fill other : UInt8) :
    plane.neighbor? (α := α) channel edge fill x y
      = plane.neighbor? channel edge other x y := by
  unfold neighbor?
  cases hcolumn : edge.x.resolve? plane.width x with
  | none => rfl
  | some column =>
      cases hrow : edge.y.resolve? plane.height y with
      | none => rfl
      | some row =>
          cases column with
          | outside => exact absurd hcolumn hx
          | pixel column =>
              cases row with
              | outside => exact absurd hrow hy
              | pixel row => rfl

/-- A point whose neighbors are all there has the same value with every fill. -/
theorem sample_of_inside {x y : α} (hx : edge.x.Inside interpolation plane.width x)
    (hy : edge.y.Inside interpolation plane.height y) (fill other : UInt8) :
    plane.sample? channel interpolation edge fill x y
      = plane.sample? channel interpolation edge other x y := by
  have hneighbor (column row : Int) (hcolumn : column ∈ interpolation.taken x)
      (hrow : row ∈ interpolation.taken y) :
      plane.neighbor? (α := α) channel edge fill column row
        = plane.neighbor? channel edge other column row :=
    neighbor_of_inside (hx.pixels column hcolumn) (hy.pixels row hrow) fill other
  unfold sample?
  rw [hx.near, hy.near]
  cases interpolation with
  | nearest =>
      exact hneighbor _ _ List.mem_cons_self List.mem_cons_self
  | bilinear =>
      have hleft : Arithmetic.floor x ∈ Interpolation.bilinear.taken x := List.mem_cons_self
      have hright : Arithmetic.floor x + 1 ∈ Interpolation.bilinear.taken x :=
        List.mem_cons_of_mem _ List.mem_cons_self
      have habove : Arithmetic.floor y ∈ Interpolation.bilinear.taken y := List.mem_cons_self
      have hbelow : Arithmetic.floor y + 1 ∈ Interpolation.bilinear.taken y :=
        List.mem_cons_of_mem _ List.mem_cons_self
      show bilinear? _ x y = bilinear? _ x y
      unfold bilinear?
      dsimp only
      rw [hneighbor _ _ hleft habove, hneighbor _ _ hright habove, hneighbor _ _ hleft hbelow,
        hneighbor _ _ hright hbelow]
  | biquadratic =>
      have hcorner (corner : Int × Int) (hcorner : corner ∈ corners) :
          Arithmetic.floor x + corner.1 ∈ Interpolation.biquadratic.taken x ∧
            Arithmetic.floor y + corner.2 ∈ Interpolation.biquadratic.taken y := by
        simp only [corners, List.mem_cons, List.not_mem_nil, or_false] at hcorner
        rcases hcorner with rfl | rfl | rfl | rfl <;> simp [Interpolation.taken]
      show biquadratic? _ x y = biquadratic? _ x y
      unfold biquadratic?
      dsimp only
      congr 1
      refine Failing.fold_congr (fun _ corner hmem ↦ ?_) _
      obtain ⟨hcolumn, hrow⟩ := hcorner corner hmem
      rw [hneighbor _ _ hcolumn hrow]

end PlaneView

end Points

/-! ### What is blended -/

/-- The brightness of a point by the values of its channels: its luma, or the mean of red, green
and blue. -/
def PixelFormat.brightness? (format : PixelFormat) (value? : Nat → Option Float32) :
    Option Float32 :=
  match format with
  | .rgb24 => do
    let values ← (List.range 3).mapM value?
    return Arithmetic.sum values / 3
  | _ => value? 0

/-- The same values make the same brightness. -/
theorem PixelFormat.brightness_congr {format : PixelFormat} {value? other? : Nat → Option Float32}
    (h : ∀ channel < format.channels, value? channel = other? channel) :
    format.brightness? value? = format.brightness? other? := by
  cases format with
  | rgb24 =>
      have hvalues : (List.range 3).mapM value? = (List.range 3).mapM other? :=
        Failing.map_congr (R := fun channel other ↦ channel = other ∧ channel < 3)
          (List.forall₂_same.mpr fun channel hmem ↦ ⟨rfl, List.mem_range.mp hmem⟩)
          (by
            rintro channel _ ⟨rfl, hchannel⟩
            exact h channel hchannel)
      simp only [brightness?, hvalues]
  | gray8 => exact h 0 Nat.one_pos
  | yuv420p => exact h 0 Nat.one_pos
  | yuvj420p => exact h 0 Nat.one_pos

namespace Compositor

variable {compositor : Compositor} {output : OutputSpec} {views : List FrameView}

/-- The value of a contribution in a channel of the first plane, before its gain. -/
def ungained? (compositor : Compositor) (output : OutputSpec) (views : List FrameView)
    (sample : Sample) (channel : Nat) : Option Float32 := do
  let view ← views[sample.source.toNat]?
  let plane ← view.planes[0]?
  plane.sample? channel compositor.options.interpolation output.template.edge
    (compositor.fillByte 0 channel) sample.x sample.y

/-- What is blended of a contribution is its value times the gain of its source. -/
theorem primary_value_eq (gains : List Float32) (channel : Nat) (sample : Sample) :
    compositor.primaryValue? output views gains channel sample = (do
      let value ← compositor.ungained? output views sample channel
      let gain ← gains[sample.source.toNat]?
      return value * gain) := by
  unfold primaryValue? ungained?
  simp only [bind_assoc]

/-- The brightness of a contribution as it is blended, before its gain. -/
def blended? (compositor : Compositor) (output : OutputSpec) (views : List FrameView)
    (sample : Sample) : Option Float32 :=
  compositor.format.brightness? (compositor.ungained? output views sample)

/-- The compositor that fills with black. -/
def onBlack (compositor : Compositor) : Compositor :=
  { compositor with options := { compositor.options with fill := some (0, 0, 0) } }

/-- Black is black in every channel. -/
theorem on_black_fill (compositor : Compositor) (plane channel : Nat) :
    compositor.onBlack.fillByte plane channel = 0 := by
  unfold fillByte onBlack
  dsimp only
  split <;> rfl

/-- What is measured of a contribution is what the compositor blends on black. -/
theorem brightness_at_eq (hformat : ∀ view ∈ views, view.format = compositor.format)
    (sample : Sample) :
    GainCompensator.brightnessAt? compositor.options.interpolation output.template.edge views
        sample.source.toNat sample = compositor.onBlack.blended? output views sample := by
  have hnone : ∀ format : PixelFormat, format.brightness? (fun _ ↦ none) = none := by
    rintro (_ | _ | _ | _) <;> rfl
  unfold GainCompensator.brightnessAt? blended? ungained?
  simp only [on_black_fill]
  cases hview : views[sample.source.toNat]? with
  | none => exact (hnone _).symm
  | some view =>
      have hsame := hformat view (List.mem_of_getElem? hview)
      show view.brightness? _ _ _ _ = _
      unfold FrameView.brightness?
      cases hplane : view.planes[0]? with
      | none =>
          simp only [Option.bind_eq_bind, Option.bind_some, hplane, Option.bind_none]
          exact (hnone _).symm
      | some plane =>
          simp only [Option.bind_eq_bind, Option.bind_some, hplane, hsame]
          rfl

/-- The compositor fills with black, or the neighbors of a contribution are all there. -/
def NeedsNoColor (compositor : Compositor) (output : OutputSpec) (views : List FrameView)
    (sample : Sample) : Prop :=
  (∀ channel < compositor.format.channels, compositor.fillByte 0 channel = 0) ∨
    ∀ view plane, views[sample.source.toNat]? = some view → view.planes[0]? = some plane →
      output.template.edge.x.Inside compositor.options.interpolation plane.width sample.x ∧
        output.template.edge.y.Inside compositor.options.interpolation plane.height sample.y

/-- A contribution that needs no color to fill with is blended as on black. -/
theorem NeedsNoColor.blended {sample : Sample} (h : compositor.NeedsNoColor output views sample) :
    compositor.blended? output views sample = compositor.onBlack.blended? output views sample := by
  refine PixelFormat.brightness_congr fun channel hchannel ↦ ?_
  unfold ungained?
  rw [on_black_fill]
  rcases h with hblack | hinside
  · rw [hblack channel hchannel]
    rfl
  · cases hview : views[sample.source.toNat]? with
    | none => rfl
    | some view =>
        cases hplane : view.planes[0]? with
        | none => simp only [Option.bind_eq_bind, Option.bind_some, hplane, Option.bind_none]
        | some plane =>
            obtain ⟨hx, hy⟩ := hinside view plane hview hplane
            simp only [Option.bind_eq_bind, Option.bind_some, hplane]
            exact PlaneView.sample_of_inside hx hy _ _

end Compositor

/-! ### What is measured -/

namespace GainCompensator

/-- Overlaps are measured alike by brightness that is the same for the source of every
contribution. -/
theorem measure_by_congr {sources : Nat} {brightness? other? : Nat → Sample → Option Float32}
    (h : ∀ sample : Sample,
      brightness? sample.source.toNat sample = other? sample.source.toNat sample)
    (template : Template) (step : Nat) :
    measureBy sources brightness? template step = measureBy sources other? template step := by
  unfold measureBy
  refine Failing.fold_congr (fun overlap index _ ↦ congrArg _ (funext fun entry ↦ ?_)) _
  refine congrArg (· >>= _) (Failing.map_congr
    (R := fun pair other ↦ pair = other ∧ pair.2.val = pair.1.source.toNat)
    (List.forall₂_same.mpr fun pair hpair ↦ ⟨rfl, ?_⟩) ?_)
  · obtain ⟨sample, _, hsome⟩ := List.mem_filterMap.mp hpair
    split at hsome
    · cases hsome
      rfl
    · cases hsome
  · rintro ⟨sample, source⟩ _ ⟨rfl, hsource⟩
    dsimp only at hsource ⊢
    rw [hsource, h sample]

/-- Updates keep how sources are sampled. -/
theorem update_interpolation (compensator : GainCompensator) (frames : List FrameView)
    (templates : List Template) :
    (compensator.update frames templates).2.interpolation = compensator.interpolation := by
  have hupdates := compensator.updates frames templates
  generalize compensator.update frames templates = result at hupdates ⊢
  cases hupdates <;> rfl

end GainCompensator

namespace Stitcher

/-- Calls keep how sources are sampled when they are measured. -/
theorem perform_all_interpolation (stitcher : Stitcher) (calls : List StitcherCall) :
    (stitcher.performAll calls).gains.interpolation = stitcher.gains.interpolation := by
  rw [(stitcher.perform_all_core calls).2.2]
  generalize stitcher.gains = gains
  induction StitcherCall.frameSets calls generalizing gains with
  | nil => rfl
  | cons frames sets ih =>
      rw [List.foldl_cons, ih]
      unfold observe
      split
      · rfl
      · exact gains.update_interpolation _ _

end Stitcher

/-- The views of prepared well-formed frames have the format of the compositor. -/
theorem Compositor.format_of_prepare {compositor : Compositor} {frames : List Frame}
    {views : List FrameView} (hframes : ∀ frame ∈ frames, frame.WellFormed)
    (hprepare : compositor.prepare frames = .ok views) :
    ∀ view ∈ views, view.format = compositor.format := by
  intro view hview
  obtain ⟨hframeCount, hviewCount, hviews⟩ := prepare_ok hprepare
  obtain ⟨source, hindex⟩ := List.getElem?_of_mem hview
  have hsource := (List.getElem?_eq_some_iff.mp hindex).1
  have hframe := List.getElem?_eq_getElem (show source < frames.length by omega)
  obtain ⟨_, _, hprepares⟩ := hviews source _ view hframe hindex
  exact ((hframes _ (List.mem_of_getElem? hframe)).shows_view hprepares.cropped).format.trans
    hprepares.format

namespace StitchConfig

variable {config : StitchConfig} {store : FileStore} {templates : List Template}
  {built : Stitcher} {frames : List Frame} {views : List FrameView} {output : OutputSpec}

/-- A built stitcher has a compositor of the given templates, and gains that sample sources as the
compositor does. -/
theorem sampling_of_build (h : config.buildStitcher store templates = .ok built) :
    built.compositor.Valid ∧ built.gains.interpolation = built.compositor.options.interpolation ∧
      ∀ output ∈ built.compositor.outputs, output.template ∈ templates := by
  unfold buildStitcher at h
  split at h
  · cases h
  · simp only [Failing.bind_eq_ok_iff, Failing.of_result_eq_ok_iff] at h
    obtain ⟨modes, _, compositor, hcompositor, gains, hgains, hmake⟩ := h
    obtain ⟨_, _, rfl⟩ := Stitcher.make_eq_ok_iff.mp hmake
    obtain ⟨_, _, _, rfl⟩ := GainCompensator.make_eq_ok_iff.mp hgains
    have hmade := Compositor.made_of_make hcompositor
    refine ⟨Compositor.valid_of_make hcompositor, ?_, fun output houtput ↦ ?_⟩
    · rw [hmade.same_options]
      rfl
    · rw [hmade.same_outputs] at houtput
      obtain ⟨⟨configured, template⟩, hpair, rfl⟩ := List.mem_map.mp houtput
      exact (List.of_mem_zip hpair).2

/-- A built stitcher measures what it blends on black. Whatever calls it has had, of every frame set
that it prepares and every output, the overlaps are measured by the brightness that the compositor
would blend if it filled with black. What it does blend is the value of a contribution in a channel
times the gain of its source. Every contribution to an overlap has a brightness on black, and it is
that of these values if no other color is needed. -/
theorem measures_on_black (hbuild : config.buildStitcher store templates = .ok built)
    (hobtained : ∀ template ∈ templates, template.Obtained) (calls : List StitcherCall)
    (hframes : ∀ frame ∈ frames, frame.WellFormed)
    (hprepare : built.compositor.prepare frames = .ok views)
    (houtput : output ∈ built.compositor.outputs) :
    (built.performAll calls).compositor = built.compositor ∧
      (∀ step, GainCompensator.measure (built.performAll calls).gains.interpolation
          output.template views step
        = GainCompensator.measureBy views.length
            (fun _ sample ↦ built.compositor.onBlack.blended? output views sample)
            output.template step) ∧
      (∀ gains channel sample, built.compositor.primaryValue? output views gains channel sample
        = (do
          let value ← built.compositor.ungained? output views sample channel
          let gain ← gains[sample.source.toNat]?
          return value * gain)) ∧
      ∀ pixel ∈ output.template.overlapPixels, ∃ entry,
        output.template.table.entry? pixel = some entry ∧ ∀ sample ∈ entry,
          sample.source.toNat < views.length ∧
          ∃ brightness, built.compositor.onBlack.blended? output views sample = some brightness ∧
            (built.compositor.NeedsNoColor output views sample →
              built.compositor.blended? output views sample = some brightness) := by
  obtain ⟨hvalid, hsampling, htemplates⟩ := sampling_of_build hbuild
  have hformat := Compositor.format_of_prepare hframes hprepare
  have hmeasured (sample : Sample) :
      GainCompensator.brightnessAt? built.compositor.options.interpolation output.template.edge
          views sample.source.toNat sample
        = built.compositor.onBlack.blended? output views sample :=
    Compositor.brightness_at_eq hformat sample
  refine ⟨(built.perform_all_core calls).1, fun step ↦ ?_, Compositor.primary_value_eq,
    fun pixel hpixel ↦ ?_⟩
  · rw [built.perform_all_interpolation, hsampling, GainCompensator.measure_eq]
    exact GainCompensator.measure_by_congr hmeasured output.template step
  · obtain ⟨entries, hlists⟩ := (hobtained _ (htemplates output houtput)).lists
    obtain ⟨hholds, hentries⟩ := hlists.holds
    have hindex : pixel < entries.length := by
      rw [← hholds.size]
      exact Template.overlap_pixel_lt hpixel
    refine ⟨entries[pixel], (hholds.entry pixel).trans (List.getElem?_eq_getElem hindex),
      fun sample hsample ↦ ?_⟩
    have hsource : sample.source.toNat < views.length := by
      rw [(Compositor.prepare_ok hprepare).2.1, ← (hvalid.outputs output houtput).1]
      exact ((Sample.sound_of_entry_flaw (hentries _ (List.getElem_mem hindex))).2
        sample hsample).1
    obtain ⟨brightness, hbrightness⟩ :=
      Compositor.measurable_views hvalid hframes hprepare _ (List.getElem_mem hsource)
        built.compositor.options.interpolation output.template.edge sample.x sample.y
    have hblack : built.compositor.onBlack.blended? output views sample = some brightness := by
      rw [← hmeasured sample]
      unfold GainCompensator.brightnessAt?
      rw [List.getElem?_eq_getElem hsource]
      exact hbrightness
    exact ⟨hsource, brightness, hblack, fun hneeds ↦ hneeds.blended.trans hblack⟩

end StitchConfig

/-! ### A seam beside a bright fill -/

/-- A template of one pixel, half of which is what lies left of the first source. -/
def Template.seam : Template where
  size := ⟨1, 1⟩
  inputs := [⟨1, 1⟩, ⟨1, 1⟩]
  region := .full
  blend := .weighted
  gain := .off
  edge := .fill
  table := ⟨#[0, 2], #[⟨0, -1, 0, 0.5⟩, ⟨1, 0, 0, 0.5⟩]⟩

/-- Adaptive gains of the template, with a fill that is as bright as the second source. -/
def StitchConfig.seam : StitchConfig where
  inputs := 2
  inputFormat := .gray8
  crop := none
  outputs := [⟨"seam.pstm", none, some (.adaptive { AdaptivePolicy.standard with smoothing := 1 }),
    none, none⟩]
  canvas := none
  preview := none
  interpolation := .bilinear
  fill := some (100, 0, 0)
  workerThreads := none
  pool := .standard

/-- The stitcher of the configuration. -/
def Stitcher.seam : Stitcher where
  compositor := {
    format := .gray8
    crop := none
    options := ⟨.bilinear, some (100, 0, 0), none⟩
    outputs := [⟨.seam, .weighted, .full⟩]
    inputs := [⟨1, 1⟩, ⟨1, 1⟩]
    arrangement := ⟨[⟨1, 1⟩], [⟨0, ⟨0, 0, 1, 1⟩⟩], false⟩ }
  gains := ⟨2, .bilinear, [⟨.adaptive { AdaptivePolicy.standard with smoothing := 1 }, 0⟩],
    ⟨[[1, 1]]⟩, 0⟩
  pool := .start .standard
  preview := none

namespace StitchConfig

/-- The configuration builds the stitcher. -/
theorem seam_built : seam.buildStitcher .empty [.seam] = .ok .seam := by
  decide +kernel

/-- A pixel as bright as the fill, seen by both sources. -/
def seamViews : List FrameView :=
  [⟨.gray8, ⟨1, 1⟩, [⟨#[100], 0, 1, 1, 1, 1⟩]⟩, ⟨.gray8, ⟨1, 1⟩, [⟨#[100], 0, 1, 1, 1, 1⟩]⟩]

/-- The views are those of two frames. -/
theorem seam_prepared : Stitcher.seam.compositor.prepare [.grayRow 1 #[100], .grayRow 1 #[100]]
    = .ok seamViews := rfl

/-- After a first frame set, the overlap of a second one is still measured on black. -/
theorem seam_measured :
    GainCompensator.measure (Stitcher.seam.performAll
        [.process [.grayRow 1 #[100], .grayRow 1 #[100]]]).gains.interpolation .seam seamViews 1
      = GainCompensator.measureBy 2 (fun _ sample ↦
          Stitcher.seam.compositor.onBlack.blended? ⟨.seam, .weighted, .full⟩ seamViews sample)
          .seam 1 := by
  have hobtained : ∀ template ∈ [Template.seam], template.Obtained := by
    intro template htemplate
    rw [List.mem_singleton.mp htemplate]
    exact .inl ⟨(TemplateBuilder.start Template.seam.toTemplateHeader).set 0 0
      [⟨0, -1, 0, 0.5⟩, ⟨1, 0, 0, 0.5⟩], (TemplateBuilder.Assembled.start _).set 0 0 _,
      by decide +kernel⟩
  have hframes : ∀ frame ∈ [Frame.grayRow 1 #[100], Frame.grayRow 1 #[100]], frame.WellFormed := by
    simp only [List.forall_mem_cons, List.not_mem_nil, IsEmpty.forall_iff, implies_true, and_true,
      and_self]
    exact Frame.gray_row_formed (by decide) (by decide) (by decide)
  exact (measures_on_black seam_built hobtained _ hframes seam_prepared
    List.mem_cons_self).2.1 1

/-- Both sources are blended with the same brightness, but the first is measured as dark. The gain
of the second one drops to a half, and the pixel is darker than both. -/
theorem seam_mismeasured : seam.buildStitcher .empty [.seam] = .ok .seam ∧
    Stitcher.seam.compositor.prepare [.grayRow 1 #[100], .grayRow 1 #[100]] = .ok seamViews ∧
    [⟨0, -1, 0, 0.5⟩, ⟨1, 0, 0, 0.5⟩].mapM (Stitcher.seam.compositor.blended?
        ⟨.seam, .weighted, .full⟩ seamViews) = some [100, 100] ∧
      GainCompensator.measurePixel Stitcher.seam.gains.interpolation Template.seam.edge seamViews
        [⟨0, -1, 0, 0.5⟩, ⟨1, 0, 0, 0.5⟩] = some [(⟨0, by decide⟩, 0), (⟨1, by decide⟩, 100)] ∧
      (Stitcher.seam.process [.grayRow 1 #[100], .grayRow 1 #[100]]).1
        = .ok ⟨[.grayRow 1 #[75]], none⟩ :=
  ⟨seam_built, seam_prepared, by decide +kernel, by decide +kernel, by decide +kernel⟩

end StitchConfig

end Panorama
