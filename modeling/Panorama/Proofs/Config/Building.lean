import Panorama.Config.Build
import Panorama.Proofs.Stitcher.Safety

/-!
# Configurations that are built

A configuration repeats by hand what the constructors of its parts check. `Checked` lists what its
validation lets through, `Matches` what the templates have to agree on, and each part of a stitcher
has a lemma that says when it can be made. `StitchConfig.built_runs` puts them together: a valid
configuration with templates that match builds a stitcher, and whatever that has done before, it
refuses no frame set that fits for its sizes or for a value.
-/

namespace Panorama

/-! ### Compositors that can be made -/

namespace Arrangement

variable {format : PixelFormat} {canvas : Canvas} {outputs : List OutputSpec}

/-- Outputs can be arranged if those on a canvas suit it and the format accepts the canvas. -/
theorem exists_make {layout : OutputLayout} (h : ∀ canvas, layout = .merged canvas →
      format.checkSize canvas = .ok () ∧ ∀ output ∈ outputs,
        Suits format [canvas] output ⟨0, output.region.toPixels canvas⟩) :
    ∃ arrangement, make format outputs layout = .ok arrangement := by
  cases layout with
  | separate => exact ⟨_, rfl⟩
  | merged canvas =>
      obtain ⟨hcanvas, houtputs⟩ := h canvas rfl
      have hplaced : placeFrom format canvas 0 outputs
          = .ok (outputs.map fun output ↦ ⟨0, output.region.toPixels canvas⟩) :=
        place_from_eq_ok_iff.mpr (List.forall₂_map_right_iff.mpr
          (List.forall₂_same.mpr fun output houtput ↦ ⟨rfl, houtputs output houtput⟩))
      show ∃ arrangement, merged format canvas outputs = .ok arrangement
      unfold merged
      rw [hcanvas, hplaced]
      exact ⟨_, rfl⟩

end Arrangement

namespace Compositor

variable {format : PixelFormat} {crop : Option Crop} {outputs : List OutputSpec}
  {layout : OutputLayout} {options : CompositeOptions} {inputs : List Canvas}

/-- A compositor can be made of outputs for the same sources that can be arranged, if the format
accepts all sizes and there are workers. -/
theorem exists_make (crop : Option Crop) (hsome : outputs ≠ []) (houtputs : ∀ output ∈ outputs,
      output.template.inputs = inputs ∧ format.checkSize output.template.size = .ok ())
    (hinputs : ∀ size ∈ inputs, format.checkSize size = .ok ())
    (harranged : ∃ arrangement, Arrangement.make format outputs layout = .ok arrangement)
    (hworkers : options.threads ≠ some 0) :
    ∃ compositor, make format crop outputs layout options = .ok compositor ∧
      compositor.inputs = inputs := by
  obtain ⟨arrangement, harrangement⟩ := harranged
  exact ⟨_, make_eq_ok_iff.mpr
    ⟨hsome, hworkers, inputs, arrangement, houtputs, hinputs, harrangement, rfl⟩, rfl⟩

end Compositor

/-! ### Gains that can be made -/

/-- The policy that a template asks for can be followed. -/
theorem GainMode.validate_of_hint (hint : GainHint) (inputs : Nat) :
    (ofHint hint).validate inputs = .ok () := by
  cases hint with
  | off => rfl
  | adaptive => exact (by decide +kernel : AdaptivePolicy.standard.validate = .ok ())

/-- Gains can be made of modes that pass their checks, if buffers can hold them. -/
theorem GainCompensator.exists_make {modes : List GainMode} {inputs : Nat}
    (hmodes : ∀ mode ∈ modes, mode.validate inputs = .ok ())
    (hgains : Memory.holds inputs GainTable.gainBytes)
    (hrows : Memory.holds modes.length GainTable.rowBytes) (interpolation : Interpolation) :
    ∃ gains, make modes inputs interpolation = .ok gains := by
  have hunity := GainTable.unity_eq_some_iff.mpr ⟨hgains, hrows, rfl⟩
  exact ⟨_, make_eq_ok_iff.mpr ⟨hmodes, _, hunity, rfl⟩⟩

/-! ### What validation lets through -/

/-- The gains that a valid output is configured with pass their check. -/
theorem OutputConfig.gain_of_validate {output : OutputConfig} {index inputs : Nat}
    {canvas : Option Canvas} (h : output.validate index inputs canvas = .ok ()) {mode : GainMode}
    (hmode : output.gain = some mode) : mode.validate inputs = .ok () := by
  unfold validate at h
  obtain ⟨_, h⟩ := Failing.guard_eq_ok_iff.mp h
  rw [hmode] at h
  cases hgain : mode.validate inputs with
  | ok _ => rfl
  | error flaw =>
      simp only [hgain] at h
      cases h

namespace StitchConfig

variable {config : StitchConfig}

/-- What a validated configuration has been found to have, as far as building a stitcher relies on
it. -/
structure Checked (config : StitchConfig) : Prop where
  inputs : config.inputs ≤ maxInputs
  outputs : config.outputs ≠ []
  canvas : ∀ size, config.canvas = some size → config.inputFormat.checkSize size = .ok ()
  preview : ∀ size, config.preview = some size → config.inputFormat.checkSize size = .ok ()
  workers : config.workerThreads ≠ some 0
  gains : ∀ output ∈ config.outputs, ∀ mode, output.gain = some mode →
    mode.validate config.inputs = .ok ()

/-- Outputs that pass the check have gains that do. -/
theorem gains_of_check_outputs {index : Nat} {outputs : List OutputConfig}
    (h : config.checkOutputs index outputs = .ok ()) : ∀ output ∈ outputs, ∀ mode,
      output.gain = some mode → mode.validate config.inputs = .ok () := by
  induction outputs generalizing index with
  | nil => nofun
  | cons output outputs ih =>
      obtain ⟨_, hfirst, hrest⟩ := Failing.bind_eq_ok_iff.mp h
      exact List.forall_mem_cons.mpr ⟨fun _ ↦ OutputConfig.gain_of_validate hfirst, ih hrest⟩

/-- Validation is a list of checks, of which some are about values that there may be. -/
theorem validate_eq (config : StitchConfig) : config.validate = (do
    if config.inputs = 0 ∨ maxInputs < config.inputs then
      throw (.invalid (.configInputs config.inputs))
    if config.outputs.isEmpty then throw (.invalid .configOutputs)
    config.crop.forM (checkCrop config.inputFormat)
    config.canvas.forM config.inputFormat.checkSize
    config.preview.forM config.inputFormat.checkSize
    if config.workerThreads = some 0 then throw (.invalid .configWorkers)
    config.checkOutputs 0 config.outputs) := by
  unfold validate
  cases config.crop <;> cases config.canvas <;> cases config.preview <;> rfl

/-- Validation checks what building relies on. -/
theorem checked_of_validate (h : config.validate = .ok ()) : config.Checked := by
  rw [validate_eq] at h
  obtain ⟨hinputs, h⟩ := Failing.guard_eq_ok_iff.mp h
  obtain ⟨houtputs, h⟩ := Failing.guard_eq_ok_iff.mp h
  obtain ⟨_, _, h⟩ := Failing.bind_eq_ok_iff.mp h
  obtain ⟨_, hcanvas, h⟩ := Failing.bind_eq_ok_iff.mp h
  obtain ⟨_, hpreview, h⟩ := Failing.bind_eq_ok_iff.mp h
  obtain ⟨hworkers, h⟩ := Failing.guard_eq_ok_iff.mp h
  refine ⟨by omega, ?_, Failing.for_option_eq_ok_iff.mp hcanvas,
    Failing.for_option_eq_ok_iff.mp hpreview, hworkers, gains_of_check_outputs h⟩
  intro hempty
  exact houtputs (by rw [hempty]; rfl)

end StitchConfig

/-! ### Templates that match -/

/-- A size that templates may have is not empty. -/
theorem Canvas.pos_of_template_size {size : Canvas} (h : size.isTemplateSize) :
    0 < size.width.toNat ∧ 0 < size.height.toNat := by
  have hpositive (side : UInt32) (hside : (side == 0) = false) : 0 < side.toNat := by
    rw [beq_eq_false_iff_ne, Ne, ← UInt32.toNat_inj] at hside
    exact Nat.pos_of_ne_zero hside
  simp only [isTemplateSize, isEmpty, Bool.and_eq_true, Bool.not_eq_true', Bool.or_eq_false_iff]
    at h
  exact ⟨hpositive _ h.1.1.1, hpositive _ h.1.1.2⟩

/-- Both dimensions of a size are even. -/
def Canvas.IsEven (size : Canvas) : Prop :=
  size.width.toNat % 2 = 0 ∧ size.height.toNat % 2 = 0

/-- A format accepts the sizes of templates that are even where it has to be. -/
theorem PixelFormat.check_template_size {format : PixelFormat} {size : Canvas}
    (h : size.isTemplateSize) (heven : format.isChromaSubsampled → size.IsEven) :
    format.checkSize size = .ok () :=
  check_size_eq_ok_iff.mpr ⟨Canvas.pos_of_template_size h, heven⟩

namespace StitchConfig

variable {config : StitchConfig} {templates : List Template}
  {inputs : List Canvas} {stitcher : Stitcher} {frames : List Frame}

/-- Templates that suit a configuration: one per output, all for the same sources, of which there
are as many as configured. With chroma planes all sizes are even. Where there is a canvas, the
region of every output covers pixels of it, as many as the template has, and with chroma planes it
starts at an even pixel. -/
structure Matches (config : StitchConfig) (templates : List Template) (inputs : List Canvas) :
    Prop where
  count : templates.length = config.outputs.length
  sources : inputs.length = config.inputs
  obtained : ∀ template ∈ templates, template.Obtained
  same_sources : ∀ template ∈ templates, template.inputs = inputs
  even : config.inputFormat.isChromaSubsampled →
    (∀ template ∈ templates, template.size.IsEven) ∧ ∀ size ∈ inputs, size.IsEven
  placed : ∀ canvas, config.canvas = some canvas → ∀ output template,
    (output, template) ∈ config.outputs.zip templates →
      ((output.region.getD template.region).toPixels canvas).size = template.size ∧
      ((output.region.getD template.region).toPixels canvas).fits canvas ∧
      (config.inputFormat.isChromaSubsampled →
        ((output.region.getD template.region).toPixels canvas).x.toNat % 2 = 0 ∧
        ((output.region.getD template.region).toPixels canvas).y.toNat % 2 = 0)

/-- A frame set that fits a configuration: a well-formed frame of its format for every source, with
the size of the source behind the crop. -/
def Fits (config : StitchConfig) (inputs : List Canvas) (frames : List Frame) : Prop :=
  List.Forall₂ (fun frame size ↦ frame.WellFormed ∧ frame.format = config.inputFormat ∧
    ∃ view, frame.view config.crop = .ok view ∧ view.size = size) frames inputs

/-- There is memory for the outputs of a configuration, each of which names its template by a path.
A path takes as many bytes as a row of a gain table. -/
def IsStored (config : StitchConfig) : Prop :=
  Memory.holds config.outputs.length GainTable.rowBytes

/-! ### Building -/

/-- The outputs of a configuration with their templates. -/
def specs (config : StitchConfig) (templates : List Template) : List OutputSpec :=
  (config.outputs.zip templates).map fun (output, template) ↦ output.spec template

namespace Matches

/-- The outputs of a configuration with matching templates pass the checks of a compositor. -/
theorem outputs_ok (h : config.Matches templates inputs) (output : OutputSpec)
    (houtput : output ∈ config.specs templates) :
    output.template ∈ templates ∧ output.template.inputs = inputs ∧
      config.inputFormat.checkSize output.template.size = .ok () := by
  obtain ⟨⟨configured, template⟩, hpair, rfl⟩ := List.mem_map.mp houtput
  have htemplate := (List.of_mem_zip hpair).2
  obtain ⟨entries, hlists⟩ := (h.obtained template htemplate).lists
  exact ⟨htemplate, h.same_sources template htemplate, PixelFormat.check_template_size
    (TemplateHeader.size_of_valid hlists.header) fun hchroma ↦ (h.even hchroma).1 _ htemplate⟩

/-- The sources of matching templates have sizes that the format accepts. -/
theorem inputs_ok (h : config.Matches templates inputs) (hsome : templates ≠ []) (size : Canvas)
    (hsize : size ∈ inputs) : config.inputFormat.checkSize size = .ok () := by
  obtain ⟨template, htemplate⟩ := List.exists_mem_of_ne_nil _ hsome
  obtain ⟨entries, hlists⟩ := (h.obtained template htemplate).lists
  rw [← h.same_sources template htemplate] at hsize
  refine PixelFormat.check_template_size (TemplateHeader.input_of_valid hlists.header hsize)
    fun hchroma ↦ (h.even hchroma).2 size ?_
  rwa [← h.same_sources template htemplate]

/-- The outputs of a configuration with matching templates can be arranged. -/
theorem arranged (h : config.Matches templates inputs) (hchecked : config.Checked) :
    ∃ arrangement, Arrangement.make config.inputFormat (config.specs templates) config.layout
      = .ok arrangement := by
  refine Arrangement.exists_make fun canvas hlayout ↦ ?_
  have hcanvas : config.canvas = some canvas := by
    unfold layout at hlayout
    split at hlayout
    · rename_i size hsize
      cases hlayout
      exact hsize
    · cases hlayout
  refine ⟨hchecked.canvas canvas hcanvas, fun output houtput ↦ ?_⟩
  obtain ⟨⟨configured, template⟩, hpair, rfl⟩ := List.mem_map.mp houtput
  obtain ⟨hsize, hfits, heven⟩ := h.placed canvas hcanvas configured template hpair
  exact ⟨hsize, ⟨canvas, rfl, hfits⟩, heven⟩

end Matches

/-- Without schedules, every output has gains that pass their check. -/
theorem exists_modes (hchecked : config.Checked)
    (hscheduled : ∀ output ∈ config.outputs, output.gainSchedule = none) (store : FileStore)
    (templates : List Template) : ∃ modes, (config.outputs.zip templates).mapM
        (fun (output, template) ↦ output.gainMode store config.inputs template) = .ok modes ∧
      ∀ mode ∈ modes, mode.validate config.inputs = .ok () := by
  have hmode (pair : OutputConfig × Template) (hpair : pair ∈ config.outputs.zip templates) :
      ∃ mode, pair.1.gainMode store config.inputs pair.2 = .ok mode ∧
        mode.validate config.inputs = .ok () := by
    obtain ⟨output, template⟩ := pair
    have houtput := (List.of_mem_zip hpair).1
    unfold OutputConfig.gainMode
    rw [hscheduled output houtput]
    cases hgain : output.gain with
    | none => exact ⟨_, rfl, GainMode.validate_of_hint template.gain config.inputs⟩
    | some mode => exact ⟨mode, rfl, hchecked.gains output houtput mode hgain⟩
  obtain ⟨modes, hmodes⟩ := Failing.exists_map_eq_ok fun pair hpair ↦
    (hmode pair hpair).imp fun _ ↦ And.left
  refine ⟨modes, hmodes, fun mode hmem ↦ ?_⟩
  obtain ⟨index, hindex⟩ := List.getElem?_of_mem hmem
  obtain ⟨pair, hpair, hresult⟩ :=
    Failing.exists_of_forall₂ (Failing.map_eq_ok_iff.mp hmodes).flip hindex
  obtain ⟨other, hother, hvalid⟩ := hmode pair (List.mem_of_getElem? hpair)
  rw [hother] at hresult
  cases hresult
  exact hvalid

/-- A stitcher that is ready for the frame sets that fit a configuration. -/
structure Serves (config : StitchConfig) (inputs : List Canvas) (stitcher : Stitcher) : Prop where
  ready : stitcher.Ready
  format : stitcher.compositor.format = config.inputFormat
  crop : stitcher.compositor.crop = config.crop
  sources : stitcher.compositor.inputs = inputs
  gains : stitcher.gains.inputs = inputs.length

/-- A valid configuration without gain schedules builds a stitcher of templates that match. -/
theorem exists_build (store : FileStore) (hvalid : config.validate = .ok ())
    (hscheduled : ∀ output ∈ config.outputs, output.gainSchedule = none)
    (hstored : config.IsStored) (hmatches : config.Matches templates inputs) :
    ∃ stitcher, config.buildStitcher store templates = .ok stitcher ∧
      config.Serves inputs stitcher := by
  have hchecked := checked_of_validate hvalid
  have hpairs : (config.outputs.zip templates).length = config.outputs.length := by
    rw [List.length_zip, hmatches.count, Nat.min_self]
  have htemplates : templates ≠ [] := by
    rintro rfl
    exact hchecked.outputs (List.length_eq_zero_iff.mp hmatches.count.symm)
  have hspecs : config.specs templates ≠ [] := by
    rw [← List.length_pos_iff, specs, List.length_map, hpairs]
    exact List.length_pos_of_ne_nil hchecked.outputs
  obtain ⟨modes, hmodes, hmodesValid⟩ := exists_modes hchecked hscheduled store templates
  obtain ⟨compositor, hcompositor, hsources⟩ := Compositor.exists_make config.crop hspecs
    (fun output houtput ↦ (hmatches.outputs_ok output houtput).2) (hmatches.inputs_ok htemplates)
    (hmatches.arranged hchecked)
    (show config.compositeOptions.threads ≠ some 0 from hchecked.workers)
  have hmade := Compositor.made_of_make hcompositor
  have hcount : modes.length = config.outputs.length := by
    rw [← (Failing.map_eq_ok_iff.mp hmodes).length_eq, hpairs]
  have hholds : Memory.holds config.inputs GainTable.gainBytes := by
    refine decide_eq_true ?_
    calc config.inputs * GainTable.gainBytes ≤ maxInputs * GainTable.gainBytes :=
          Nat.mul_le_mul_right _ hchecked.inputs
      _ < Memory.bufferLimit := by decide
  obtain ⟨gains, hgains⟩ := GainCompensator.exists_make hmodesValid hholds
    (by rw [hcount]; exact hstored) config.interpolation
  obtain ⟨stitcher, hmake⟩ : ∃ stitcher,
      Stitcher.make compositor gains config.preview config.pool = .ok stitcher := by
    refine ⟨_, Stitcher.make_eq_ok_iff.mpr ⟨?_, fun size hsize ↦ ?_, rfl⟩⟩
    · obtain ⟨_, _, _, rfl⟩ := GainCompensator.make_eq_ok_iff.mp hgains
      rw [GainCompensator.templates, List.length_map, hmade.same_outputs, specs, List.length_map,
        hpairs, hcount]
    · rw [hmade.same_format]
      exact hchecked.preview size hsize
  refine ⟨stitcher, ?_, ?_⟩
  · unfold buildStitcher
    rw [if_neg (not_not.mpr hmatches.count)]
    exact Failing.bind_eq_ok_iff.mpr ⟨modes, hmodes, Failing.bind_eq_ok_iff.mpr
      ⟨compositor, Failing.of_result_eq_ok_iff.mpr hcompositor, Failing.bind_eq_ok_iff.mpr
        ⟨gains, hgains, Failing.of_result_eq_ok_iff.mpr hmake⟩⟩⟩
  · obtain ⟨hready, _, hsame⟩ := Stitcher.ready_of_make hcompositor
      (fun output houtput ↦ hmatches.obtained _ (hmatches.outputs_ok output houtput).1) hgains hmake
    obtain ⟨_, _, rfl⟩ := Stitcher.make_eq_ok_iff.mp hmake
    exact ⟨hready, hmade.same_format, hmade.same_crop, hsources,
      (GainCompensator.inputs_of_make hgains).trans hmatches.sources.symm⟩

/-! ### Running -/

namespace Serves

/-- A stitcher serves its configuration after any calls with well-formed frames. -/
theorem perform_all (h : config.Serves inputs stitcher) {calls : List StitcherCall}
    (hcalls : ∀ call ∈ calls, ∀ frame ∈ call.frames, frame.WellFormed) :
    config.Serves inputs (stitcher.performAll calls) := by
  induction calls generalizing stitcher with
  | nil => exact h
  | cons call calls ih =>
      obtain ⟨hcall, hlater⟩ := List.forall_mem_cons.mp hcalls
      refine ih ?_ hlater
      cases call with
      | recycle frames => exact ⟨h.ready.recycle hcall, h.format, h.crop, h.sources, h.gains⟩
      | process frames =>
          have hready : (stitcher.process frames).2.Ready := (h.ready.process hcall).1
          obtain ⟨pool, hstate, _⟩ := stitcher.process_state frames
          show config.Serves inputs (stitcher.process frames).2
          rw [hstate] at hready ⊢
          refine ⟨hready, h.format, h.crop, h.sources, ?_⟩
          -- An update keeps the number of sources, and a refused set is no update.
          show (Stitcher.observe stitcher.compositor stitcher.gains frames).inputs = inputs.length
          unfold Stitcher.observe
          cases stitcher.compositor.prepare frames with
          | error failure => exact h.gains
          | ok views => exact (h.ready.sound.shaped.update views _).2.1.trans h.gains

/-- A frame set that fits is prepared, with one view for each source. -/
theorem exists_prepare (h : config.Serves inputs stitcher) (hfits : config.Fits inputs frames) :
    ∃ views, stitcher.compositor.prepare frames = .ok views := by
  have hviews (item : Frame × Canvas) (hitem : item ∈ frames.zip inputs) :
      ∃ view, stitcher.compositor.Prepares item.2 item.1 view := by
    obtain ⟨_, hformat, view, hview, hsize⟩ := List.forall₂_zip hfits hitem
    exact ⟨view, hformat.trans h.format.symm, hsize, h.crop ▸ hview⟩
  obtain ⟨views, hrelated⟩ := Failing.exists_related hviews
  rw [← h.sources] at hfits hrelated
  exact ⟨views, Compositor.prepare_eq_ok_iff.mpr ⟨hfits.length_eq, hrelated⟩⟩

/-- A frame set that fits is composed, unless memory is short. -/
theorem process_fails (h : config.Serves inputs stitcher) (hfits : config.Fits inputs frames) :
    FailsOnly (fun failure ↦ ∃ exhaustion, failure = .refused (.exhausted exhaustion))
      (stitcher.process frames).1 := by
  have hframes (frame : Frame) (hframe : frame ∈ frames) : frame.WellFormed := by
    obtain ⟨index, hindex⟩ := List.getElem?_of_mem hframe
    obtain ⟨_, _, hformed, _⟩ := Failing.exists_of_forall₂ hfits hindex
    exact hformed
  obtain ⟨views, hprepare⟩ := h.exists_prepare hfits
  have hupdate : (stitcher.gains.update views stitcher.compositor.templates).1 = .ok () := by
    refine (h.ready.tuned.update_ok ?_ ?_ ?_ ?_).1
    · rw [(Compositor.prepare_ok hprepare).2.1, h.sources, h.gains]
    · exact (List.length_map ..).trans h.ready.sound.rows.symm
    · exact Compositor.measurable_views h.ready.valid hframes hprepare
    · intro template htemplate
      obtain ⟨output, houtput, rfl⟩ := List.mem_map.mp htemplate
      exact (h.ready.templates output houtput).lists
  refine Stitcher.process_fails (hprepare ▸ .ok views) fun others hothers ↦ ?_
  rw [hprepare, Except.ok.injEq] at hothers
  subst hothers
  exact ⟨hupdate ▸ .ok (), fun _ ↦
    h.ready.compose_fails (fun exhaustion ↦ ⟨exhaustion, rfl⟩) hframes hprepare hupdate⟩

end Serves

/-- A valid configuration without gain schedules builds a stitcher of any templates that match.
Whatever calls that stitcher has had, it refuses a frame set that fits for a lack of memory only,
and never for a size or a value. -/
theorem built_runs (store : FileStore) (hvalid : config.validate = .ok ())
    (hscheduled : ∀ output ∈ config.outputs, output.gainSchedule = none)
    (hstored : config.IsStored) (hmatches : config.Matches templates inputs) :
    ∃ stitcher, config.buildStitcher store templates = .ok stitcher ∧
      ∀ (calls : List StitcherCall) (frames : List Frame),
        (∀ call ∈ calls, ∀ frame ∈ call.frames, frame.WellFormed) → config.Fits inputs frames →
          ∀ failure, ((stitcher.performAll calls).process frames).1 = .error failure →
            ∃ exhaustion, failure = .refused (.exhausted exhaustion) := by
  obtain ⟨stitcher, hbuild, hserves⟩ := exists_build store hvalid hscheduled hstored hmatches
  exact ⟨stitcher, hbuild, fun calls frames hcalls hfits ↦
    (hserves.perform_all hcalls).process_fails hfits⟩

/-- A configuration of one source, of which the middle column is used, with the output on the left
half of a canvas. -/
def spot : StitchConfig where
  inputs := 1
  inputFormat := .gray8
  crop := some ⟨1, 1⟩
  outputs := [⟨"spot.pstm", none, some (.fixed [2]), none, some ⟨0, 0, 0.5, 1⟩⟩]
  canvas := some ⟨4, 1⟩
  preview := some ⟨2, 1⟩
  interpolation := .bilinear
  fill := none
  workerThreads := none
  pool := .standard

/-- The configuration builds a stitcher of the template, which refuses a frame of three columns for
a lack of memory only, also after a frame of two columns. -/
theorem spot_runs : ∃ stitcher, spot.buildStitcher .empty [.spot] = .ok stitcher ∧
    ∀ failure, ((stitcher.performAll [.process [.grayRow 2 #[1, 2]]]).process
        [.grayRow 3 #[1, 2, 3]]).1 = .error failure →
      ∃ exhaustion, failure = .refused (.exhausted exhaustion) := by
  have hvalid : spot.validate = .ok () := by decide +kernel
  have hscheduled : ∀ output ∈ spot.outputs, output.gainSchedule = none := by
    simp [spot]
  have hstored : spot.IsStored := by
    unfold IsStored
    decide
  have hmatches : spot.Matches [.spot] [⟨1, 1⟩] := by
    refine ⟨rfl, rfl, ?_, ?_, nofun, ?_⟩
    · simpa using Template.spot_obtained
    · simp [Template.spot]
    · intro canvas hcanvas output template hpair
      cases hcanvas
      cases List.mem_singleton.mp hpair
      exact ⟨by decide +kernel, by decide +kernel, nofun⟩
  obtain ⟨stitcher, hbuild, hruns⟩ := built_runs .empty hvalid hscheduled hstored hmatches
  refine ⟨stitcher, hbuild, hruns _ _ ?_ ?_⟩
  · intro call hcall frame hframe
    cases List.mem_singleton.mp hcall
    cases List.mem_singleton.mp hframe
    exact Frame.gray_row_formed (by decide) (by decide) (by decide)
  · exact .cons ⟨Frame.gray_row_formed (by decide) (by decide) (by decide), rfl, _, rfl, rfl⟩ .nil

end StitchConfig

end Panorama
