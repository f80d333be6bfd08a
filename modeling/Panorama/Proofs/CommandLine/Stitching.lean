import Panorama.CommandLine.Run
import Panorama.Proofs.CommandLine.Opening
import Panorama.Proofs.CommandLine.Sessions
import Panorama.Proofs.Template.Accepted

/-!
# What the stitch command writes

The command writes what a stitcher makes of the first frames of its inputs, of the second ones, and
so on, until an input ends or the limit is reached. The stitcher is a new one of the same
configuration that is never given anything back. Read `StitchRequest.Feeds` and
`StitchRequest.Stitches` first.
-/

namespace Panorama

variable {store : FileStore} {config : StitchConfig} {templates : List Template}
  {stitcher : Stitcher}

/-- The stitcher of a configuration is sound and has a valid compositor, and there is a template. -/
theorem StitchConfig.stitcher_of_build (h : config.buildStitcher store templates = .ok stitcher) :
    stitcher.Sound ∧ stitcher.compositor.Valid ∧
      ∃ template others, templates = template :: others := by
  unfold buildStitcher at h
  split at h
  · cases h
  · rename_i hlength
    simp only [Failing.bind_eq_ok_iff, Failing.of_result_eq_ok_iff] at h
    obtain ⟨modes, _, compositor, hcompositor, gains, hgains, hmake⟩ := h
    obtain ⟨hsound, hsame, _⟩ := Stitcher.sound_of_make (.make hgains) hmake
    refine ⟨hsound, hsame ▸ Compositor.valid_of_make hcompositor, ?_⟩
    cases templates with
    | nil =>
        rw [List.zip_nil_right, List.map_nil] at hcompositor
        cases hcompositor
    | cons template others => exact ⟨template, others, rfl⟩

/-- A template that is loaded has been obtained, and has the sources of the configuration. -/
theorem StitchConfig.template_of_load {output : OutputConfig} {template : Template}
    (h : config.loadTemplate store output = .ok template) :
    template.Obtained ∧ template.inputs.length = config.inputs := by
  obtain ⟨loaded, hload, h⟩ := Failing.bind_eq_ok_iff.mp h
  split at h
  · cases h
  · rename_i hinputs
    cases h
    refine ⟨?_, not_not.mp hinputs⟩
    unfold Template.loadFile at hload
    split at hload
    · cases hload
    · split at hload
      · cases hload
      · exact .inr ⟨_, hload⟩

namespace CommandLine

variable {request : StitchRequest} {path : String} {place : Place} {created : FileStore}
  {streams : List (List Frame)} {outputs : List StitchOutput} {picture : Option Canvas}

/-- A file holds the packed forms of frames, one after the other. -/
def HoldsStream (store : FileStore) (format : PixelFormat) (path : String) (size : Canvas)
    (stream : List Frame) : Prop :=
  ∃ place content, store.HasFile path place content ∧
    Frame.Stream format size stream content.toList

/-- Inputs that are there can be opened. -/
theorem check_inputs_ok {paths : List String}
    (h : ∀ path ∈ paths, ∃ place content, store.HasFile path place content) :
    StitchRequest.checkInputs store paths = .ok () := by
  induction paths with
  | nil => rfl
  | cons path paths ih =>
      obtain ⟨⟨place, content, hfile⟩, hothers⟩ := List.forall_mem_cons.mp h
      unfold StitchRequest.checkInputs
      rw [hfile.opened]
      exact ih hothers

/-- An input is read from the start of its file on. -/
theorem start_of_file {content : FileContent} (h : store.HasFile path place content) :
    FileInput.start store path = ⟨path, .ofBytes content.toList, 0, 0⟩ := by
  unfold FileInput.start
  rw [h.opened]

namespace StitchRequest

/-- The sizes of the frames that are read from the inputs. -/
def frameSizes (request : StitchRequest) (templates : List Template) : List Canvas :=
  (templates.head?.map request.rawSizes).getD []

/-- A request has a configuration that can be loaded, with templates that make a stitcher, and as
many inputs as that says. -/
structure Loads (request : StitchRequest) (store : FileStore) (config : StitchConfig)
    (templates : List Template) (stitcher : Stitcher) : Prop where
  loaded : StitchConfig.loadFile store request.config = .ok config
  count : request.inputs.length = config.inputs
  given : config.loadTemplates store = .ok templates
  built : config.buildStitcher store templates = .ok stitcher

/-- The inputs hold streams of frames, and of the aligned sets of these frames, up to the limit or
the end of the shortest stream, the stitcher makes outputs without being given anything back. -/
structure Feeds (request : StitchRequest) (store : FileStore) (config : StitchConfig)
    (templates : List Template) (stitcher : Stitcher) (streams : List (List Frame))
    (outputs : List StitchOutput) : Prop extends
    request.Loads store config templates stitcher where
  held : List.Forall₂ (fun input stream ↦
      HoldsStream store config.inputFormat input.1 input.2 stream)
    (request.inputs.zip (request.frameSizes templates)) streams
  made : stitcher.Makes (alignedSets streams (setCount streams request.frames)) outputs

/-- The outputs are regular files that differ from each other and from the inputs. If a picture is
asked for, it can be written to yet another file. -/
structure Apart (request : StitchRequest) (created : FileStore) (picture : Option Canvas) :
    Prop where
  regular : ∀ path ∈ request.outputs, (created.regular? path).isSome
  distinct : (request.outputs.map created.regular?).Nodup
  sources : ∀ path ∈ request.inputs, created.regular? path ∉ request.outputs.map created.regular?
  depicted : ∀ path, request.png = some path → ∃ place,
    some place ∉ (request.outputs ++ request.inputs).map created.regular? ∧
      ∀ size, picture = some size → CanSave created path place size

/-- A command succeeds, and its files hold the packed outputs and the packed previews, one after the
other. -/
structure Stitches (request : StitchRequest) (outputs : List StitchOutput)
    (conclusion : Conclusion) : Prop where
  success : conclusion.ending = .success
  out : ∃ bytes, Frame.packAll? (outputs.flatMap StitchOutput.outputs) = some bytes ∧
    conclusion.store.content? request.out = some bytes
  preview : ∀ path, request.previewOut = some path →
    ∃ bytes, Frame.packAll? (outputs.flatMap (·.preview.toList)) = some bytes ∧
      conclusion.store.content? path = some bytes

namespace Loads

variable (h : request.Loads store config templates stitcher)

include h

/-- What the request needs can be prepared. -/
theorem prepare_ok :
    request.prepare store = .ok (config, request.frameSizes templates, stitcher) := by
  unfold prepare
  rw [h.loaded]
  refine Failing.bind_eq_ok_iff.mpr ⟨config, rfl, ?_⟩
  dsimp only
  rw [if_neg (not_not.mpr h.count), h.given]
  refine Failing.bind_eq_ok_iff.mpr ⟨templates, rfl, ?_⟩
  rw [h.built]
  rfl

/-- The first template has a size for every input, and no assembler has too many inputs. -/
theorem inputs_ok : (request.frameSizes templates).length = request.inputs.length ∧
    request.inputs ≠ [] ∧
      FrameAssembler.start? config.inputs = some ⟨List.replicate config.inputs none, false⟩ := by
  obtain ⟨_, _, template, others, rfl⟩ := StitchConfig.stitcher_of_build h.built
  obtain ⟨output, _, hload, _⟩ :=
    List.forall₂_cons_right_iff.mp (Failing.map_eq_ok_iff.mp h.given)
  obtain ⟨hobtained, hcount⟩ := StitchConfig.template_of_load hload
  obtain ⟨entries, hlists⟩ := hobtained.lists
  have hinputs := TemplateHeader.inputs_of_valid hlists.header
  rw [hcount, ← h.count] at hinputs
  refine ⟨?_, fun hempty ↦ hinputs (.inl (List.length_eq_zero_iff.mpr hempty)), ?_⟩
  · show (template.inputs.map _).length = _
    rw [List.length_map, hcount, h.count]
  · have hfew : config.inputs ≤ maxTemplateInputs :=
      h.count ▸ Nat.le_of_not_lt fun hmany ↦ hinputs (.inr hmany)
    -- Even the largest number of inputs needs a buffer of ten megabytes only.
    have hholds : Memory.holds config.inputs FrameAssembler.slotBytes = true := by
      refine decide_eq_true (Nat.lt_of_le_of_lt (Nat.mul_le_mul_right _ hfew) ?_)
      decide
    exact if_pos hholds

/-- If the inputs are there and the outputs can be made, a session decides how the request ends. -/
theorem run_eq (hinputs : checkInputs store request.inputs = .ok ())
    (hcreate : createAll store request.outputs = (.ok (), created)) :
    request.run store = request.finish (request.session config (request.frameSizes templates)
      stitcher ⟨List.replicate config.inputs none, false⟩ created) := by
  obtain ⟨_, _, hstart⟩ := h.inputs_ok
  unfold run
  rw [h.prepare_ok]
  dsimp only [bind, Except.bind]
  rw [hinputs]
  dsimp only [pure, Except.pure]
  rw [hcreate, hstart]

end Loads

/-! ### Files at the start -/

namespace Apart

variable (h : request.Apart created picture) (hopened : Opened store request.outputs created)

include h hopened

/-- An output that was made is an empty file. -/
theorem made (hpath : path ∈ request.outputs) : ∃ place, created.regular? path = some place ∧
    created.HasFile path place (.ofList []) := by
  obtain ⟨place, hplace⟩ := Option.isSome_iff_exists.mp (h.regular path hpath)
  obtain ⟨content, hfile⟩ := FileStore.regular_eq_some_iff.mp hplace
  exact ⟨place, hplace, hopened.empty hpath hfile⟩

/-- An input is what it was when the outputs have been made. -/
theorem unchanged (hpath : path ∈ request.inputs) {content : FileContent}
    (hfile : store.HasFile path place content) : created.HasFile path place content := by
  -- What stands where an output was made is an output now, and no input is one.
  refine hopened.has_file hfile fun other hother hlocated ↦ ?_
  obtain ⟨target, htarget, hmade⟩ := h.made hopened hother
  rw [hmade.located, Except.ok.injEq] at hlocated
  subst hlocated
  have hsource : created.regular? path = some target :=
    FileStore.regular_eq_some_iff.mpr ⟨_, hopened.directories.locate hfile.located, hmade.node⟩
  exact h.sources path hpath (List.mem_map.mpr ⟨other, hother, htarget.trans hsource.symm⟩)

/-- Nothing has been given to the outputs and previews. -/
theorem exists_targets : ∃ (out : FileTarget) (preview : Option FileTarget),
    request.outputs.map created.regular? = (out :: preview.toList).map (some ·.place) ∧
      (FileWriter.start request.out).Holds created out.path out.place [] ∧
        Option.Rel (fun target writer ↦ FileWriter.Holds writer created target.path target.place [])
          preview (request.previewOut.map FileWriter.start) ∧
          preview.map FileTarget.path = request.previewOut ∧ out.path = request.out := by
  obtain ⟨place, hplace, hfile⟩ := h.made hopened List.mem_cons_self
  cases hpreview : request.previewOut with
  | none =>
      refine ⟨⟨request.out, place⟩, none, ?_, .start hfile, .none, rfl, rfl⟩
      unfold outputs
      rw [hpreview]
      exact congrArg ([·]) hplace
  | some path =>
      have hmem : path ∈ request.outputs :=
        List.mem_cons_of_mem _ (Option.mem_toList.mpr hpreview)
      obtain ⟨other, hother, hshown⟩ := h.made hopened hmem
      refine ⟨⟨request.out, place⟩, some ⟨path, other⟩, ?_, .start hfile, .some (.start hshown),
        rfl, rfl⟩
      unfold outputs
      rw [hpreview]
      exact congrArg₂ ([·, ·]) hplace hother

end Apart

namespace Feeds

variable (h : request.Feeds store config templates stitcher streams outputs)
  (hapart : request.Apart created picture) (hopened : Opened store request.outputs created)

include h

/-- There is a stream for every input. -/
theorem streams_length : streams.length = request.inputs.length := by
  rw [← h.held.length_eq, List.length_zip, h.inputs_ok.1, Nat.min_self]

/-- Every input holds its stream. -/
theorem held_at {index : Nat} {size : Canvas} {stream : List Frame}
    (hpath : request.inputs[index]? = some path)
    (hsize : (request.frameSizes templates)[index]? = some size)
    (hstream : streams[index]? = some stream) :
    HoldsStream store config.inputFormat path size stream := by
  obtain ⟨other, hother, hholds⟩ := Failing.exists_of_forall₂ h.held
    (List.getElem?_zip_eq_some.mpr ⟨hpath, hsize⟩ :
      (request.inputs.zip (request.frameSizes templates))[index]? = some (path, size))
  rw [hstream, Option.some.injEq] at hother
  exact hother ▸ hholds

/-- Every input is a file. -/
theorem exists_file (hpath : path ∈ request.inputs) :
    ∃ place content, store.HasFile path place content := by
  obtain ⟨index, hindex⟩ := List.getElem?_of_mem hpath
  have hlength := (List.getElem?_eq_some_iff.mp hindex).1
  obtain ⟨place, content, hfile, _⟩ := h.held_at hindex
    (List.getElem?_eq_getElem (hlength.trans_eq h.inputs_ok.1.symm))
    (List.getElem?_eq_getElem (hlength.trans_eq h.streams_length.symm))
  exact ⟨place, content, hfile⟩

/-- What the request reads. -/
def feed (hsizes : ∀ size ∈ request.frameSizes templates,
    ∃ planes, Frame.tightPlanes config.inputFormat size = .ok planes) : Feed where
  format := config.inputFormat
  sizes := request.frameSizes templates
  streams := streams
  nonempty hempty := h.inputs_ok.2.1 (List.length_eq_zero_iff.mp
    (h.streams_length.symm.trans (List.length_eq_zero_iff.mpr hempty)))
  count := h.inputs_ok.1.trans h.streams_length.symm
  readable := hsizes

include hapart hopened

/-- Nothing has been read from the inputs. -/
theorem unread (hsizes : ∀ size ∈ request.frameSizes templates,
    ∃ planes, Frame.tightPlanes config.inputFormat size = .ok planes) :
    (h.feed hsizes).Unread 0 0 (request.inputs.map (.start created)) := by
  refine ⟨(List.length_map _).trans h.streams_length.symm,
    fun index size stream input hsize hstream hinput ↦ ?_⟩
  rw [List.getElem?_map, Option.map_eq_some_iff] at hinput
  obtain ⟨path, hpath, rfl⟩ := hinput
  obtain ⟨place, content, hfile, hbytes⟩ := h.held_at hpath hsize hstream
  have hkept := hapart.unchanged hopened (List.mem_of_getElem? hpath) hfile
  rw [start_of_file hkept, if_neg (Nat.not_lt_zero index), List.drop_zero, Source.of_bytes_bytes]
  exact ⟨hbytes, rfl⟩

/-- Every input has a place that it is read from. -/
theorem sources {input : FileInput} (hinput : input ∈ request.inputs.map (.start created)) :
    ∃ place ∈ request.inputs.filterMap created.regular?,
      created.locate input.path = .ok place := by
  obtain ⟨path, hpath, rfl⟩ := List.mem_map.mp hinput
  obtain ⟨place, content, hfile⟩ := h.exists_file hpath
  have hkept := hapart.unchanged hopened hpath hfile
  refine ⟨place, List.mem_filterMap.mpr ⟨path, hpath,
    FileStore.regular_eq_some_iff.mpr ⟨content, hkept⟩⟩, ?_⟩
  rw [start_of_file hkept]
  exact hkept.located

end Feeds

/-! ### Whole commands -/

section Whole

variable (hfeeds : request.Feeds store config templates stitcher streams outputs)
  (hopened : Opened store request.outputs created)
  (hapart : request.Apart created stitcher.compositor.outputSizes.head?)

include hfeeds hopened hapart

/-- A session that starts has a plan, of which nothing has been written. -/
theorem exists_plan (assembler : FrameAssembler) : ∃ plan : Plan, plan.initial = stitcher ∧
    plan.sets = alignedSets streams (setCount streams request.frames) ∧ plan.outputs = outputs ∧
      plan.out.path = request.out ∧ plan.preview.map FileTarget.path = request.previewOut ∧
        Session.Writes plan 0
          (request.session config (request.frameSizes templates) stitcher assembler created) := by
  obtain ⟨hsound, hvalid, _⟩ := StitchConfig.stitcher_of_build hfeeds.built
  obtain ⟨out, preview, hplaces, hout, hpreview, hshown, hpath⟩ := hapart.exists_targets hopened
  have hdistinct := hapart.distinct
  have hpicture := hapart.depicted
  rw [hplaces] at hdistinct
  simp only [List.map_append, hplaces] at hpicture
  refine ⟨{
    initial := stitcher
    sets := alignedSets streams (setCount streams request.frames)
    outputs, out, preview
    sources := request.inputs.filterMap created.regular?
    sound := hsound
    valid := hvalid
    makes := hfeeds.made
    apart := ?_ }, rfl, rfl, rfl, hpath, hshown, ?_⟩
  · rintro target rfl hsame
    simp [hsame] at hdistinct
  · refine ⟨⟨[], rfl, hout⟩, ⟨[], rfl, hpreview⟩, fun _ ↦ hfeeds.sources hapart hopened,
      fun path hpng ↦ ?_⟩
    obtain ⟨place, hplace, hsave⟩ := hpicture path hpng
    obtain ⟨htargets, hinputs⟩ := not_or.mp (List.mem_append.not.mp hplace)
    obtain ⟨hother, hothers⟩ := not_or.mp (List.mem_cons.not.mp htargets)
    refine ⟨place, fun hsame ↦ hother (congrArg some hsame), ?_, ?_, hsave⟩
    · rintro target rfl hsame
      exact hothers (List.mem_singleton.mpr (congrArg some hsame))
    · intro hmem
      obtain ⟨input, hinput, hregular⟩ := List.mem_filterMap.mp hmem
      exact hinputs (List.mem_map.mpr ⟨input, hinput, hregular⟩)

end Whole

end StitchRequest

/-- The command succeeds. Its output is what a new stitcher, which is never given anything back,
makes of the first frames of all inputs, followed by what it makes of the second ones, and so on,
until an input ends or the limit is reached. The same holds for the previews. -/
theorem stitch_aligned_sets
    (hfeeds : request.Feeds store config templates stitcher streams outputs)
    (hsizes : ∀ size ∈ request.frameSizes templates,
      ∃ planes, Frame.tightPlanes config.inputFormat size = .ok planes)
    (hcreate : createAll store request.outputs = (.ok (), created))
    (hapart : request.Apart created stitcher.compositor.outputSizes.head?) :
    request.Stitches outputs ((Request.stitch request).run store) := by
  have hopened := create_all_ok hcreate
  obtain ⟨plan, rfl, hsets, rfl, hout, hpreview, hwrites⟩ :=
    StitchRequest.exists_plan hfeeds hopened hapart ⟨List.replicate config.inputs none, false⟩
  have hround : Session.InRound plan (hfeeds.feed hsizes) 0 0
      (request.session config (request.frameSizes templates) plan.initial
        ⟨List.replicate config.inputs none, false⟩ created) := by
    refine ⟨⟨hwrites, .start _, Nat.zero_le _, rfl⟩, nofun, ?_,
      hfeeds.unread hapart hopened hsizes, rfl, rfl⟩
    rw [← hfeeds.count, ← hfeeds.streams_length]
    rfl
  obtain ⟨next, hrun, hwritten⟩ := hround.run_ok hsets
  have hstitched : request.run store = ⟨.ok (), next.log ++ request.summary next, next.store⟩ := by
    rw [hfeeds.run_eq (check_inputs_ok fun _ ↦ hfeeds.exists_file) hcreate]
    unfold StitchRequest.finish
    rw [hrun]
  unfold Request.run
  dsimp only
  rw [hstitched]
  refine ⟨rfl, hout ▸ hwritten.out, fun path hpath ↦ ?_⟩
  rw [hpath, Option.map_eq_some_iff] at hpreview
  obtain ⟨target, htarget, rfl⟩ := hpreview
  exact hwritten.preview target htarget

end CommandLine

/-! ### Two inputs, of which one ends before the other -/

/-- A template of two pixels, each of which shows a source of one pixel. -/
def Template.pair : Template where
  size := ⟨2, 1⟩
  inputs := [⟨1, 1⟩, ⟨1, 1⟩]
  region := .full
  blend := .weighted
  gain := .off
  edge := .fill
  table := ⟨#[0, 1, 2], #[⟨0, 0, 0, 1⟩, ⟨1, 0, 0, 1⟩]⟩

/-- A configuration of the template with previews of one pixel. -/
def StitchConfig.pair : StitchConfig where
  inputs := 2
  inputFormat := .gray8
  crop := none
  outputs := [⟨"t", none, none, none, none⟩]
  canvas := none
  preview := some ⟨1, 1⟩
  interpolation := .bilinear
  fill := none
  workerThreads := none
  pool := .standard

/-- The configuration as it is written in a file. -/
def StitchConfig.pairText : String :=
  "\x7b\"inputs\": 2, \"input_format\": \"gray8\", " ++
    "\"preview\": \x7b\"width\": 1, \"height\": 1\x7d, " ++
    "\"outputs\": [\x7b\"template\": \"t\"\x7d]\x7d"

/-- The stitcher of the configuration. -/
def Stitcher.pair : Stitcher where
  compositor := {
    format := .gray8
    crop := none
    options := ⟨.bilinear, none, none⟩
    outputs := [⟨.pair, .weighted, .full⟩]
    inputs := [⟨1, 1⟩, ⟨1, 1⟩]
    arrangement := ⟨[⟨2, 1⟩], [⟨0, ⟨0, 0, 2, 1⟩⟩], false⟩ }
  gains := ⟨2, .bilinear, [⟨.disabled, 0⟩], ⟨[[1, 1]]⟩, 0⟩
  pool := .start .standard
  preview := some ⟨1, 1⟩

/-- The configuration, its template, and inputs with three frames, with two and with none. -/
def FileStore.pair : FileStore where
  nodes := [(["c"], .file (.ofList StitchConfig.pairText.toUTF8.toList)),
    (["t"], .file (.ofList Template.pair.encode)), (["a"], .file (.ofList [7, 5, 3])),
    (["b"], .file (.ofList [1, 2])), (["e"], .file .empty)]
  printed := .empty

namespace CommandLine

namespace StitchRequest

/-- A request to stitch the inputs with three and with two frames. -/
def pair (out : String) (previewOut png : Option String) : StitchRequest :=
  ⟨"c", ["a", "b"], none, out, previewOut, none, png⟩

/-- The request with previews and a picture. -/
def pairShown : StitchRequest := pair "o" (some "p") (some "x.png")

/-- A request to stitch inputs without frames, of which a width of zero is said. -/
def blank : StitchRequest := ⟨"c", ["e", "e"], some 0, "o", none, none, none⟩

/-- The frames in the inputs. -/
def pairStreams : List (List Frame) :=
  [[.grayRow 1 #[7], .grayRow 1 #[5], .grayRow 1 #[3]], [.grayRow 1 #[1], .grayRow 1 #[2]]]

/-- What is made of the two sets. -/
def pairOutputs : List StitchOutput :=
  [⟨[.grayRow 2 #[7, 1]], some (.grayRow 1 #[4])⟩, ⟨[.grayRow 2 #[5, 2]], some (.grayRow 1 #[4])⟩]

/-- Requests that name the configuration load it. -/
theorem pair_loads {request : StitchRequest} (hconfig : request.config = "c")
    (hinputs : request.inputs.length = 2) : request.Loads .pair .pair [.pair] .pair where
  loaded := hconfig ▸ by decide +kernel
  count := hinputs
  given := by decide +kernel
  built := by decide +kernel

/-- The inputs hold their frames, wherever the outputs go. -/
theorem pair_feeds (out : String) (previewOut png : Option String) :
    (pair out previewOut png).Feeds .pair .pair [.pair] .pair pairStreams pairOutputs where
  toLoads := pair_loads rfl rfl
  held := by
    have hfirst : HoldsStream .pair .gray8 "a" ⟨1, 1⟩
        [.grayRow 1 #[7], .grayRow 1 #[5], .grayRow 1 #[3]] :=
      ⟨["a"], .ofList [7, 5, 3], ⟨by decide +kernel, by decide +kernel⟩,
        show Frame.Stream _ _ _ ([7] ++ ([5] ++ ([3] ++ []))) from
          .cons (by decide +kernel) (.cons (by decide +kernel) (.cons (by decide +kernel) .nil))⟩
    have hsecond : HoldsStream .pair .gray8 "b" ⟨1, 1⟩ [.grayRow 1 #[1], .grayRow 1 #[2]] :=
      ⟨["b"], .ofList [1, 2], ⟨by decide +kernel, by decide +kernel⟩,
        show Frame.Stream _ _ _ ([1] ++ ([2] ++ [])) from
          .cons (by decide +kernel) (.cons (by decide +kernel) .nil)⟩
    exact .cons hfirst (.cons hsecond .nil)
  made := show (Stitcher.pair.cycles
    ((alignedSets pairStreams (setCount pairStreams none)).map .process)).map _ = _ by
      decide +kernel

/-- Inputs without frames are fed too. -/
theorem blank_feeds : blank.Feeds .pair .pair [.pair] .pair [[], []] [] where
  toLoads := pair_loads rfl rfl
  held := by
    have hempty : HoldsStream .pair .gray8 "e" ⟨0, 1⟩ [] :=
      ⟨["e"], .empty, ⟨by decide +kernel, by decide +kernel⟩, .nil⟩
    exact .cons hempty (.cons hempty .nil)
  made := rfl

end StitchRequest

open StitchRequest

/-- The two sets are stitched, and the third frame of the longer input is left out. -/
theorem pair_stitched :
    pairShown.Feeds .pair .pair [.pair] .pair pairStreams pairOutputs ∧
      pairShown.Stitches pairOutputs ((Request.stitch pairShown).run .pair) := by
  have hsizes : ∀ size ∈ [Canvas.mk 1 1, Canvas.mk 1 1],
      ∃ planes, Frame.tightPlanes .gray8 size = .ok planes := by
    intro size hsize
    obtain rfl : size = ⟨1, 1⟩ := by simpa using hsize
    exact ⟨[⟨⟨1, 1⟩, 1, 1⟩], by decide +kernel⟩
  have hcreate : (createAll .pair ["o", "p"]).1 = .ok () := by decide +kernel
  have hpicture : CanSave (createAll .pair ["o", "p"]).2 "x.png" ["x.png"] ⟨2, 1⟩ := by
    refine ⟨⟨.png, by cbv, by decide +kernel⟩, by decide +kernel, ?_⟩
    have hnone : (createAll .pair ["o", "p"]).2.node? ["x.png"] = none := by decide +kernel
    rw [hnone]
    nofun
  have hapart : pairShown.Apart (createAll .pair ["o", "p"]).2 (some ⟨2, 1⟩) := by
    refine ⟨by decide +kernel, by decide +kernel, by decide +kernel, ?_⟩
    rintro _ ⟨⟩
    refine ⟨["x.png"], by decide +kernel, ?_⟩
    rintro _ ⟨⟩
    exact hpicture
  have hfeeds := pair_feeds "o" (some "p") (some "x.png")
  exact ⟨hfeeds, stitch_aligned_sets hfeeds hsizes (Prod.ext hcreate rfl) hapart⟩

/-- Frames must have an acceptable size, also where there is none of them, the outputs must be
different files that can be made, and so must the picture. -/
theorem pair_not_stitched :
    (blank.Feeds .pair .pair [.pair] .pair [[], []] [] ∧
      ¬blank.Stitches [] ((Request.stitch blank).run .pair)) ∧
    ∀ request ∈ [pair "o" (some "o") none, pair "/dev/null" none none, pair "t/o" none none,
        pair "o" none (some "..")],
      request.Feeds .pair .pair [.pair] .pair pairStreams pairOutputs ∧
        ¬request.Stitches pairOutputs ((Request.stitch request).run .pair) := by
  refine ⟨⟨blank_feeds, fun h ↦ absurd h.success (by decide +kernel)⟩, ?_⟩
  simp only [List.forall_mem_cons, List.not_mem_nil, IsEmpty.forall_iff, implies_true, and_true]
  refine ⟨⟨pair_feeds _ _ _, fun h ↦ ?_⟩, ⟨pair_feeds _ _ _, fun h ↦ ?_⟩,
    ⟨pair_feeds _ _ _, fun h ↦ absurd h.success (by decide +kernel)⟩,
    ⟨pair_feeds _ _ _, fun h ↦ absurd h.success (by decide +kernel)⟩⟩
  -- The previews go over the outputs, or neither is kept.
  all_goals
    obtain ⟨bytes, hpacked, hcontent⟩ := h.out
    rw [← hpacked] at hcontent
    exact absurd hcontent (by decide +kernel)

end CommandLine

end Panorama
