import Panorama.Proofs.Compositor.Arrangement
import Panorama.Proofs.Compositor.Painters

/-!
# What rendered frames show

A rendered frame shows at every pixel the byte of the last painter that covers the pixel, and "no
signal" where there is none, whatever the frame showed before. `shows_render` says so, and
`exists_render` says that rendering succeeds if every painter has a byte for every pixel it covers.
-/

namespace Panorama

namespace Compositor

variable {compositor : Compositor} {views : List FrameView} {gains : GainTable}
  {painters : List Painter} {size : Canvas} {target painted : Frame}
  {before? : Nat → Nat → Nat → Nat → Option UInt8}

/-! ### Several painters -/

/-- Run painters on a frame in order. -/
def paintAll? (compositor : Compositor) (views : List FrameView) (painters : List Painter)
    (target : Frame) : Option Frame :=
  painters.foldlM (fun target painter ↦
    compositor.paintOutput? painter.1 views painter.2.1 painter.2.2 target) target

/-- What several painters in a row make of a pixel. -/
def overlay? (compositor : Compositor) (views : List FrameView) (painters : List Painter)
    (index channel x y : Nat) (before? : Option UInt8) : Option UInt8 :=
  painters.foldl (fun before? painter ↦
    compositor.paintOver? views painter index channel x y before?) before?

/-- The last painter that covers a pixel. -/
def lastPainter? (painters : List Painter) (index x y : Nat) : Option Painter :=
  painters.reverse.find? fun painter ↦ Painter.Covers painter index x y

/-- Several painters in a row make of a pixel what the last one makes that covers it. -/
theorem overlay_eq (compositor : Compositor) (views : List FrameView) (painters : List Painter)
    (index channel x y : Nat) (before? : Option UInt8) :
    compositor.overlay? views painters index channel x y before?
      = match lastPainter? painters index x y with
        | some painter => compositor.color? views painter index channel x y
        | none => before? := by
  induction painters using List.reverseRecOn with
  | nil => rfl
  | append_singleton painters painter ih =>
      rw [overlay?, lastPainter?, List.foldl_append, List.reverse_append]
      simp only [List.foldl_cons, List.foldl_nil, List.reverse_cons, List.reverse_nil,
        List.nil_append, List.cons_append, List.find?_cons, paintOver?]
      by_cases hcovers : painter.Covers index x y
      · simp only [if_pos hcovers, decide_eq_true hcovers]
      · simp only [if_neg hcovers, decide_eq_false hcovers]
        exact ih

/-- A frame that painters were run on shows what they make of it, and every one of them had a byte
for every pixel that it covers. -/
theorem shows_paint_all (h : target.Shows compositor.format size before?)
    (hfits : ∀ painter ∈ painters, painter.2.2.fits size)
    (hpaint : compositor.paintAll? views painters target = some painted) :
    painted.Shows compositor.format size (fun index channel x y ↦
        compositor.overlay? views painters index channel x y (before? index channel x y)) ∧
      ∀ painter ∈ painters, compositor.CanPaint views size painter := by
  induction painters generalizing target before? with
  | nil =>
      cases hpaint
      exact ⟨h, by simp⟩
  | cons painter painters ih =>
      rw [paintAll?, List.foldlM_cons, Option.bind_eq_bind, Option.bind_eq_some_iff] at hpaint
      obtain ⟨next, hnext, hrest⟩ := hpaint
      have hshows := shows_paint_output h (hfits painter List.mem_cons_self) hnext
      obtain ⟨hpainted, hcan⟩ := ih hshows
        (fun other hother ↦ hfits other (List.mem_cons_of_mem _ hother)) hrest
      refine ⟨hpainted, fun other hother ↦ ?_⟩
      rcases List.mem_cons.mp hother with rfl | hother
      · exact can_paint_of_shows hshows
      · exact hcan other hother

/-- Painters that have a byte for every pixel that they cover can be run in a row. -/
theorem exists_paint_all (h : target.Shows compositor.format size before?)
    (hfits : ∀ painter ∈ painters, painter.2.2.fits size)
    (hcan : ∀ painter ∈ painters, compositor.CanPaint views size painter) :
    ∃ painted, compositor.paintAll? views painters target = some painted := by
  induction painters generalizing target before? with
  | nil => exact ⟨target, rfl⟩
  | cons painter painters ih =>
      obtain ⟨next, hnext⟩ := exists_paint_output h (hfits painter List.mem_cons_self)
        (hcan painter List.mem_cons_self)
      obtain ⟨painted, hpainted⟩ := ih
        (shows_paint_output h (hfits painter List.mem_cons_self) hnext)
        (fun other hother ↦ hfits other (List.mem_cons_of_mem _ hother))
        fun other hother ↦ hcan other (List.mem_cons_of_mem _ hother)
      refine ⟨painted, ?_⟩
      rw [paintAll?, List.foldlM_cons, hnext]
      exact hpainted

/-! ### The painters of a frame -/

/-- The painter of the output at a position, if the output goes into this frame. -/
def painter? (compositor : Compositor) (gains : GainTable) (frame position : Nat) :
    Option Painter := do
  let output ← compositor.outputs[position]?
  let row ← gains.rows[position]?
  let placement ← compositor.arrangement.placements[position]?
  if placement.frame = frame then some (output, row, placement.rect) else none

/-- The results of a list are those of its positions. -/
theorem filter_map_eq {α β : Type} (action : α → Option β) (items : List α) (count : Nat)
    (hcount : items.length ≤ count) : items.filterMap action
      = (List.range count).filterMap fun index ↦ items[index]?.bind action := by
  induction items generalizing count with
  | nil => simp
  | cons item items ih =>
      cases count with
      | zero => cases hcount
      | succ count =>
          rw [List.range_succ_eq_map, List.filterMap_cons, List.filterMap_cons,
            List.filterMap_map, ih count (Nat.le_of_succ_le_succ hcount)]
          rfl

/-- The painters of a frame are those of the outputs that go into it, in order. -/
theorem painters_eq (compositor : Compositor) (gains : GainTable) (frame : Nat) :
    compositor.painters gains frame
      = (List.range compositor.outputs.length).filterMap (compositor.painter? gains frame) := by
  rw [painters, filter_map_eq _ _ compositor.outputs.length (by simp)]
  refine List.filterMap_congr fun position _ ↦ ?_
  simp only [painter?, List.zip, List.getElem?_zipWith]
  cases compositor.outputs[position]? with
  | none => rfl
  | some output =>
      cases gains.rows[position]? with
      | none => rfl
      | some row =>
          cases compositor.arrangement.placements[position]? <;> rfl

/-- Every painter of a frame is that of an output. -/
theorem exists_position {frame : Nat} {painter : Painter}
    (h : painter ∈ compositor.painters gains frame) :
    ∃ position, compositor.painter? gains frame position = some painter := by
  rw [painters_eq, List.mem_filterMap] at h
  obtain ⟨position, _, hpainter⟩ := h
  exact ⟨position, hpainter⟩

/-- The painter of an output has the output's gains and its place. -/
theorem painter_eq_some_iff {frame position : Nat} {painter : Painter} :
    compositor.painter? gains frame position = some painter ↔
      ∃ output row placement, compositor.outputs[position]? = some output ∧
        gains.rows[position]? = some row ∧
          compositor.arrangement.placements[position]? = some placement ∧
            placement.frame = frame ∧ painter = (output, row, placement.rect) := by
  unfold painter?
  simp only [Option.bind_eq_bind, Option.bind_eq_some_iff, Option.ite_none_right_eq_some,
    Option.some.injEq]
  constructor
  · intro hparts
    obtain ⟨output, houtput, row, hrow, placement, hplacement, hframe, rfl⟩ := hparts
    exact ⟨output, row, placement, houtput, hrow, hplacement, hframe, rfl⟩
  · intro hparts
    obtain ⟨output, row, placement, houtput, hrow, hplacement, hframe, rfl⟩ := hparts
    exact ⟨output, houtput, row, hrow, placement, hplacement, hframe, rfl⟩

namespace Valid

/-- The output of a painter, its gains, and its place. -/
theorem painter_suits (h : compositor.Valid) {frame position : Nat} {painter : Painter}
    (hpainter : compositor.painter? gains frame position = some painter) :
    compositor.outputs[position]? = some painter.1 ∧ gains.rows[position]? = some painter.2.1 ∧
      ∃ placement, compositor.arrangement.placements[position]? = some placement ∧
        placement.frame = frame ∧ placement.rect = painter.2.2 ∧ Arrangement.Suits
          compositor.format compositor.arrangement.frames painter.1 placement := by
  obtain ⟨output, row, placement, houtput, hrow, hplacement, hframe, rfl⟩ :=
    painter_eq_some_iff.mp hpainter
  obtain ⟨_, hsame, hsuits⟩ := Failing.exists_of_forall₂ h.arranged.places houtput
  rw [hplacement, Option.some.injEq] at hsame
  exact ⟨houtput, hrow, placement, hplacement, hframe, rfl, hsame ▸ hsuits⟩

/-- A painter of a frame fills a rectangle inside it. -/
theorem painter_fits (h : compositor.Valid) {frame : Nat}
    (hframe : compositor.outputSizes[frame]? = some size) {painter : Painter}
    (hpainter : painter ∈ compositor.painters gains frame) : painter.2.2.fits size := by
  obtain ⟨position, hpainter⟩ := exists_position hpainter
  obtain ⟨_, _, placement, _, rfl, hrect, hsuits⟩ := h.painter_suits hpainter
  obtain ⟨other, hother, hfits⟩ := hsuits.fits
  rw [show compositor.arrangement.frames[placement.frame]? = some size from hframe,
    Option.some.injEq] at hother
  rwa [← hrect, hother]

/-- A painter covers a pixel of a plane if its rectangle contains the pixel, or the upper left one
of the pixels that a chroma pixel stands for. -/
theorem covers_iff (h : compositor.Valid) {frame position index x y : Nat} {painter : Painter}
    (hpainter : compositor.painter? gains frame position = some painter)
    (hindex : index < compositor.format.planeCount) :
    painter.Covers index x y ↔
      painter.2.2.contains ((compositor.format.subsampling index).toNat * x)
        ((compositor.format.subsampling index).toNat * y) := by
  obtain ⟨houtput, _, placement, _, _, hrect, hsuits⟩ := h.painter_suits hpainter
  unfold Painter.Covers Area.Contains PixelRect.area
  simp only [PixelRect.contains, Bool.and_eq_true, decide_eq_true_eq, ← hrect]
  by_cases hzero : index = 0
  · rw [if_pos hzero, PixelFormat.subsampling_to_nat, if_neg (by omega), Nat.one_mul, Nat.one_mul,
      and_assoc, and_assoc, and_assoc]
  · obtain ⟨hchroma, _, hscale⟩ := PixelFormat.chroma_of_plane hindex hzero
    have hsize := (h.outputs painter.1 (List.mem_of_getElem? houtput)).2
    have heven := (PixelFormat.check_size_eq_ok_iff.mp hsize).2 hchroma
    rw [← hsuits.size] at heven
    have hcorner := hsuits.even hchroma
    have hwidth : placement.rect.width.toNat % 2 = 0 := heven.1
    have hheight : placement.rect.height.toNat % 2 = 0 := heven.2
    rw [if_neg hzero, hscale]
    dsimp only
    omega

/-- Every pixel of a frame that is not cleared has a painter. -/
theorem exists_painter (h : compositor.Valid)
    (hgains : compositor.outputs.length ≤ gains.rows.length)
    (hprefill : compositor.arrangement.prefill = false) {frame index channel x y : Nat}
    (hframe : compositor.outputSizes[frame]? = some size)
    (hpixel : compositor.format.HasPixel size index channel x y) :
    ∃ painter ∈ compositor.painters gains frame, Painter.Covers painter index x y := by
  obtain ⟨hcolumn, hrow⟩ := hpixel.scaled
  obtain ⟨placement, hmem, hplace, hcontains⟩ :=
    h.arranged.covered hprefill frame size _ _ hframe hcolumn hrow
  obtain ⟨position, hplacement⟩ := List.getElem?_of_mem hmem
  obtain ⟨output, houtput, _⟩ := Failing.exists_of_forall₂ h.arranged.places.flip hplacement
  have hposition := (List.getElem?_eq_some_iff.mp houtput).1
  have hpainter : compositor.painter? gains frame position
      = some (output, gains.rows[position], placement.rect) :=
    painter_eq_some_iff.mpr ⟨output, _, placement, houtput,
      List.getElem?_eq_getElem (hposition.trans_le hgains), hplacement, hplace, rfl⟩
  refine ⟨_, ?_, (h.covers_iff hpainter hpixel.plane).mpr hcontains⟩
  rw [painters_eq, List.mem_filterMap]
  exact ⟨position, List.mem_range.mpr hposition, hpainter⟩

end Valid

/-! ### Rendered frames -/

/-- The byte that a rendered frame shows: that of the last painter that covers the pixel. -/
def shown? (compositor : Compositor) (views : List FrameView) (gains : GainTable) (frame : Nat)
    (index channel x y : Nat) : Option UInt8 :=
  match lastPainter? (compositor.painters gains frame) index x y with
  | some painter => compositor.color? views painter index channel x y
  | none => some (compositor.format.noSignal index)

/-- A frame that can be rendered into as one of this size. -/
def IsTarget (compositor : Compositor) (size : Canvas) (target : Frame) : Prop :=
  target.WellFormed ∧ target.format = compositor.format ∧ target.size = size

/-- Every painter of a frame has a byte for every pixel that it covers. -/
def CanRender (compositor : Compositor) (views : List FrameView) (gains : GainTable) : Prop :=
  ∀ frame size, compositor.outputSizes[frame]? = some size →
    ∀ painter ∈ compositor.painters gains frame, compositor.CanPaint views size painter

/-- Before painting, a target is cleared or shows what it did. -/
theorem shows_start (h : compositor.IsTarget size target) :
    (if compositor.arrangement.prefill then target.fillNoSignal else target).Shows
      compositor.format size fun index channel x y ↦
        if compositor.arrangement.prefill then some (compositor.format.noSignal index)
        else target.pixel? index channel x y := by
  obtain ⟨hformed, hformat, hsize⟩ := h
  split
  · refine ⟨hformed.fill_no_signal, hformat, hsize, fun index channel x y hpixel ↦ ?_⟩
    rw [← hformat, ← hsize] at hpixel
    rw [hformed.fill_no_signal_pixel hpixel, hformat]
  · exact ⟨hformed, hformat, hsize, fun _ _ _ _ _ ↦ rfl⟩

/-- A rendered frame shows the bytes of the last painters, and every painter of it had a byte for
every pixel that it covers. -/
theorem shows_render_frame (hvalid : compositor.Valid)
    (hgains : compositor.outputs.length ≤ gains.rows.length) {frame : Nat}
    (hframe : compositor.outputSizes[frame]? = some size)
    (htarget : compositor.IsTarget size target)
    (hrender : compositor.renderFrame? views gains frame size target = some painted) :
    painted.Shows compositor.format size (compositor.shown? views gains frame) ∧
      ∀ painter ∈ compositor.painters gains frame, compositor.CanPaint views size painter := by
  unfold renderFrame? at hrender
  split at hrender
  · obtain ⟨hshows, hcan⟩ := shows_paint_all (shows_start htarget)
      (fun painter hpainter ↦ hvalid.painter_fits hframe hpainter) hrender
    refine ⟨⟨hshows.formed, hshows.same_format, hshows.same_size, ?_⟩, hcan⟩
    intro index channel x y hpixel
    rw [hshows.pixel index channel x y hpixel, overlay_eq, shown?]
    cases hlast : lastPainter? (compositor.painters gains frame) index x y with
    | some painter => rfl
    | none =>
        -- Without a painter the pixel was cleared: frames that are not cleared are covered.
        cases hprefill : compositor.arrangement.prefill with
        | true => rfl
        | false =>
            obtain ⟨painter, hpainter, hcovers⟩ :=
              hvalid.exists_painter hgains hprefill hframe hpixel
            rw [lastPainter?, List.find?_eq_none] at hlast
            exact absurd (decide_eq_true hcovers) (hlast painter (List.mem_reverse.mpr hpainter))
  · cases hrender

/-- A frame whose painters have a byte for every pixel that they cover can be rendered. -/
theorem exists_render_frame (hvalid : compositor.Valid) {frame : Nat}
    (hframe : compositor.outputSizes[frame]? = some size)
    (htarget : compositor.IsTarget size target)
    (hcan : ∀ painter ∈ compositor.painters gains frame, compositor.CanPaint views size painter) :
    ∃ painted, compositor.renderFrame? views gains frame size target = some painted := by
  obtain ⟨painted, hpainted⟩ := exists_paint_all (shows_start htarget)
    (fun painter hpainter ↦ hvalid.painter_fits hframe hpainter) hcan
  refine ⟨painted, ?_⟩
  unfold renderFrame? accepts
  rw [htarget.2.1, htarget.2.2, if_pos (by simp)]
  exact hpainted

/-- Frames that can be rendered into, one for each of the produced frames. -/
def AreTargets (compositor : Compositor) (targets : List Frame) : Prop :=
  List.Forall₂ compositor.IsTarget compositor.outputSizes targets

/-- One frame for each of the produced frames, which shows what is rendered. -/
structure ShowsAll (compositor : Compositor) (views : List FrameView) (gains : GainTable)
    (composed : List Frame) : Prop where
  count : composed.length = compositor.outputSizes.length
  shows : ∀ (frame : Nat) (size : Canvas) (painted : Frame),
    compositor.outputSizes[frame]? = some size → composed[frame]? = some painted →
      painted.Shows compositor.format size (compositor.shown? views gains frame)

/-- The targets of a compositor are as many and as large as the produced frames. -/
theorem AreTargets.get {targets : List Frame} (h : compositor.AreTargets targets) {frame : Nat}
    (hframe : compositor.outputSizes[frame]? = some size) :
    ∃ target, targets[frame]? = some target ∧ compositor.IsTarget size target :=
  Failing.exists_of_forall₂ h hframe

/-- Rendered frames show what is rendered, and every painter had a byte for every pixel that it
covers. -/
theorem shows_render {targets composed : List Frame} (hvalid : compositor.Valid)
    (htargets : compositor.AreTargets targets)
    (hrender : compositor.render views gains targets = .ok composed) :
    compositor.ShowsAll views gains composed ∧ compositor.CanRender views gains := by
  unfold render at hrender
  split at hrender
  · rename_i hcounts
    rw [Failing.of_option_eq_ok_iff, Failing.map_eq_some_iff] at hrender
    have hframe (frame : Nat) (size : Canvas)
        (hframe : compositor.outputSizes[frame]? = some size) :
        ∃ painted, composed[frame]? = some painted ∧
          painted.Shows compositor.format size (compositor.shown? views gains frame) ∧
          ∀ painter ∈ compositor.painters gains frame, compositor.CanPaint views size painter := by
      obtain ⟨target, htarget, hsuits⟩ := htargets.get hframe
      have hpair : (compositor.outputSizes.zip targets)[frame]? = some (size, target) :=
        List.getElem?_zip_eq_some.mpr ⟨hframe, htarget⟩
      obtain ⟨painted, hpainted, hrendered⟩ :=
        Failing.exists_of_forall₂ hrender (Failing.zip_idx_get hpair)
      exact ⟨painted, hpainted, shows_render_frame hvalid hcounts.2 hframe hsuits hrendered⟩
    refine ⟨⟨?_, fun frame size painted hsize hpainted ↦ ?_⟩, fun frame size hsize ↦ ?_⟩
    · rw [← hrender.length_eq, List.length_zipIdx, List.length_zip, hcounts.1, Nat.min_self]
    · obtain ⟨_, hsame, hshows, _⟩ := hframe frame size hsize
      rw [hpainted, Option.some.injEq] at hsame
      exact hsame ▸ hshows
    · obtain ⟨_, _, _, hcan⟩ := hframe frame size hsize
      exact hcan
  · cases hrender

/-- Frames can be rendered if every painter has a byte for every pixel that it covers. -/
theorem exists_render {targets : List Frame} (hvalid : compositor.Valid)
    (hgains : compositor.outputs.length ≤ gains.rows.length)
    (htargets : compositor.AreTargets targets) (hcan : compositor.CanRender views gains) :
    ∃ composed, compositor.render views gains targets = .ok composed := by
  have hframe (item : (Canvas × Frame) × Nat)
      (hitem : item ∈ (compositor.outputSizes.zip targets).zipIdx) :
      ∃ painted, compositor.renderFrame? views gains item.2 item.1.1 item.1.2 = some painted := by
    obtain ⟨⟨size, target⟩, frame⟩ := item
    have hpair := List.mem_zipIdx_iff_getElem?.mp hitem
    rw [List.getElem?_zip_eq_some] at hpair
    obtain ⟨other, hother, htarget⟩ := htargets.get hpair.1
    rw [hpair.2, Option.some.injEq] at hother
    rw [← hother] at htarget
    exact exists_render_frame hvalid hpair.1 htarget (hcan frame size hpair.1)
  obtain ⟨composed, hcomposed⟩ := Failing.exists_map_eq_some hframe
  refine ⟨composed, ?_⟩
  unfold render
  rw [if_pos ⟨htargets.length_eq.symm, hgains⟩, Failing.of_option_eq_ok_iff]
  exact hcomposed

/-- What is rendered looks the same in whatever frames it is rendered into. -/
theorem render_into_others {targets others composed : List Frame} (hvalid : compositor.Valid)
    (hgains : compositor.outputs.length ≤ gains.rows.length)
    (htargets : compositor.AreTargets targets) (hothers : compositor.AreTargets others)
    (hrender : compositor.render views gains targets = .ok composed) :
    ∃ fresh, compositor.render views gains others = .ok fresh ∧
      List.Forall₂ (fun frame other ↦
        frame.WellFormed ∧ other.WellFormed ∧ frame.LooksLike other) composed fresh := by
  obtain ⟨hshows, hcan⟩ := shows_render hvalid htargets hrender
  obtain ⟨fresh, hfresh⟩ := exists_render hvalid hgains hothers hcan
  obtain ⟨hfreshShows, _⟩ := shows_render hvalid hothers hfresh
  refine ⟨fresh, hfresh, List.forall₂_iff_get.mpr
    ⟨hshows.count.trans hfreshShows.count.symm, fun frame hframe hother ↦ ?_⟩⟩
  have hsize := List.getElem?_eq_getElem (hframe.trans_eq hshows.count)
  have hleft := hshows.shows frame _ _ hsize (List.getElem?_eq_getElem hframe)
  have hright := hfreshShows.shows frame _ _ hsize (List.getElem?_eq_getElem hother)
  exact ⟨hleft.formed, hright.formed, hleft.looks_like hright⟩

end Compositor

end Panorama
