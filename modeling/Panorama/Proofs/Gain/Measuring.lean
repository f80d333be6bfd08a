import Panorama.Proofs.Frame.Source
import Panorama.Proofs.Gain.Shape
import Panorama.Proofs.Number.Order
import Panorama.Proofs.Template.Accepted

/-!
# Updates complete

A compensator that was made with checked modes completes every update with one frame per source:
each overlap can be measured, the solution has a gain for every source, the bounds of every policy
are in order, and a row is only replaced by one of its length. `GainCompensator.Tuned` is the
invariant.
-/

namespace Panorama

open Number

/-! ### Measuring -/

/-- The view has a brightness at every point. -/
def FrameView.Measurable (view : FrameView) : Prop :=
  ∀ interpolation edge x y, ∃ brightness, view.brightness? interpolation edge x y = some brightness

/-- A view whose first plane has all channels has a brightness at every point. -/
theorem FrameView.measurable_of_full {view : FrameView} {plane : PlaneView}
    (hplane : view.planes[0]? = some plane)
    (hfull : ∀ channel < view.format.channels, plane.IsFull channel) : view.Measurable := by
  intro interpolation edge x y
  unfold brightness?
  rw [hplane, Option.bind_eq_bind, Option.bind_some]
  split
  · rename_i hformat
    rw [hformat] at hfull
    refine Failing.exists_bind_eq_some (Failing.exists_map_eq_some fun channel hchannel ↦ ?_)
      fun _ ↦ ⟨_, rfl⟩
    exact (hfull channel (List.mem_range.mp hchannel)).exists_sample interpolation edge 0 x y
  · exact (hfull 0 view.format.channels_pos).exists_sample interpolation edge 0 x y

/-- What is taken from a list at intervals is in the list. -/
theorem mem_of_mem_every_nth {α : Type} {step : Nat} {items : List α} {item : α}
    (h : item ∈ everyNth step items) : item ∈ items := by
  unfold everyNth at h
  obtain ⟨⟨other, index⟩, hpair, rfl⟩ := List.mem_map.mp h
  exact List.mem_of_getElem? (List.mem_zipIdx_iff_getElem?.mp (List.mem_of_mem_filter hpair))

/-- An overlap is a pixel of the template. -/
theorem Template.overlap_pixel_lt {template : Template} {index : Nat}
    (h : index ∈ template.overlapPixels) : index < template.table.size := by
  unfold overlapPixels at h
  obtain ⟨⟨count, position⟩, hpair, rfl⟩ := List.mem_map.mp h
  have hcount := List.mem_zipIdx_iff_getElem?.mp (List.mem_of_mem_filter hpair)
  obtain ⟨hposition, _⟩ := List.getElem?_eq_some_iff.mp hcount
  simpa [SampleTable.counts] using hposition

/-! ### Solving -/

/-- A solution has as many numbers as there are unknowns. -/
theorem LinearEquation.length_of_solve {α : Type} [Arithmetic α] {unknowns : Nat}
    {equations : List (LinearEquation α)} {solution : List α}
    (h : solve unknowns equations = some solution) : solution.length = unknowns := by
  induction unknowns generalizing equations solution with
  | zero =>
      cases h
      rfl
  | succ unknowns ih =>
      unfold solve at h
      simp only [Option.bind_eq_bind, Option.bind_eq_some_iff] at h
      obtain ⟨⟨pivot, rest⟩, _, diagonal, _, h⟩ := h
      split at h
      · cases h
      · simp only [Option.bind_eq_some_iff] at h
        obtain ⟨later, hlater, hsolution⟩ := h
        cases hsolution
        exact congrArg Nat.succ (ih hlater)

/-- The gains of measured overlaps are as many as the sources. -/
theorem Overlap.length_of_gains {sources : Nat} {overlap : Overlap Float sources}
    {gains : List Float32} (h : overlap.gains? = some gains) : gains.length = sources := by
  unfold gains? at h
  obtain ⟨solution, hsolution, hgains⟩ := Option.bind_eq_some_iff.mp h
  split at hgains
  · cases hgains
    rw [List.length_map]
    exact LinearEquation.length_of_solve hsolution
  · cases hgains

/-! ### Modes -/

/-- Bounds that enclose one are in order. -/
theorem AdaptivePolicy.ordered_of_bounds {policy : AdaptivePolicy} (h : policy.hasBounds) :
    policy.minGain ≤ policy.maxGain := by
  unfold hasBounds at h
  simp only [Bool.and_eq_true, Bool.not_eq_true', decide_eq_false_iff_not] at h
  obtain ⟨⟨⟨⟨hmin, hmax⟩, _⟩, hlow⟩, hhigh⟩ := h
  have hone : (1 : Float32).isFinite := by decide +kernel
  rw [single_lt_iff hone hmin, not_lt] at hlow
  rw [single_lt_iff hmax hone, not_lt] at hhigh
  rw [single_le_iff hmin hmax]
  exact hlow.trans hhigh

/-- A policy passes its check if it has intervals, takes steps, goes a share of the way, and has
bounds. -/
theorem AdaptivePolicy.validate_eq_ok_iff {policy : AdaptivePolicy} :
    policy.validate = .ok () ↔ 0 < policy.intervalFrames ∧ 0 < policy.sampleStep ∧
      (0 < policy.smoothing ∧ policy.smoothing ≤ 1) ∧ policy.hasBounds := by
  have hshare : (0 < policy.smoothing && policy.smoothing ≤ 1) = true ↔
      0 < policy.smoothing ∧ policy.smoothing ≤ 1 := by
    simp
  unfold validate
  rw [Failing.guard_eq_ok_iff, Failing.guard_eq_ok_iff, ← hshare]
  refine and_congr Nat.pos_iff_ne_zero.symm (and_congr Nat.pos_iff_ne_zero.symm ?_)
  dsimp only
  split
  · rename_i hmoves
    split
    · rename_i hbounds
      exact iff_of_true rfl ⟨hmoves, hbounds⟩
    · rename_i hbounds
      exact iff_of_false nofun fun h ↦ hbounds h.2
  · rename_i hmoves
    exact iff_of_false nofun fun h ↦ hmoves h.1

/-- A policy that passes its check has intervals, takes steps, and has its bounds in order. -/
theorem AdaptivePolicy.sound_of_validate {policy : AdaptivePolicy} (h : policy.validate = .ok ()) :
    0 < policy.intervalFrames ∧ 0 < policy.sampleStep ∧ policy.minGain ≤ policy.maxGain := by
  obtain ⟨hinterval, hstep, _, hbounds⟩ := validate_eq_ok_iff.mp h
  exact ⟨hinterval, hstep, ordered_of_bounds hbounds⟩

/-- Gains pass their check if they are finite and positive. -/
theorem check_multipliers_eq_ok_iff {gains : List Float32} :
    checkMultipliers gains = .ok () ↔ ∀ gain ∈ gains, gain.isFinite ∧ 0 < gain := by
  have hnone : gains.find? (fun gain ↦ !isMultiplier gain) = none ↔
      ∀ gain ∈ gains, gain.isFinite ∧ 0 < gain := by
    simp [isMultiplier]
  rw [← hnone]
  unfold checkMultipliers
  cases gains.find? fun gain ↦ !isMultiplier gain with
  | none => exact iff_of_true rfl rfl
  | some gain => exact iff_of_false nofun nofun

/-- Fixed gains pass their check if there is a finite and positive one for every source. -/
theorem GainMode.fixed_eq_ok_iff {gains : List Float32} {inputs : Nat} :
    (GainMode.fixed gains).validate inputs = .ok () ↔
      gains.length = inputs ∧ ∀ gain ∈ gains, gain.isFinite ∧ 0 < gain := by
  unfold validate
  rw [Failing.guard_eq_ok_iff, not_not, check_multipliers_eq_ok_iff]

namespace GainSchedule

variable {schedule : GainSchedule} {inputs frame : Nat}

/-- Rows pass their check if each has a finite and positive gain for every source. -/
theorem check_rows_eq_ok_iff {rows : List (List Float32)} : checkRows inputs frame rows = .ok () ↔
    ∀ row ∈ rows, row.length = inputs ∧ ∀ gain ∈ row, gain.isFinite ∧ 0 < gain := by
  induction rows generalizing frame with
  | nil => simp [checkRows]
  | cons row rows ih =>
      unfold checkRows
      rw [Failing.guard_eq_ok_iff, not_not, Failing.bind_eq_ok_iff, Unique.exists_iff, ih,
        List.forall_mem_cons, and_assoc, ← check_multipliers_eq_ok_iff]

/-- A schedule passes its check if it has rows, each with a gain for every source, and all gains are
finite and positive. -/
theorem validate_eq_ok_iff : schedule.validate inputs = .ok () ↔ schedule.rows ≠ [] ∧
    (∀ row ∈ schedule.rows, row.length = inputs) ∧
      ∀ row ∈ schedule.rows, ∀ gain ∈ row, gain.isFinite ∧ 0 < gain := by
  unfold validate
  rw [Failing.guard_eq_ok_iff, List.isEmpty_iff, check_rows_eq_ok_iff]
  exact and_congr_right fun _ ↦ forall₂_and

/-- A schedule that passes its check has a row for every frame, with a gain for every source. -/
theorem exists_row (h : schedule.validate inputs = .ok ()) (frame : Nat) :
    ∃ row, schedule.row? frame = some row ∧ row.length = inputs := by
  obtain ⟨hsome, hwidth, _⟩ := validate_eq_ok_iff.mp h
  have hcount := List.length_pos_iff.mpr hsome
  have hindex : min frame (schedule.rows.length - 1) < schedule.rows.length := by omega
  exact ⟨_, List.getElem?_eq_getElem hindex, hwidth _ (List.getElem_mem hindex)⟩

end GainSchedule

namespace GainCompensator

variable {compensator : GainCompensator} {frames : List FrameView} {template : Template}
  {entries : List (List Sample)} {policy : AdaptivePolicy} {held solved : List Float32}

/-- Every overlap pixel of a template can be measured. -/
theorem exists_measure (hlists : template.Lists entries)
    (hframes : ∀ view ∈ frames, view.Measurable) (interpolation : Interpolation) (step : Nat) :
    ∃ overlap, measure interpolation template frames step = some overlap := by
  unfold measure
  refine Failing.exists_fold_eq_some (fun overlap index hindex ↦ ?_) _
  have hpixel : index < entries.length := by
    rw [← hlists.holds.1.size]
    exact Template.overlap_pixel_lt (mem_of_mem_every_nth hindex)
  rw [hlists.holds.1.entry, List.getElem?_eq_getElem hpixel]
  refine Failing.exists_bind_eq_some ⟨_, rfl⟩ fun entry ↦
    Failing.exists_bind_eq_some (Failing.exists_map_eq_some ?_) fun _ ↦ ⟨_, rfl⟩
  rintro ⟨sample, source⟩ _
  exact Failing.exists_bind_eq_some
    (hframes _ (List.getElem_mem source.isLt) interpolation template.edge sample.x sample.y)
    fun _ ↦ ⟨_, rfl⟩

/-- With bounds in order, a row can be moved towards gains for the same sources. -/
theorem exists_approach (hbounds : policy.minGain ≤ policy.maxGain)
    (hlength : solved.length = held.length) :
    ∃ next, approach? policy held solved = some next ∧ next.length = held.length := by
  have hclamp (pair : Float32 × Float32) (_ : pair ∈ held.zip solved) :
      ∃ gain, clamp? policy.minGain policy.maxGain
        (pair.1 + policy.smoothing * (pair.2 - pair.1)) = some gain := by
    unfold clamp?
    rw [if_pos hbounds]
    exact ⟨_, rfl⟩
  obtain ⟨next, hnext⟩ := Failing.exists_map_eq_some hclamp
  refine ⟨next, hnext, ?_⟩
  rw [← (Failing.map_eq_some_iff.mp hnext).length_eq, List.length_zip, hlength, Nat.min_self]

/-- A recomputation gives a row of the same length. -/
theorem exists_recompute (hlists : template.Lists entries)
    (hframes : ∀ view ∈ frames, view.Measurable) (hbounds : policy.minGain ≤ policy.maxGain)
    (hheld : held.length = frames.length) :
    ∃ next, compensator.recompute? policy template frames held = some next ∧
      next.length = held.length := by
  obtain ⟨overlap, hoverlap⟩ :=
    exists_measure hlists hframes compensator.interpolation policy.sampleStep
  unfold recompute?
  rw [hoverlap, Option.bind_eq_bind, Option.bind_some]
  split
  · exact ⟨held, rfl, rfl⟩
  · cases hgains : overlap.gains? with
    | none => exact ⟨held, rfl, rfl⟩
    | some solved =>
        exact exists_approach hbounds ((Overlap.length_of_gains hgains).trans hheld.symm)

/-- A checked mode gives a row of the same length. -/
theorem exists_next_row (compensator : GainCompensator) {tracked : TrackedGain}
    (hmode : tracked.mode.validate held.length = .ok ()) (hlists : template.Lists entries)
    (hframes : ∀ view ∈ frames, view.Measurable) (hheld : held.length = frames.length) :
    ∃ next, compensator.nextRow? frames template tracked held = some next ∧
      next.length = held.length := by
  obtain ⟨mode, recomputed⟩ := tracked
  cases mode with
  | disabled => exact ⟨held, rfl, rfl⟩
  | fixed gains => exact ⟨gains, rfl, (GainMode.fixed_eq_ok_iff.mp hmode).1⟩
  | scheduled schedule => exact GainSchedule.exists_row hmode _
  | adaptive policy =>
      obtain ⟨_, _, hbounds⟩ := AdaptivePolicy.sound_of_validate hmode
      show ∃ next, (if policy.isDue compensator.framesObserved recomputed then
        compensator.recompute? policy template frames held else some held) = some next ∧ _
      split
      · exact exists_recompute hlists hframes hbounds hheld
      · exact ⟨held, rfl, rfl⟩

/-- An update of templates with checked modes completes. -/
theorem update_from_complete {rows index : Nat} {table : GainTable}
    {items : List (TrackedGain × Template)} (hshape : table.HasShape rows frames.length)
    (hframes : ∀ view ∈ frames, view.Measurable) (hindex : index + items.length ≤ rows)
    (hitems : ∀ item ∈ items, item.1.mode.validate frames.length = .ok () ∧
      ∃ entries, item.2.Lists entries) :
    (compensator.updateFrom frames index table items).isComplete := by
  induction items generalizing index table with
  | nil => rfl
  | cons item items ih =>
      obtain ⟨tracked, template⟩ := item
      obtain ⟨⟨hmode, entries, hlists⟩, hrest⟩ := List.forall_mem_cons.mp hitems
      rw [List.length_cons] at hindex
      have hpresent : index < table.rows.length := by
        rw [hshape.rows]
        omega
      have hheld : table.row? index = some table.rows[index] := List.getElem?_eq_getElem hpresent
      have hwidth := hshape.gains _ (List.getElem_mem hpresent)
      rw [← hwidth] at hmode
      obtain ⟨next, hnext, hlength⟩ :=
        compensator.exists_next_row hmode hlists hframes hwidth
      have hset : table.set? index next = some ⟨table.rows.set index next⟩ :=
        GainTable.set_eq_some_iff.mpr ⟨_, hheld, hlength.symm, rfl⟩
      have hupdate := update_row_eq_some_iff.mpr ⟨_, next, hheld, hnext, hset⟩
      unfold updateFrom
      rw [hupdate]
      exact ih (hshape.set hset) (by omega) hrest

/-- A compensator with a table of its shape and checked modes, of which none was recomputed more
often than there were updates. -/
structure Tuned (compensator : GainCompensator) : Prop where
  shaped : compensator.Shaped
  modes : ∀ tracked ∈ compensator.states, tracked.mode.validate compensator.inputs = .ok ()
  counted : ∀ tracked ∈ compensator.states, tracked.recomputed ≤ compensator.framesObserved

/-- A compensator starts tuned and without updates. -/
theorem tuned_of_make {modes : List GainMode} {inputs : Nat} {interpolation : Interpolation}
    (h : make modes inputs interpolation = .ok compensator) :
    compensator.Tuned ∧ compensator.framesObserved = 0 := by
  have hshaped := shaped_of_make h
  obtain ⟨hmodes, _, _, rfl⟩ := make_eq_ok_iff.mp h
  refine ⟨⟨hshaped, ?_, ?_⟩, rfl⟩
  · intro tracked htracked
    obtain ⟨mode, hmode, rfl⟩ := List.mem_map.mp htracked
    exact hmodes mode hmode
  · intro tracked htracked
    obtain ⟨mode, _, rfl⟩ := List.mem_map.mp htracked
    exact Nat.le_refl 0

/-- A recomputation keeps the mode and counts at most once. -/
theorem advance_sound (tracked : TrackedGain) (count : Nat) :
    (tracked.advance count).mode = tracked.mode ∧
      (tracked.advance count).recomputed ≤ tracked.recomputed + 1 := by
  unfold TrackedGain.advance
  split
  · exact ⟨rfl, Nat.le_refl _⟩
  · exact ⟨rfl, Nat.le_succ _⟩

/-- A tuned compensator accepts one frame per source, and stays tuned. -/
theorem Tuned.update_ok (h : compensator.Tuned) {given : List Template}
    (hcount : frames.length = compensator.inputs) (hgiven : given.length = compensator.templates)
    (hframes : ∀ view ∈ frames, view.Measurable)
    (hlists : ∀ template ∈ given, ∃ entries, template.Lists entries) :
    (compensator.update frames given).1 = .ok () ∧ (compensator.update frames given).2.Tuned ∧
      (compensator.update frames given).2.framesObserved = compensator.framesObserved + 1 := by
  obtain ⟨hshaped, _, _⟩ := h.shaped.update frames given
  have hitems : ∀ item ∈ compensator.states.zip given,
      item.1.mode.validate frames.length = .ok () ∧ ∃ entries, item.2.Lists entries := by
    rintro ⟨tracked, template⟩ hitem
    obtain ⟨htracked, htemplate⟩ := List.of_mem_zip hitem
    exact ⟨hcount ▸ h.modes tracked htracked, hlists template htemplate⟩
  have hindex : 0 + (compensator.states.zip given).length ≤ compensator.templates := by
    rw [List.length_zip, hgiven, templates, Nat.min_self, Nat.zero_add]
  have hshape : compensator.table.HasShape compensator.templates frames.length := by
    rw [hcount]
    exact h.shaped
  have hcomplete : (compensator.updateFrom frames 0 compensator.table
      (compensator.states.zip given)).isComplete :=
    update_from_complete hshape hframes hindex hitems
  have hstates := update_from_states hcomplete
  have hupdates := compensator.updates frames given
  generalize compensator.update frames given = result at hupdates hshaped ⊢
  cases hupdates with
  | miscounted h => exact absurd hcount h
  | misled h => exact absurd hgiven h
  | broken _ hprogress h => exact absurd hcomplete (hprogress ▸ h)
  | complete _ _ hprogress _ =>
      rw [hprogress] at hstates
      refine ⟨rfl, ⟨hshaped, ?_, ?_⟩, rfl⟩
      · intro tracked htracked
        obtain ⟨item, hitem, rfl⟩ := List.mem_map.mp (hstates ▸ htracked)
        rw [(advance_sound item.1 _).1]
        exact h.modes item.1 (List.of_mem_zip hitem).1
      · intro tracked htracked
        obtain ⟨item, hitem, rfl⟩ := List.mem_map.mp (hstates ▸ htracked)
        have hbefore := h.counted item.1 (List.of_mem_zip hitem).1
        have hafter := (advance_sound item.1 compensator.framesObserved).2
        show (item.1.advance compensator.framesObserved).recomputed
          ≤ compensator.framesObserved + 1
        omega

/-- Without one frame per source, an update is refused and changes nothing. -/
theorem update_refused {given : List Template} (hcount : frames.length ≠ compensator.inputs) :
    compensator.update frames given = (.error (.refused (.sizeMismatch
      (.gainFrames frames.length compensator.inputs))), compensator) := by
  unfold update
  rw [if_pos hcount]

end GainCompensator

end Panorama
