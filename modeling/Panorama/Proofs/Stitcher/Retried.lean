import Panorama.Proofs.Frame.Accounting
import Panorama.Proofs.Gain.Cadence
import Panorama.Proofs.Stitcher.Rejected

/-!
# Retried frame sets

An attempt to process a frame set that runs out of memory leaves a trace. The gains have moved on as
after a successful attempt, and the buffers that were taken for the outputs do not come back to the
pool. So a retry uses other gains than the failed attempt, and has fewer buffers to work in. Read
`retries_move_on` first.
-/

namespace Panorama

/-- Whether the host may try again later. -/
def Failure.IsRetryable : Failure → Prop
  | .refused error => error.isRetryable = true
  | .fault => False

/-! ### The pool -/

namespace FramePool

variable {pool next : FramePool} {format : PixelFormat} {size : Canvas} {sizes : List Canvas}
  {frame : Frame} {frames : List Frame}

/-- The frames that are left when one is taken for each of several sizes, where there is one. -/
def leftover (format : PixelFormat) (frames : List Frame) (sizes : List Canvas) : List Frame :=
  sizes.foldl (fun frames size ↦ frames.eraseP (suits format size)) frames

/-- Taking frames leaves some of them. -/
theorem leftover_sublist (format : PixelFormat) (frames : List Frame) (sizes : List Canvas) :
    (leftover format frames sizes).Sublist frames := by
  induction sizes generalizing frames with
  | nil => exact .refl frames
  | cons size sizes ih => exact (ih _).trans (List.eraseP_sublist ..)

/-- No frame is taken if none has one of the sizes. -/
theorem leftover_eq_iff : leftover format frames sizes = frames ↔
    ∀ size ∈ sizes, ∀ frame ∈ frames, ¬suits format size frame := by
  induction sizes generalizing frames with
  | nil => exact iff_of_true rfl nofun
  | cons size sizes ih =>
      show leftover format (frames.eraseP (suits format size)) sizes = frames ↔ _
      rw [List.forall_mem_cons]
      constructor
      · intro hsame
        -- The frames that are left are no more than those that the first size leaves.
        have hfirst : frames.eraseP (suits format size) = frames := by
          refine (List.eraseP_sublist ..).eq_of_length_le ?_
          have hfewer :=
            (leftover_sublist format (frames.eraseP (suits format size)) sizes).length_le
          rwa [hsame] at hfewer
        rw [hfirst] at hsame
        exact ⟨List.eraseP_eq_self_iff.mp hfirst, ih.mp hsame⟩
      · rintro ⟨hfirst, hothers⟩
        rw [List.eraseP_of_forall_not hfirst]
        exact ih.mpr hothers

/-- A frame that is handed out is no longer kept. -/
theorem retained_of_borrow (h : pool.borrow format size = .ok (frame, next)) :
    next.retained = pool.retained.eraseP (suits format size) := by
  unfold borrow at h
  dsimp only at h
  split at h
  · cases h
    rfl
  · rename_i hbucket
    obtain ⟨_, _, hresult⟩ := Failing.bind_eq_ok_iff.mp h
    cases hresult
    exact (List.eraseP_of_forall_not (List.filter_eq_nil_iff.mp hbucket)).symm

/-- A frame that cannot be handed out cannot be made. -/
theorem blank_of_borrow {error : Error} (h : pool.borrow format size = .error error) :
    Frame.blank format size = .error error := by
  unfold borrow at h
  dsimp only at h
  split at h
  · cases h
  · rcases Failing.bind_eq_error_iff.mp h with hblank | ⟨_, _, hresult⟩
    · exact hblank
    · cases hresult

/-- What happens to the frames of a pool when frames of several sizes are asked for: the sizes in
front of one that cannot be made have taken theirs. -/
theorem borrow_all_takes (pool : FramePool) (format : PixelFormat) (sizes : List Canvas) :
    ∃ taken, (pool.borrowAll format sizes).2.retained = leftover format pool.retained taken ∧
      match (pool.borrowAll format sizes).1 with
      | .ok _ => taken = sizes
      | .error error => ∃ size, taken ++ [size] <+: sizes ∧
          Frame.blank format size = .error error := by
  induction sizes generalizing pool with
  | nil => exact ⟨[], rfl, rfl⟩
  | cons size sizes ih =>
      unfold borrowAll
      cases hborrow : pool.borrow format size with
      | error error =>
          exact ⟨[], rfl, size, List.prefix_append [size] sizes, blank_of_borrow hborrow⟩
      | ok handed =>
          obtain ⟨frame, next⟩ := handed
          obtain ⟨taken, hretained, houtcome⟩ := ih next
          refine ⟨size :: taken, ?_, ?_⟩
          · show (next.borrowAll format sizes).2.retained
              = leftover format (pool.retained.eraseP (suits format size)) taken
            rw [hretained, retained_of_borrow hborrow]
          · dsimp only
            cases hothers : (next.borrowAll format sizes).1 with
            | error error =>
                rw [hothers] at houtcome
                obtain ⟨other, hfront, hblank⟩ := houtcome
                exact ⟨other, (List.prefix_cons_inj size).mpr hfront, hblank⟩
            | ok others =>
                rw [hothers] at houtcome
                exact congrArg (size :: ·) houtcome

end FramePool

/-! ### What comes before the buffers -/

/-- Preparing a frame set takes no memory. -/
theorem Compositor.prepare_not_retryable (compositor : Compositor) (frames : List Frame) :
    FailsOnly (fun failure ↦ ¬failure.IsRetryable) (compositor.prepare frames) := by
  refine compositor.prepare_fails (fun _ ↦ nofun) fun frame _ ↦ ?_
  unfold Frame.view
  exact .bind (.of_result (frame.visible_columns_fails (fun _ ↦ nofun) _)) fun _ _ ↦
    .bind (.of_option id _) fun _ _ ↦ .ok _

namespace GainCompensator

variable {gains : GainCompensator} {views : List FrameView} {templates : List Template}

/-- An update of the gains takes no memory. -/
theorem update_not_retryable (gains : GainCompensator) (views : List FrameView)
    (templates : List Template) :
    FailsOnly (fun failure ↦ ¬failure.IsRetryable) (gains.update views templates).1 :=
  gains.update_fails (fun _ ↦ nofun) (fun _ ↦ nofun) id views templates

end GainCompensator

namespace Stitcher

variable {stitcher : Stitcher} {frames : List Frame} {count : Nat}

/-! ### One attempt -/

/-- What an attempt to process a frame set changes: the gains move on by one frame set, and buffers
are taken from the pool, the last one for the last output or in front of one that cannot be made. -/
structure MovesOn (before after : Stitcher) : Prop where
  compositor : after.compositor = before.compositor
  counted : after.gains.framesObserved = before.gains.framesObserved + 1
  advanced : ∀ (index : Nat) (tracked : TrackedGain), before.gains.states[index]? = some tracked →
    after.gains.states[index]? = some (tracked.advance before.gains.framesObserved)
  scheduled : ∀ (index : Nat) (schedule : GainSchedule) (recomputed : Nat),
    before.gains.states[index]? = some ⟨.scheduled schedule, recomputed⟩ →
      after.gains.table.row? index = schedule.row? before.gains.framesObserved
  taken : ∃ taken, after.pool.retained
      = FramePool.leftover before.compositor.format before.pool.retained taken ∧
    (after.pool.retained = before.pool.retained ↔ ∀ size ∈ taken, ∀ frame ∈ before.pool.retained,
      ¬FramePool.suits before.compositor.format size frame) ∧
    (taken = before.compositor.outputSizes ∨ ∃ size error,
      taken ++ [size] <+: before.compositor.outputSizes ∧
        Frame.blank before.compositor.format size = .error error)

/-- An attempt that succeeds or runs out of memory has updated the gains, and asked for the buffers
of all outputs. -/
theorem parts_of_attempt (h : FailsOnly Failure.IsRetryable (stitcher.process frames).1) :
    ∃ views, stitcher.compositor.prepare frames = .ok views ∧
      (stitcher.gains.update views stitcher.compositor.templates).1 = .ok () ∧
      (stitcher.process frames).2 = { stitcher with
        gains := (stitcher.gains.update views stitcher.compositor.templates).2
        pool := (stitcher.pool.borrowAll stitcher.compositor.format
          stitcher.compositor.outputSizes).2 } := by
  unfold process at h ⊢
  cases hprepare : stitcher.compositor.prepare frames with
  | error failure =>
      rw [hprepare] at h
      exact absurd (h failure rfl)
        (stitcher.compositor.prepare_not_retryable frames failure hprepare)
  | ok views =>
      rw [hprepare] at h
      dsimp only at h ⊢
      cases hupdate : (stitcher.gains.update views stitcher.compositor.templates).1 with
      | error failure =>
          rw [hupdate] at h
          exact absurd (h failure rfl) (stitcher.gains.update_not_retryable views _ failure hupdate)
      | ok _ =>
          refine ⟨views, rfl, hupdate, ?_⟩
          dsimp only [compose]
          split <;> rfl

/-- An attempt that runs out of memory moves on like one that succeeds. -/
theorem moves_on_of_attempt (h : FailsOnly Failure.IsRetryable (stitcher.process frames).1) :
    stitcher.MovesOn (stitcher.process frames).2 := by
  obtain ⟨views, _, hupdate, hstate⟩ := parts_of_attempt h
  obtain ⟨_, htemplates, hcounted⟩ := GainCompensator.counted_of_update hupdate
  have htemplate (index : Nat) (tracked : TrackedGain)
      (htracked : stitcher.gains.states[index]? = some tracked) :
      ∃ template, stitcher.compositor.templates[index]? = some template := by
    obtain ⟨hindex, _⟩ := List.getElem?_eq_some_iff.mp htracked
    rw [← htemplates] at hindex
    exact ⟨_, List.getElem?_eq_getElem hindex⟩
  obtain ⟨taken, hretained, hborrowed⟩ := stitcher.pool.borrow_all_takes
    stitcher.compositor.format stitcher.compositor.outputSizes
  rw [hstate]
  refine ⟨rfl, hcounted, ?_, ?_, taken, hretained, ?_, ?_⟩
  · intro index tracked htracked
    obtain ⟨template, htemplate⟩ := htemplate index tracked htracked
    exact (GainCompensator.row_of_update hupdate htracked htemplate).2.2.1
  · intro index schedule recomputed htracked
    obtain ⟨template, htemplate⟩ := htemplate index _ htracked
    obtain ⟨_, _, _, held, next, _, hnext, hlast⟩ :=
      GainCompensator.row_of_update hupdate htracked htemplate
    exact hlast.trans hnext.symm
  · rw [← FramePool.leftover_eq_iff, ← hretained]
  · cases htargets : (stitcher.pool.borrowAll stitcher.compositor.format
        stitcher.compositor.outputSizes).1 with
    | error error =>
        rw [htargets] at hborrowed
        obtain ⟨size, hfront, hblank⟩ := hborrowed
        exact .inr ⟨size, error, hfront, hblank⟩
    | ok targets =>
        rw [htargets] at hborrowed
        exact .inl hborrowed

/-! ### Several attempts -/

/-- The stitcher after several attempts to process the same frame set. -/
def attempts (stitcher : Stitcher) (frames : List Frame) (count : Nat) : Stitcher :=
  stitcher.performAll (List.replicate count (.process frames))

/-- One more attempt comes after the others. -/
theorem attempts_succ (stitcher : Stitcher) (frames : List Frame) (count : Nat) :
    stitcher.attempts frames (count + 1) = ((stitcher.attempts frames count).process frames).2 := by
  unfold attempts
  rw [List.replicate_succ', perform_all_concat]
  rfl

/-- After several attempts the gains have counted them all, schedules have stayed, and no frame has
come to the pool. -/
theorem attempts_move_on (h : ∀ index < count,
      FailsOnly Failure.IsRetryable ((stitcher.attempts frames index).process frames).1) :
    (stitcher.attempts frames count).gains.framesObserved
        = stitcher.gains.framesObserved + count ∧
      (∀ (position : Nat) (schedule : GainSchedule) (recomputed : Nat),
        stitcher.gains.states[position]? = some ⟨.scheduled schedule, recomputed⟩ →
          (stitcher.attempts frames count).gains.states[position]?
            = some ⟨.scheduled schedule, recomputed⟩) ∧
      (stitcher.attempts frames count).pool.retained.Sublist stitcher.pool.retained := by
  induction count with
  | zero => exact ⟨rfl, fun _ _ _ hmode ↦ hmode, .refl _⟩
  | succ count ih =>
      obtain ⟨hcounted, hscheduled, hretained⟩ := ih fun index hindex ↦
        h index (Nat.lt_succ_of_lt hindex)
      have hmoves := moves_on_of_attempt (h count (Nat.lt_succ_self count))
      obtain ⟨taken, hleft, _, _⟩ := hmoves.taken
      rw [attempts_succ]
      refine ⟨?_, ?_, ?_⟩
      · rw [hmoves.counted, hcounted, Nat.add_assoc]
      · intro position schedule recomputed hmode
        exact hmoves.advanced position _ (hscheduled position schedule recomputed hmode)
      · rw [hleft]
        exact (FramePool.leftover_sublist ..).trans hretained

/-- Retries move on. Of several attempts to process the same frame set that succeed or run out of
memory, each one moves the gains on, whether it succeeds or not: attempt `index` of a schedule that
has reached row `n` uses row `n + index`. Each one takes buffers out of the pool, and leaves it as
it is only if there was none of a size that it took. -/
theorem retries_move_on (h : ∀ index < count,
      FailsOnly Failure.IsRetryable ((stitcher.attempts frames index).process frames).1) :
    (∀ index < count, (stitcher.attempts frames index).MovesOn
      (stitcher.attempts frames (index + 1))) ∧
    (stitcher.attempts frames count).gains.framesObserved
      = stitcher.gains.framesObserved + count ∧
    (∀ (position : Nat) (schedule : GainSchedule) (recomputed : Nat),
      stitcher.gains.states[position]? = some ⟨.scheduled schedule, recomputed⟩ →
        ∀ index < count, (stitcher.attempts frames (index + 1)).gains.table.row? position
          = schedule.row? (stitcher.gains.framesObserved + index)) ∧
    (stitcher.attempts frames count).pool.retained.Sublist stitcher.pool.retained := by
  have hmoves (index : Nat) (hindex : index < count) :
      (stitcher.attempts frames index).MovesOn (stitcher.attempts frames (index + 1)) := by
    rw [attempts_succ]
    exact moves_on_of_attempt (h index hindex)
  obtain ⟨hcounted, _, hretained⟩ := attempts_move_on h
  refine ⟨hmoves, hcounted, ?_, hretained⟩
  intro position schedule recomputed hmode index hindex
  obtain ⟨hbefore, hscheduled, _⟩ := attempts_move_on fun earlier hearlier ↦
    h earlier (hearlier.trans hindex)
  rw [(hmoves index hindex).scheduled position schedule recomputed
    (hscheduled position schedule recomputed hmode), hbefore]

/-- A stitcher like `brightening`, with previews of more bytes than a buffer can have. -/
def overviewing : Stitcher :=
  { brightening with preview := some ⟨0xFFFFFFFF, 0xFFFFFFFF⟩ }

/-- The stitcher with a frame that it was given back. -/
def overviewingAgain : Stitcher := overviewing.recycle [.grayRow 4 #[9, 9, 9, 9]]

/-- Two attempts to process one frame run out of memory for the preview, with the first row of the
schedule and with the second one. -/
theorem overviewing_moves_on :
    ((overviewingAgain.attempts [.grayRow 1 #[7]] 1).gains.table.row? 0 = some [2] ∧
      (overviewingAgain.attempts [.grayRow 1 #[7]] 2).gains.table.row? 0 = some [3]) ∧
    (overviewingAgain.attempts [.grayRow 1 #[7]] 2).gains.framesObserved = 2 := by
  have hattempt (index : Nat) (hindex : index < 2) : FailsOnly Failure.IsRetryable
      ((overviewingAgain.attempts [.grayRow 1 #[7]] index).process [.grayRow 1 #[7]]).1 := by
    match index, hindex with
    | 0, _ => exact .error rfl
    | 1, _ => exact .error rfl
  obtain ⟨_, hcounted, hscheduled, _⟩ := retries_move_on hattempt
  have hrow := hscheduled 0 ⟨[[2], [3]]⟩ 0 rfl
  exact ⟨⟨hrow 0 (by omega), hrow 1 (by omega)⟩, hcounted⟩

/-- A failed attempt changes the gains, the number of frame sets they have seen and the kept frames,
and the next attempt uses other gains. -/
theorem overviewing_not_retried :
    make .spot brightening.gains (some ⟨0xFFFFFFFF, 0xFFFFFFFF⟩) .standard = .ok overviewing ∧
      GainCompensator.make [.scheduled ⟨[[2], [3]]⟩] 1 .bilinear = .ok overviewing.gains ∧
      (∃ error, (overviewingAgain.process [.grayRow 1 #[7]]).1 = .error (.refused error) ∧
        error.isRetryable = true) ∧
      (overviewingAgain.gains.table = ⟨[[1]]⟩ ∧
        (overviewingAgain.process [.grayRow 1 #[7]]).2.gains.table = ⟨[[2]]⟩ ∧
        (overviewingAgain.attempts [.grayRow 1 #[7]] 2).gains.table = ⟨[[3]]⟩) ∧
      (overviewingAgain.gains.framesObserved = 0 ∧
        (overviewingAgain.process [.grayRow 1 #[7]]).2.gains.framesObserved = 1) ∧
      overviewingAgain.pool.retained = [.grayRow 4 #[9, 9, 9, 9]] ∧
        (overviewingAgain.process [.grayRow 1 #[7]]).2.pool.retained = [] := by
  refine ⟨rfl, ?_, ⟨_, rfl, rfl⟩, ⟨rfl, ?_, ?_⟩, ⟨rfl, rfl⟩, rfl, rfl⟩
  · decide +kernel
  · decide +kernel
  · decide +kernel

end Stitcher

end Panorama
