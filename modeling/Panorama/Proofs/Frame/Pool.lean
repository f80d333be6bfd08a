import Panorama.Frame.Pool
import Panorama.Proofs.Frame.Fresh

/-!
# Frames from a pool

A pool that only well-formed frames were given back to hands out well-formed frames of the format
and size that are asked for, whatever they show. It has a frame for every size that a blank frame
can be made of.
-/

namespace Panorama.FramePool

variable {pool next : FramePool} {format : PixelFormat} {size : Canvas} {sizes : List Canvas}
  {frame : Frame} {frames : List Frame}

/-- Everything that the pool keeps is well-formed. -/
def Sound (pool : FramePool) : Prop :=
  ∀ frame ∈ pool.retained, frame.WellFormed

/-- A pool that keeps nothing is sound. -/
theorem sound_start (limits : PoolLimits) : (start limits).Sound :=
  nofun

/-- What stands first in a bucket is kept and has the format and size of the bucket. -/
theorem suits_of_bucket {rest : List Frame} (h : pool.bucket format size = frame :: rest) :
    frame ∈ pool.retained ∧ frame.format = format ∧ frame.size = size := by
  have hmem : frame ∈ pool.bucket format size := h ▸ List.mem_cons_self
  obtain ⟨hretained, hsuits⟩ := List.mem_filter.mp hmem
  simp only [suits, Bool.and_eq_true, decide_eq_true_eq] at hsuits
  exact ⟨hretained, hsuits⟩

/-- A frame from a sound pool is well-formed and has the format and size that were asked for. -/
theorem Sound.borrow (h : pool.Sound) (hborrow : pool.borrow format size = .ok (frame, next)) :
    (frame.WellFormed ∧ frame.format = format ∧ frame.size = size) ∧ next.Sound := by
  unfold FramePool.borrow at hborrow
  dsimp only at hborrow
  split at hborrow
  · rename_i hbucket
    cases hborrow
    obtain ⟨hretained, hsuits⟩ := suits_of_bucket hbucket
    exact ⟨⟨h _ hretained, hsuits⟩, fun other hother ↦ h other (List.mem_of_mem_eraseP hother)⟩
  · obtain ⟨fresh, hfresh, hresult⟩ := Failing.bind_eq_ok_iff.mp hborrow
    cases hresult
    exact ⟨Frame.blank_ok hfresh, h⟩

/-- A pool has a frame of every size that a blank frame can be made of. -/
theorem exists_borrow (pool : FramePool) (h : ∃ fresh, Frame.blank format size = .ok fresh) :
    ∃ frame next, pool.borrow format size = .ok (frame, next) := by
  unfold FramePool.borrow
  dsimp only
  split
  · exact ⟨_, _, rfl⟩
  · obtain ⟨fresh, hfresh⟩ := h
    exact ⟨fresh, _, Failing.bind_eq_ok_iff.mpr ⟨fresh, hfresh, rfl⟩⟩

/-- Several frames from a sound pool are well-formed and have the format and sizes that were asked
for, and the pool stays sound. -/
theorem Sound.borrow_all (h : pool.Sound) : (pool.borrowAll format sizes).2.Sound ∧
    ∀ frames, (pool.borrowAll format sizes).1 = .ok frames →
      List.Forall₂ (fun size frame ↦ frame.WellFormed ∧ frame.format = format ∧ frame.size = size)
        sizes frames := by
  induction sizes generalizing pool with
  | nil =>
      refine ⟨h, fun frames hframes ↦ ?_⟩
      cases hframes
      exact .nil
  | cons size sizes ih =>
      unfold borrowAll
      cases hborrow : pool.borrow format size with
      | error error => exact ⟨h, nofun⟩
      | ok handed =>
          obtain ⟨frame, next⟩ := handed
          obtain ⟨hframe, hnext⟩ := h.borrow hborrow
          obtain ⟨hlast, hrest⟩ := ih hnext
          refine ⟨hlast, fun frames hframes ↦ ?_⟩
          dsimp only at hframes
          cases hothers : (next.borrowAll format sizes).1 with
          | error error =>
              rw [hothers] at hframes
              cases hframes
          | ok others =>
              rw [hothers] at hframes
              cases hframes
              exact .cons hframe (hrest others hothers)

/-- A pool has frames of several sizes that blank frames can be made of. -/
theorem exists_borrow_all (pool : FramePool)
    (h : ∀ size ∈ sizes, ∃ fresh, Frame.blank format size = .ok fresh) :
    ∃ frames, (pool.borrowAll format sizes).1 = .ok frames := by
  induction sizes generalizing pool with
  | nil => exact ⟨[], rfl⟩
  | cons size sizes ih =>
      obtain ⟨frame, next, hborrow⟩ := pool.exists_borrow (h size List.mem_cons_self)
      obtain ⟨frames, hframes⟩ := ih next fun other hother ↦ h other (List.mem_cons_of_mem _ hother)
      unfold borrowAll
      rw [hborrow]
      dsimp only
      rw [hframes]
      exact ⟨_, rfl⟩

/-- A sound pool refuses a frame as making a blank one is refused. -/
theorem Sound.borrow_eq_error_iff (h : pool.Sound) {error : Error} :
    pool.borrow format size = .error error ↔ Frame.blank format size = .error error := by
  unfold FramePool.borrow
  dsimp only
  split
  · rename_i frame rest hbucket
    obtain ⟨hretained, rfl, rfl⟩ := suits_of_bucket hbucket
    obtain ⟨fresh, hfresh⟩ := (h frame hretained).exists_blank
    rw [hfresh]
    exact ⟨nofun, nofun⟩
  · rw [Failing.bind_eq_error_iff]
    constructor
    · intro hrefused
      rcases hrefused with hrefused | ⟨_, _, hresult⟩
      · exact hrefused
      · cases hresult
    · exact .inl

/-- A sound pool refuses several frames as making blank ones is refused, whatever it keeps. -/
theorem Sound.borrow_all_eq_error_iff (h : pool.Sound) {error : Error} :
    (pool.borrowAll format sizes).1 = .error error
      ↔ sizes.mapM (Frame.blank format) = .error error := by
  induction sizes generalizing pool with
  | nil => exact ⟨nofun, nofun⟩
  | cons size sizes ih =>
      rw [List.mapM_cons, Failing.bind_eq_error_iff, ← h.borrow_eq_error_iff]
      unfold borrowAll
      cases hborrow : pool.borrow format size with
      | error refusal => simp [h.borrow_eq_error_iff.mp hborrow]
      | ok handed =>
          obtain ⟨frame, next⟩ := handed
          obtain ⟨⟨hformed, rfl, rfl⟩, hnext⟩ := h.borrow hborrow
          obtain ⟨fresh, hfresh⟩ := hformed.exists_blank
          -- What is refused is a frame behind the first one.
          have hrest : Except.map (frame :: ·) (next.borrowAll frame.format sizes).1 = .error error
              ↔ sizes.mapM (Frame.blank frame.format) = .error error := by
            rw [← ih hnext]
            cases (next.borrowAll frame.format sizes).1 <;> simp [Except.map]
          rw [hfresh]
          simp [hrest, Failing.bind_eq_error_iff, pure, Except.pure]

/-- A sound pool that takes a well-formed frame back stays sound. -/
theorem Sound.release (h : pool.Sound) (hframe : frame.WellFormed) :
    (pool.release frame).Sound := by
  unfold FramePool.release
  split
  · exact List.forall_mem_cons.mpr ⟨hframe, h⟩
  · exact h

/-- A sound pool that takes well-formed frames back stays sound. -/
theorem Sound.release_all (h : pool.Sound) (hframes : ∀ frame ∈ frames, frame.WellFormed) :
    (pool.releaseAll frames).Sound := by
  induction frames generalizing pool with
  | nil => exact h
  | cons frame frames ih =>
      exact ih (h.release (hframes frame List.mem_cons_self))
        fun other hother ↦ hframes other (List.mem_cons_of_mem _ hother)

end Panorama.FramePool
