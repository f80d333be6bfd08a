import Panorama.Proofs.Frame.Accounting
import Panorama.Proofs.Frame.Reading

/-!
# Frames in rotation

A pool with room for one frame of every size in a list keeps all of them when they are given back,
and hands all of them out again without making a frame. `FramePool.Keeps` says which sizes the pool
keeps frames of, how many frames were made at most, and that none was dropped.
-/

namespace Panorama

variable {limits : PoolLimits} {format : PixelFormat} {size : Canvas}
  {sizes others kept : List Canvas} {made : Nat}

/-- Bytes that frames of several sizes count for in a pool. -/
def PixelFormat.pooledTotal (format : PixelFormat) (sizes : List Canvas) : Nat :=
  (sizes.map format.pooledBytes).sum

/-- A pool may keep a frame of every size in a list at once. -/
structure PoolLimits.HaveRoom (limits : PoolLimits) (format : PixelFormat)
    (sizes : List Canvas) : Prop where
  /-- They count for no more bytes than are kept in total. -/
  bytes : format.pooledTotal sizes ≤ limits.maxBytes
  /-- No size has more frames than are kept of one. -/
  bucket : ∀ size : Canvas, sizes.count size ≤ limits.maxFramesPerBucket

/-- There is room for fewer frames in any order. -/
theorem PoolLimits.HaveRoom.of_subperm (h : limits.HaveRoom format sizes)
    (hfewer : others.Subperm sizes) : limits.HaveRoom format others := by
  obtain ⟨front, hsame, hsub⟩ := hfewer
  constructor
  · calc format.pooledTotal others = format.pooledTotal front :=
        ((hsame.map _).sum_eq).symm
      _ ≤ format.pooledTotal sizes := (hsub.map _).sum_le_sum fun _ _ ↦ Nat.zero_le _
      _ ≤ limits.maxBytes := h.bytes
  · intro size
    rw [← hsame.count_eq size]
    exact (hsub.count_le size).trans (h.bucket size)

/-- A well-formed frame counts for some byte. -/
theorem Frame.WellFormed.pooled_bytes_pos {frame : Frame} (h : frame.WellFormed) :
    0 < frame.format.pooledBytes frame.size := by
  obtain ⟨_, hblank⟩ := h.exists_blank
  obtain ⟨planes, hplanes, -⟩ := Failing.bind_eq_ok_iff.mp hblank
  obtain ⟨first, others, rfl, hfirst⟩ := tight_planes_cons hplanes
  unfold PixelFormat.pooledBytes
  rw [frame_bytes_of_tight hplanes]
  simp only [List.map_cons, List.sum_cons]
  omega

namespace FramePool

variable {pool next : FramePool} {frame : Frame} {frames : List Frame}

/-- A pool keeps one frame for every entry of a list of sizes. So far it has dropped no frame, and
made no more than so many. -/
structure Keeps (limits : PoolLimits) (format : PixelFormat) (sizes : List Canvas) (made : Nat)
    (pool : FramePool) : Prop where
  limits : pool.limits = limits
  formats : ∀ frame ∈ pool.retained, frame.format = format
  bytes : pool.counters.retainedBytes ≤ format.pooledTotal sizes
  sizes : (pool.retained.map Frame.size).Perm sizes
  made : pool.counters.allocatedFrames ≤ made
  dropped : pool.counters.dropped = 0

/-- A pool of frames of one format has a bucket with all those of a size. -/
theorem length_bucket (hformats : ∀ frame ∈ pool.retained, frame.format = format)
    (size : Canvas) :
    (pool.bucket format size).length = (pool.retained.map Frame.size).count size := by
  unfold bucket List.count
  rw [List.countP_map, ← List.countP_eq_length_filter]
  refine List.countP_congr fun frame hframe ↦ ?_
  simp [suits, hformats frame hframe]

namespace Keeps

/-- A new pool keeps nothing and has made nothing. -/
theorem start (limits : PoolLimits) (format : PixelFormat) :
    Keeps limits format [] 0 (start limits) where
  limits := rfl
  formats := nofun
  sizes := .nil
  bytes := Nat.le_refl 0
  made := Nat.le_refl 0
  dropped := rfl

/-- The order of the sizes does not matter, and neither does a larger bound. -/
theorem mono (h : Keeps limits format sizes made pool) (hsame : sizes.Perm others) {bound : Nat}
    (hbound : made ≤ bound) : Keeps limits format others bound pool where
  limits := h.limits
  formats := h.formats
  sizes := h.sizes.trans hsame
  bytes := h.bytes.trans_eq (hsame.map _).sum_eq
  made := h.made.trans hbound
  dropped := h.dropped

/-- A frame of a size that the pool keeps one of is handed out without making one. -/
theorem borrow (h : Keeps limits format (size :: sizes) made pool) :
    ∃ frame next, pool.borrow format size = .ok (frame, next) ∧
      Keeps limits format sizes made next := by
  have hcount : 0 < (pool.bucket format size).length := by
    rw [length_bucket h.formats, h.sizes.count_eq, List.count_cons_self]
    exact Nat.succ_pos _
  obtain ⟨frame, rest, hbucket⟩ := List.exists_cons_of_length_pos hcount
  obtain ⟨front, back, hretained, -, hleft⟩ := retained_split hbucket
  obtain ⟨-, -, hsize⟩ := suits_of_bucket hbucket
  refine ⟨frame, { pool with
    counters := pool.counters.handOut (format.pooledBytes size)
    retained := pool.retained.eraseP (suits format size) }, ?_, h.limits, ?_, ?_, ?_, h.made,
    h.dropped⟩
  · unfold FramePool.borrow
    simp only [hbucket]
  · exact fun other hother ↦ h.formats other (List.mem_of_mem_eraseP hother)
  · have hbytes := h.bytes
    simp only [PixelFormat.pooledTotal, List.map_cons, List.sum_cons] at hbytes ⊢
    show pool.counters.retainedBytes - format.pooledBytes size ≤ _
    omega
  · -- The frame that is taken stands somewhere in the middle.
    have hmiddle := h.sizes
    rw [hretained, List.map_append, List.map_cons, hsize] at hmiddle
    show ((pool.retained.eraseP (suits format size)).map Frame.size).Perm sizes
    rw [hleft, List.map_append]
    exact (List.perm_middle.symm.trans hmiddle).cons_inv

/-- When the pool keeps nothing, what it hands out is made. -/
theorem make (h : Keeps limits format [] made pool)
    (hborrow : pool.borrow format size = .ok (frame, next)) :
    Keeps limits format [] (made + 1) next := by
  rcases borrow_cases hborrow with ⟨rest, hbucket, -⟩ | ⟨-, rfl⟩
  · obtain ⟨hframe, -⟩ := suits_of_bucket hbucket
    rw [List.map_eq_nil_iff.mp h.sizes.eq_nil] at hframe
    cases hframe
  · refine ⟨h.limits, h.formats, h.bytes, h.sizes, ?_, h.dropped⟩
    show saturate (pool.counters.allocatedFrames + 1) ≤ made + 1
    exact (Nat.min_le_left ..).trans (Nat.succ_le_succ h.made)

/-- A frame is kept if there is room for one more of its size. -/
theorem release (h : Keeps limits format sizes made pool) (hframe : frame.WellFormed)
    (hformat : frame.format = format) (hroom : limits.HaveRoom format (frame.size :: sizes)) :
    Keeps limits format (frame.size :: sizes) made (pool.release frame) := by
  subst hformat
  have hpos := hframe.pooled_bytes_pos
  have hbytes := hroom.bytes
  have hkept := h.bytes
  have hbucket := hroom.bucket frame.size
  rw [List.count_cons_self, ← h.sizes.count_eq, ← length_bucket h.formats] at hbucket
  simp only [PixelFormat.pooledTotal, List.map_cons, List.sum_cons] at hbytes hkept
  have hsaturate := Nat.min_le_left
    (pool.counters.retainedBytes + frame.format.pooledBytes frame.size) (UInt64.size - 1)
  have haccepted : pool.hasRoom frame = true := by
    unfold hasRoom saturate
    rw [h.limits]
    simp only [Bool.and_eq_true, bne_iff_ne, decide_eq_true_eq]
    exact ⟨⟨by omega, by omega⟩, by omega⟩
  unfold FramePool.release
  rw [if_pos haccepted]
  refine ⟨h.limits, List.forall_mem_cons.mpr ⟨rfl, h.formats⟩, ?_, h.sizes.cons _, h.made,
    h.dropped⟩
  simp only [PixelFormat.pooledTotal, List.map_cons, List.sum_cons]
  show min (pool.counters.retainedBytes + frame.format.pooledBytes frame.size) _ ≤ _
  omega

/-- Frames of all the sizes that the pool keeps are handed out without making one. -/
theorem borrow_all (h : Keeps limits format sizes made pool) :
    Keeps limits format [] made (pool.borrowAll format sizes).2 := by
  induction sizes generalizing pool with
  | nil => exact h
  | cons size sizes ih =>
      obtain ⟨frame, next, hborrow, hnext⟩ := h.borrow
      unfold borrowAll
      rw [hborrow]
      exact ih hnext

/-- When the pool keeps nothing, no more frames are made than are asked for. -/
theorem make_all (h : Keeps limits format [] made pool) (sizes : List Canvas) :
    Keeps limits format [] (made + sizes.length) (pool.borrowAll format sizes).2 := by
  induction sizes generalizing pool made with
  | nil => exact h
  | cons size sizes ih =>
      unfold borrowAll
      cases hborrow : pool.borrow format size with
      | error error => exact h.mono .nil (Nat.le_add_right ..)
      | ok handed =>
          obtain ⟨frame, next⟩ := handed
          have hrest := ih (h.make hborrow)
          rw [List.length_cons, Nat.add_comm sizes.length 1, ← Nat.add_assoc]
          exact hrest

/-- Frames are kept if there is room for all of them. -/
theorem release_all (h : Keeps limits format kept made pool)
    (hframes : ∀ frame ∈ frames, frame.WellFormed ∧ frame.format = format)
    (hroom : limits.HaveRoom format (kept ++ frames.map Frame.size)) :
    Keeps limits format (kept ++ frames.map Frame.size) made (pool.releaseAll frames) := by
  induction frames generalizing pool kept with
  | nil => rwa [List.map_nil, List.append_nil]
  | cons frame frames ih =>
      obtain ⟨⟨hformed, hformat⟩, hothers⟩ := List.forall_mem_cons.mp hframes
      -- The frame goes to the front of those that are kept.
      have hmiddle : (kept ++ (frame :: frames).map Frame.size).Perm
          ((frame.size :: kept) ++ frames.map Frame.size) := List.perm_middle
      have hall := hroom.of_subperm hmiddle.symm.subperm
      have hfirst : limits.HaveRoom format (frame.size :: kept) :=
        hall.of_subperm (List.sublist_append_left ..).subperm
      exact (ih (h.release hformed hformat hfirst) hothers hall).mono hmiddle.symm le_rfl

end Keeps

end FramePool

end Panorama
