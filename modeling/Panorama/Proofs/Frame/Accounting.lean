import Panorama.Proofs.Frame.Packed
import Panorama.Proofs.Frame.Pool

/-!
# The accounts of a pool

However frames are borrowed and given back, the counters of a pool are those of what it keeps and of
what it has done, no limit is exceeded, and a borrowed frame is the one that was given back last. A
run notes what is seen of every call: the frame, and whether a counter says that it was made or
dropped. The invariant is `PoolRun.Consistent`. That the latest frame comes first is `Held`: beside
each kept frame stands the position of the call that gave it back, and the positions fall.
-/

namespace Panorama

/-- Something that is asked of a pool. -/
inductive PoolCall where
  /-- Hand out a frame. -/
  | borrow (format : PixelFormat) (size : Canvas)
  /-- Take a frame back. -/
  | release (frame : Frame)

/-- What is seen of a call. -/
inductive PoolEvent where
  /-- A frame was handed out, and counted as made or not. -/
  | borrowed (format : PixelFormat) (size : Canvas) (frame : Frame) (made : Bool)
  /-- No frame was handed out. -/
  | refused (format : PixelFormat) (size : Canvas) (error : Error)
  /-- A frame was given back, and counted as dropped or not. -/
  | released (frame : Frame) (dropped : Bool)

namespace PoolEvent

/-- A frame is handed out. -/
def isBorrow : PoolEvent → Bool
  | borrowed .. => true
  | _ => false

/-- A frame is made. -/
def isMade : PoolEvent → Bool
  | borrowed _ _ _ made => made
  | _ => false

/-- A frame is given back. -/
def isRelease : PoolEvent → Bool
  | released .. => true
  | _ => false

/-- A frame is dropped. -/
def isDropped : PoolEvent → Bool
  | released _ dropped => dropped
  | _ => false

/-- The frame that is handed out and was not made. -/
def reused? : PoolEvent → Option Frame
  | borrowed _ _ frame false => some frame
  | _ => none

/-- The frame that is given back and not dropped. -/
def kept? : PoolEvent → Option Frame
  | released frame false => some frame
  | _ => none

/-- The frame that is handed out at a position and was not made. -/
def reusedAt (events : List PoolEvent) (position : Nat) : Option Frame :=
  events[position]?.bind reused?

/-- The frame that is given back at a position and not dropped. -/
def keptAt (events : List PoolEvent) (position : Nat) : Option Frame :=
  events[position]?.bind kept?

/-- The frame that was given back at a position is still held in front of another one: no frame
that was handed out in between has this origin. -/
def IsHeld (events : List PoolEvent) (origin : Nat → Nat) (now position : Nat) (frame : Frame) :
    Prop :=
  position < now ∧ keptAt events position = some frame ∧
    ∀ between < now, (reusedAt events between).isSome → origin between ≠ position

/-- Every frame that is handed out and was not made has been given back. -/
structure Origins (events : List PoolEvent) (origin : Nat → Nat) : Prop where
  /-- It is the frame that was given back. -/
  same : ∀ (position : Nat) (frame : Frame), reusedAt events position = some frame →
    keptAt events (origin position) = some frame
  /-- Of the frames of its format and size that are still held, it was given back last. -/
  latest : ∀ (position : Nat) (frame : Frame), reusedAt events position = some frame →
    IsGreatest {earlier | ∃ other, IsHeld events origin position earlier other ∧
      other.format = frame.format ∧ other.size = frame.size} (origin position)
  /-- It is handed out once. -/
  once : ∀ first second : Nat, (reusedAt events first).isSome → (reusedAt events second).isSome →
    origin first = origin second → first = second

end PoolEvent

/-- Formats and sizes of the kept frames. -/
def FramePool.keys (pool : FramePool) : Finset (PixelFormat × Canvas) :=
  (pool.retained.map fun frame ↦ (frame.format, frame.size)).toFinset

/-- Bytes that a frame counts for in a pool. -/
def Frame.pooledBytes (frame : Frame) : Nat := frame.format.pooledBytes frame.size

/-- Bytes that the kept frames take up. -/
def FramePool.dataBytes (pool : FramePool) : Nat := (pool.retained.map Frame.dataBytes).sum

/-- A pool with everything that was seen of it. -/
structure PoolRun where
  /-- The pool. -/
  pool : FramePool
  /-- What was seen, in order. -/
  events : List PoolEvent
  /-- The most bytes that the kept frames have taken up at a time. -/
  peak : Nat

namespace PoolRun

/-- A pool of which nothing has been asked. -/
def start (limits : PoolLimits) : PoolRun := ⟨.start limits, [], 0⟩

/-- Note what is seen. -/
def note (run : PoolRun) (event : PoolEvent) (pool : FramePool) : PoolRun :=
  ⟨pool, run.events ++ [event], max run.peak pool.dataBytes⟩

/-- The run after one more call. -/
def perform (run : PoolRun) : PoolCall → PoolRun
  | .borrow format size =>
    match run.pool.borrow format size with
    | .error error => run.note (.refused format size error) run.pool
    | .ok (frame, pool) =>
      let made := run.pool.counters.allocatedFrames < pool.counters.allocatedFrames
      run.note (.borrowed format size frame made) pool
  | .release frame =>
    let pool := run.pool.release frame
    let dropped := run.pool.counters.dropped < pool.counters.dropped
    run.note (.released frame dropped) pool

/-- The run after several calls. -/
def performAll (run : PoolRun) (calls : List PoolCall) : PoolRun :=
  calls.foldl perform run

/-- How many calls of a kind there were. -/
def count (run : PoolRun) (kind : PoolEvent → Bool) : Nat := run.events.countP kind

end PoolRun

/-! ### What a call does -/

/-- A number that a 64-bit word holds is counted as it is. -/
theorem saturate_of_lt {count : Nat} (h : count < UInt64.size) : saturate count = count :=
  Nat.min_eq_left (Nat.le_sub_one_of_lt h)

namespace FramePool

variable {pool next : FramePool} {format : PixelFormat} {size : Canvas} {frame : Frame}

/-- What is handed out is the latest frame of its format and size, or is made if there is none. -/
theorem borrow_cases (h : pool.borrow format size = .ok (frame, next)) :
    (∃ rest, pool.bucket format size = frame :: rest ∧ next = { pool with
      counters := pool.counters.handOut (format.pooledBytes size)
      retained := pool.retained.eraseP (suits format size) }) ∨
    Frame.blank format size = .ok frame ∧
      next = { pool with counters := pool.counters.allocate (format.pooledBytes size) } := by
  unfold borrow at h
  dsimp only at h
  split at h
  · rename_i hbucket
    cases h
    exact .inl ⟨_, hbucket, rfl⟩
  · obtain ⟨_, hblank, hresult⟩ := Failing.bind_eq_ok_iff.mp h
    cases hresult
    exact .inr ⟨hblank, rfl⟩

/-- The first frame of a bucket stands behind kept frames of other formats or sizes. -/
theorem retained_split {rest : List Frame} (h : pool.bucket format size = frame :: rest) :
    ∃ front back, pool.retained = front ++ frame :: back ∧
      (∀ other ∈ front, ¬suits format size other) ∧
        pool.retained.eraseP (suits format size) = front ++ back := by
  obtain ⟨front, back, hretained, hfront, hsuits, -⟩ := List.filter_eq_cons_iff.mp h
  refine ⟨front, back, hretained, hfront, ?_⟩
  rw [hretained, List.eraseP_append_right _ hfront, List.eraseP_cons_of_pos hsuits]

end FramePool

/-- A well-formed frame counts for its packed bytes, and takes up no fewer. -/
theorem Frame.WellFormed.pooled_bytes {frame : Frame} (h : frame.WellFormed) :
    frame.format.frameBytes frame.size = .ok frame.pooledBytes ∧
      frame.pooledBytes ≤ frame.dataBytes := by
  obtain ⟨bytes, hbytes, hdata⟩ := h.frame_bytes
  have hpooled : frame.pooledBytes = bytes := by
    rw [Frame.pooledBytes, PixelFormat.pooledBytes, hbytes]
  rw [hpooled]
  exact ⟨hbytes, hdata⟩

/-- The frames that a sound pool keeps take up no fewer bytes than they count for. -/
theorem FramePool.Sound.pooled_bytes {pool : FramePool} (h : pool.Sound) :
    (pool.retained.map Frame.pooledBytes).sum ≤ pool.dataBytes :=
  List.sum_le_sum fun frame hframe ↦ (h frame hframe).pooled_bytes.2

/-! ### Where borrowed frames come from -/

namespace PoolEvent

variable {events : List PoolEvent} {event : PoolEvent} {origin : Nat → Nat} {now position : Nat}
  {frame : Frame}

/-- One more event leaves what happened in front of it. -/
theorem at_concat (events : List PoolEvent) (event : PoolEvent) (position : Nat) :
    reusedAt (events ++ [event]) position
        = (if position = events.length then event.reused? else reusedAt events position) ∧
      keptAt (events ++ [event]) position
        = if position = events.length then event.kept? else keptAt events position := by
  unfold reusedAt keptAt
  split
  · rename_i hlast
    rw [hlast, List.getElem?_concat_length]
    exact ⟨rfl, rfl⟩
  · rename_i hother
    rcases Nat.lt_or_ge position events.length with hposition | hposition
    · rw [List.getElem?_append_left hposition]
      exact ⟨rfl, rfl⟩
    · rw [List.getElem?_append_right hposition, List.getElem?_eq_none (by simp; omega),
        List.getElem?_eq_none hposition]
      exact ⟨rfl, rfl⟩

/-- Nothing is handed out beyond the last event. -/
theorem reused_lt (h : reusedAt events position = some frame) : position < events.length := by
  obtain ⟨_, hevent, -⟩ := Option.bind_eq_some_iff.mp h
  exact (List.getElem?_eq_some_iff.mp hevent).1

/-- Nothing is given back beyond the last event. -/
theorem kept_lt (h : keptAt events position = some frame) : position < events.length := by
  obtain ⟨_, hevent, -⟩ := Option.bind_eq_some_iff.mp h
  exact (List.getElem?_eq_some_iff.mp hevent).1

/-- Whether a frame is held in front of a position depends on what happened before. -/
theorem is_held_congr {other : Nat → Nat} (hnow : now ≤ events.length)
    (horigin : ∀ between < now, other between = origin between) (event : PoolEvent)
    (position : Nat) (frame : Frame) :
    IsHeld (events ++ [event]) other now position frame
      ↔ IsHeld events origin now position frame := by
  have hbefore {earlier : Nat} (h : earlier < now) : earlier ≠ events.length := by omega
  refine and_congr_right fun hposition ↦ and_congr ?_ ?_
  · rw [(at_concat ..).2, if_neg (hbefore hposition)]
  · refine forall₂_congr fun between hbetween ↦ ?_
    rw [(at_concat ..).1, if_neg (hbefore hbetween), horigin between hbetween]

/-- A frame that is still held has not been handed out, so that frames of different origins are
handed out at different positions. -/
theorem origins_of_latest
    (hsame : ∀ (position : Nat) (frame : Frame), reusedAt events position = some frame →
      keptAt events (origin position) = some frame)
    (hlatest : ∀ (position : Nat) (frame : Frame), reusedAt events position = some frame →
      IsGreatest {earlier | ∃ other, IsHeld events origin position earlier other ∧
        other.format = frame.format ∧ other.size = frame.size} (origin position)) :
    Origins events origin := by
  have hless {first second : Nat} (hfirst : (reusedAt events first).isSome)
      (hsecond : (reusedAt events second).isSome) (hsmaller : first < second) :
      origin first ≠ origin second := by
    obtain ⟨frame, hframe⟩ := Option.isSome_iff_exists.mp hsecond
    obtain ⟨⟨_, hheld, -⟩, -⟩ := hlatest second frame hframe
    exact hheld.2.2 first hsmaller hfirst
  refine ⟨hsame, hlatest, fun first second hfirst hsecond horigin ↦ ?_⟩
  rcases Nat.lt_trichotomy first second with hsmaller | hequal | hlarger
  · exact absurd horigin (hless hfirst hsecond hsmaller)
  · exact hequal
  · exact absurd horigin.symm (hless hsecond hfirst hlarger)

/-- What is handed out was given back before. -/
theorem Origins.lt (h : Origins events origin) (hreused : reusedAt events position = some frame) :
    origin position < position := by
  obtain ⟨⟨_, hheld, -⟩, -⟩ := h.latest position frame hreused
  exact hheld.1

/-- One more event keeps the origins, if the frame that it hands out has been given back last of
those that are held. -/
theorem Origins.concat (h : Origins events origin) {other : Nat → Nat}
    (hother : ∀ between < events.length, other between = origin between)
    (hevent : ∀ frame, event.reused? = some frame →
      keptAt events (other events.length) = some frame ∧
        IsGreatest {earlier | ∃ other, IsHeld events origin events.length earlier other ∧
          other.format = frame.format ∧ other.size = frame.size} (other events.length)) :
    Origins (events ++ [event]) other := by
  refine origins_of_latest (fun position frame hreused ↦ ?_) fun position frame hreused ↦ ?_
  · rw [(at_concat ..).1] at hreused
    rw [(at_concat ..).2]
    split at hreused
    · rename_i hlast
      rw [hlast]
      obtain ⟨hkept, -⟩ := hevent frame hreused
      rw [if_neg (kept_lt hkept).ne, hkept]
    · have hposition := reused_lt hreused
      have hearlier := h.lt hreused
      rw [hother position hposition, if_neg (by omega), h.same position frame hreused]
  · rw [(at_concat ..).1] at hreused
    have hheld {now : Nat} (hnow : now ≤ events.length) (earlier : Nat) (frame : Frame) :=
      is_held_congr hnow (fun between hbetween ↦ hother between (hbetween.trans_le hnow)) event
        earlier frame
    split at hreused
    · rename_i hlast
      rw [hlast]
      simp only [hheld le_rfl]
      exact (hevent frame hreused).2
    · have hposition := reused_lt hreused
      simp only [hheld hposition.le, hother position hposition]
      exact h.latest position frame hreused

/-- What is held after one more event was held before, or is given back, and is not handed out. -/
theorem Origins.is_held_concat (h : Origins events origin) {other : Nat → Nat}
    (hother : ∀ between < events.length, other between = origin between) :
    IsHeld (events ++ [event]) other (events ++ [event]).length position frame ↔
      (IsHeld events origin events.length position frame ∨
        position = events.length ∧ event.kept? = some frame) ∧
      (event.reused?.isSome → other events.length ≠ position) := by
  unfold IsHeld
  rw [List.length_append, List.length_singleton, (at_concat ..).2, Nat.forall_lt_succ_right]
  have hbefore (between : Nat) (hbetween : between < events.length) :
      ((reusedAt (events ++ [event]) between).isSome → other between ≠ position) ↔
        ((reusedAt events between).isSome → origin between ≠ position) := by
    rw [(at_concat ..).1, if_neg hbetween.ne, hother between hbetween]
  have hlast : reusedAt (events ++ [event]) events.length = event.reused? := by
    rw [(at_concat ..).1, if_pos rfl]
  rw [forall₂_congr hbefore, hlast]
  by_cases hposition : position = events.length
  · -- No frame that is handed out before has its origin here.
    have hfresh (between : Nat) (_ : between < events.length)
        (hreused : (reusedAt events between).isSome) : origin between ≠ position := by
      obtain ⟨frame, hframe⟩ := Option.isSome_iff_exists.mp hreused
      have hearlier := h.lt hframe
      omega
    simp only [hposition, if_true, Nat.lt_succ_self, Nat.lt_irrefl, false_and, false_or, true_and]
    rw [← hposition]
    exact ⟨fun hheld ↦ ⟨hheld.1, hheld.2.2⟩, fun hheld ↦ ⟨hheld.1, hposition ▸ hfresh, hheld.2⟩⟩
  · have hless : position < events.length + 1 ↔ position < events.length := by omega
    simp only [hposition, if_false, hless, false_and, or_false, and_assoc]

/-- What is held beside the positions at which it was given back, the latest first. -/
structure Held (events : List PoolEvent) (retained : List Frame) (held : List (Nat × Frame))
    (origin : Nat → Nat) : Prop where
  frames : held.map Prod.snd = retained
  falling : held.Pairwise fun later earlier ↦ earlier.1 < later.1
  mem : ∀ (position : Nat) (frame : Frame), (position, frame) ∈ held ↔
    IsHeld events origin events.length position frame
  origins : Origins events origin

namespace Held

variable {retained : List Frame} {held : List (Nat × Frame)}

/-- An event that keeps nothing and hands nothing out leaves what is held. -/
theorem quiet (h : Held events retained held origin) (hreused : event.reused? = none)
    (hkept : event.kept? = none) : Held (events ++ [event]) retained held origin where
  frames := h.frames
  falling := h.falling
  mem position frame := by
    rw [h.origins.is_held_concat fun _ _ ↦ rfl, h.mem]
    simp [hreused, hkept]
  origins := h.origins.concat (fun _ _ ↦ rfl) (by simp [hreused])

/-- A frame that is kept is held before all others. -/
theorem keep (h : Held events retained held origin) (hreused : event.reused? = none)
    (hkept : event.kept? = some frame) :
    Held (events ++ [event]) (frame :: retained) ((events.length, frame) :: held) origin where
  frames := congrArg (frame :: ·) h.frames
  falling := by
    refine List.pairwise_cons.mpr ⟨fun earlier hearlier ↦ ?_, h.falling⟩
    exact ((h.mem earlier.1 earlier.2).mp hearlier).1
  mem position other := by
    rw [h.origins.is_held_concat fun _ _ ↦ rfl, List.mem_cons, h.mem, Prod.mk.injEq]
    simp [hreused, hkept, or_comm, eq_comm]
  origins := h.origins.concat (fun _ _ ↦ rfl) (by simp [hreused])

/-- A frame that is handed out is held no longer. -/
theorem reuse {front back : List Frame} (h : Held events (front ++ frame :: back) held origin)
    (hreused : event.reused? = some frame) (hkept : event.kept? = none)
    (hfront : ∀ other ∈ front, ¬(other.format = frame.format ∧ other.size = frame.size)) :
    ∃ held origin, Held (events ++ [event]) (front ++ back) held origin := by
  obtain ⟨heldFront, rest, rfl, rfl, hrest⟩ := List.map_eq_append_iff.mp h.frames
  obtain ⟨⟨position, frame⟩, heldBack, rfl, rfl, rfl⟩ := List.map_eq_cons_iff.mp hrest
  dsimp only at h hreused hfront
  have hmem (earlier : Nat) (other : Frame) : IsHeld events origin events.length earlier other ↔
      (earlier, other) ∈ heldFront ∨ (earlier = position ∧ other = frame) ∨
        (earlier, other) ∈ heldBack := by
    rw [← h.mem, List.mem_append, List.mem_cons, Prod.mk.injEq]
  obtain ⟨hfallingFront, hfallingBack, hbetween⟩ := List.pairwise_append.mp h.falling
  obtain ⟨hbehind, hfallingBack⟩ := List.pairwise_cons.mp hfallingBack
  have hother (between : Nat) (hbetween : between < events.length) :
      Function.update origin events.length position between = origin between :=
    Function.update_of_ne hbetween.ne ..
  have hlast : Function.update origin events.length position events.length = position :=
    Function.update_self ..
  refine ⟨heldFront ++ heldBack, Function.update origin events.length position, ?_, ?_, ?_, ?_⟩
  · rw [List.map_append]
  · exact List.pairwise_append.mpr ⟨hfallingFront, hfallingBack, fun earlier hearlier other hother ↦
      hbetween earlier hearlier other (List.mem_cons_of_mem _ hother)⟩
  · intro earlier other
    rw [h.origins.is_held_concat hother, hlast, hmem, hreused, hkept, List.mem_append]
    have hfrontNe (h : (earlier, other) ∈ heldFront) : position < earlier :=
      hbetween _ h _ List.mem_cons_self
    have hbackNe (h : (earlier, other) ∈ heldBack) : earlier < position := hbehind _ h
    constructor
    · rintro (hheld | hheld)
      · exact ⟨.inl (.inl hheld), fun _ ↦ (hfrontNe hheld).ne⟩
      · exact ⟨.inl (.inr (.inr hheld)), fun _ ↦ (hbackNe hheld).ne'⟩
    · rintro ⟨(hheld | ⟨hsame, -⟩ | hheld) | ⟨-, hnone⟩, hne⟩
      · exact .inl hheld
      · exact absurd hsame.symm (hne rfl)
      · exact .inr hheld
      · cases hnone
  · refine h.origins.concat hother fun other hevent ↦ ?_
    rw [hreused, Option.some.injEq] at hevent
    have hheld := (hmem position frame).mpr (.inr (.inl ⟨rfl, rfl⟩))
    rw [hlast, ← hevent]
    refine ⟨hheld.2.1, ⟨frame, hheld, rfl, rfl⟩, ?_⟩
    rintro earlier ⟨kept, hkept, hkey⟩
    obtain hkept | ⟨rfl, -⟩ | hkept := (hmem earlier kept).mp hkept
    · exact absurd hkey (hfront kept (List.mem_map_of_mem hkept))
    · exact le_rfl
    · exact (hbehind _ hkept).le

end Held

end PoolEvent

/-! ### The invariant -/

namespace PoolRun

variable {run : PoolRun} {limits : PoolLimits} {event : PoolEvent} {next : FramePool}
  {format : PixelFormat} {size : Canvas} {frame : Frame}

/-- One more event is counted. -/
theorem note_count (kind : PoolEvent → Bool) :
    (run.note event next).count kind = run.count kind + if kind event then 1 else 0 := by
  rw [count, note, List.countP_append, List.countP_singleton]
  rfl

/-- The counters are those of what is kept and of what has happened. -/
structure Consistent (run : PoolRun) (limits : PoolLimits) : Prop where
  same_limits : run.pool.limits = limits
  sound : run.pool.Sound
  frames : run.pool.counters.retainedFrames = run.pool.retained.length
  byte_limit : run.pool.counters.retainedBytes ≤ limits.maxBytes
  bucket_limit : ∀ (format : PixelFormat) (size : Canvas),
    (run.pool.bucket format size).length ≤ limits.maxFramesPerBucket
  bytes : limits.maxBytes < UInt64.size - 1 ∨ run.peak < UInt64.size →
    run.pool.counters.retainedBytes = (run.pool.retained.map Frame.pooledBytes).sum
  asked : ∀ (format : PixelFormat) (size : Canvas) (frame : Frame) (made : Bool),
    .borrowed format size frame made ∈ run.events → frame.format = format ∧ frame.size = size
  allocated : run.pool.counters.allocatedFrames = run.count PoolEvent.isMade
  dropped : run.pool.counters.dropped = run.count PoolEvent.isDropped
  kept : run.count (·.kept?.isSome) = run.pool.retained.length + run.count (·.reused?.isSome)
  held : ∃ held origin, PoolEvent.Held run.events run.pool.retained held origin

/-- A pool that starts keeps nothing and has done nothing. -/
theorem consistent_start (limits : PoolLimits) : (start limits).Consistent limits where
  same_limits := rfl
  sound := nofun
  frames := rfl
  byte_limit := Nat.zero_le _
  bucket_limit _ _ := Nat.zero_le _
  bytes _ := rfl
  asked := nofun
  allocated := rfl
  dropped := rfl
  kept := rfl
  held := ⟨[], id, rfl, .nil, by simp [start, PoolEvent.IsHeld], nofun, nofun, nofun⟩

/-- What is handed out now and was handed out before is what was asked for. -/
theorem Consistent.asked_concat (h : run.Consistent limits)
    (hasked : ∀ (format : PixelFormat) (size : Canvas) (frame : Frame) (made : Bool),
      event = .borrowed format size frame made → frame.format = format ∧ frame.size = size)
    (format : PixelFormat) (size : Canvas) (frame : Frame) (made : Bool)
    (hmem : .borrowed format size frame made ∈ run.events ++ [event]) :
    frame.format = format ∧ frame.size = size := by
  rcases List.mem_append.mp hmem with hmem | hmem
  · exact h.asked format size frame made hmem
  · exact hasked format size frame made (List.mem_singleton.mp hmem).symm

/-- An event that keeps nothing and hands nothing out leaves the accounts of what is kept. -/
theorem Consistent.quiet (h : run.Consistent limits) (hreused : event.reused? = none)
    (hkept : event.kept? = none)
    (hasked : ∀ (format : PixelFormat) (size : Canvas) (frame : Frame) (made : Bool),
      event = .borrowed format size frame made → frame.format = format ∧ frame.size = size)
    {counters : PoolCounters} (hframes : counters.retainedFrames = run.pool.counters.retainedFrames)
    (hbytes : counters.retainedBytes = run.pool.counters.retainedBytes)
    (hallocated : counters.allocatedFrames
      = run.pool.counters.allocatedFrames + if event.isMade then 1 else 0)
    (hdropped : counters.dropped = run.pool.counters.dropped + if event.isDropped then 1 else 0) :
    (run.note event { run.pool with counters }).Consistent limits where
  same_limits := h.same_limits
  sound := h.sound
  frames := hframes.trans h.frames
  byte_limit := hbytes.trans_le h.byte_limit
  bucket_limit := h.bucket_limit
  bytes hmemory := hbytes.trans (h.bytes (hmemory.imp_right (le_max_left ..).trans_lt))
  asked := h.asked_concat hasked
  allocated := by rw [note_count, ← h.allocated, ← hallocated]; rfl
  dropped := by rw [note_count, ← h.dropped, ← hdropped]; rfl
  kept := by
    rw [note_count, note_count, hreused, hkept]
    exact h.kept
  held := by
    obtain ⟨held, origin, hheld⟩ := h.held
    exact ⟨held, origin, hheld.quiet hreused hkept⟩

/-- A bucket with room for a frame stays within its limit with that frame. -/
theorem Consistent.keep_bucket (h : run.Consistent limits)
    (hbucket : (run.pool.bucket frame.format frame.size).length < limits.maxFramesPerBucket)
    (format : PixelFormat) (size : Canvas) :
    ((frame :: run.pool.retained).filter (FramePool.suits format size)).length
      ≤ limits.maxFramesPerBucket := by
  by_cases hsuits : FramePool.suits format size frame
  · have hkey := hsuits
    simp only [FramePool.suits, Bool.and_eq_true, decide_eq_true_eq] at hkey
    obtain ⟨rfl, rfl⟩ := hkey
    rw [List.filter_cons_of_pos hsuits]
    exact hbucket
  · rw [List.filter_cons_of_neg hsuits]
    exact h.bucket_limit format size

/-- The bytes of a frame are added to those of the others, unless a 64-bit word is too small. -/
theorem Consistent.keep_bytes (h : run.Consistent limits)
    (hsound : FramePool.Sound { run.pool with retained := frame :: run.pool.retained })
    (hbytes : saturate (run.pool.counters.retainedBytes + frame.pooledBytes) ≤ limits.maxBytes)
    (hmemory : limits.maxBytes < UInt64.size - 1 ∨
      max run.peak ((frame :: run.pool.retained).map Frame.dataBytes).sum < UInt64.size) :
    saturate (run.pool.counters.retainedBytes + frame.pooledBytes)
      = ((frame :: run.pool.retained).map Frame.pooledBytes).sum := by
  have hsum := h.bytes (hmemory.imp_right (le_max_left ..).trans_lt)
  have htotal : ((frame :: run.pool.retained).map Frame.pooledBytes).sum
      = run.pool.counters.retainedBytes + frame.pooledBytes := by
    rw [List.map_cons, List.sum_cons, Nat.add_comm, hsum]
  refine (saturate_of_lt ?_).trans htotal.symm
  rcases hmemory with hlimit | hpeak
  · unfold saturate at hbytes
    omega
  · exact (htotal.symm.trans_le hsound.pooled_bytes).trans_lt ((le_max_right ..).trans_lt hpeak)

/-- A frame that is kept is counted. -/
theorem Consistent.keep (h : run.Consistent limits) (hframe : frame.WellFormed)
    (hroom : run.pool.hasRoom frame)
    (hcount : run.pool.counters.retainedFrames + 1 < UInt64.size) :
    (run.note (.released frame false) { run.pool with
      counters := run.pool.counters.retain frame.pooledBytes
      retained := frame :: run.pool.retained }).Consistent limits := by
  simp only [FramePool.hasRoom, Bool.and_eq_true, decide_eq_true_eq, h.same_limits] at hroom
  obtain ⟨⟨-, hbytes⟩, hbucket⟩ := hroom
  have hsound : FramePool.Sound { run.pool with
      counters := run.pool.counters.retain frame.pooledBytes
      retained := frame :: run.pool.retained } := List.forall_mem_cons.mpr ⟨hframe, h.sound⟩
  refine {
    same_limits := h.same_limits
    sound := hsound
    frames := ?_
    byte_limit := hbytes
    bucket_limit := h.keep_bucket hbucket
    bytes := h.keep_bytes hsound hbytes
    asked := h.asked_concat nofun
    allocated := (note_count _).symm ▸ h.allocated
    dropped := (note_count _).symm ▸ h.dropped
    kept := ?_
    held := ?_ }
  · show saturate (run.pool.counters.retainedFrames + 1) = run.pool.retained.length + 1
    rw [saturate_of_lt hcount, h.frames]
  · rw [note_count, note_count, h.kept]
    simp [PoolEvent.kept?, PoolEvent.reused?, note]
    omega
  · obtain ⟨held, origin, hheld⟩ := h.held
    exact ⟨_, _, hheld.keep rfl rfl⟩

/-- A frame that is handed out is counted no longer. -/
theorem Consistent.reuse (h : run.Consistent limits) {rest : List Frame}
    (hbucket : run.pool.bucket format size = frame :: rest) :
    (run.note (.borrowed format size frame false) { run.pool with
      counters := run.pool.counters.handOut (format.pooledBytes size)
      retained := run.pool.retained.eraseP (FramePool.suits format size) }).Consistent limits := by
  obtain ⟨front, back, hretained, hfront, herase⟩ := FramePool.retained_split hbucket
  obtain ⟨-, rfl, rfl⟩ := FramePool.suits_of_bucket hbucket
  have hfewer : (front ++ back).Sublist run.pool.retained :=
    hretained ▸ (List.sublist_cons_self frame back).append_left front
  rw [herase]
  refine {
    same_limits := h.same_limits
    sound := fun other hother ↦ h.sound other (hfewer.mem hother)
    frames := ?_
    byte_limit := (Nat.sub_le ..).trans h.byte_limit
    bucket_limit := fun format size ↦
      (hfewer.filter _).length_le.trans (h.bucket_limit format size)
    bytes := fun hmemory ↦ ?_
    asked := h.asked_concat fun _ _ _ _ hevent ↦ by cases hevent; exact ⟨rfl, rfl⟩
    allocated := (note_count _).symm ▸ h.allocated
    dropped := (note_count _).symm ▸ h.dropped
    kept := ?_
    held := ?_ }
  · show run.pool.counters.retainedFrames - 1 = (front ++ back).length
    rw [h.frames, hretained, List.length_append, List.length_append, List.length_cons,
      ← Nat.add_assoc, Nat.add_sub_cancel]
  · have hsum := h.bytes (hmemory.imp_right (le_max_left ..).trans_lt)
    show run.pool.counters.retainedBytes - frame.pooledBytes
      = ((front ++ back).map Frame.pooledBytes).sum
    rw [hsum, hretained]
    simp only [List.map_append, List.sum_append, List.map_cons, List.sum_cons]
    omega
  · rw [note_count, note_count, h.kept, hretained]
    simp [PoolEvent.kept?, PoolEvent.reused?, note]
    omega
  · obtain ⟨held, origin, hheld⟩ := h.held
    rw [hretained] at hheld
    refine hheld.reuse rfl rfl fun other hother hkey ↦ hfront other hother ?_
    simp [FramePool.suits, hkey]

/-- Every call is noted. -/
theorem perform_length (run : PoolRun) (call : PoolCall) :
    (run.perform call).events.length = run.events.length + 1 := by
  unfold perform
  split
  · split <;> exact List.length_append
  · exact List.length_append

/-- No counter has reached the largest 64-bit word before that many calls. -/
theorem Consistent.counters_lt (h : run.Consistent limits)
    (hcount : run.events.length + 1 < UInt64.size) :
    run.pool.counters.allocatedFrames + 1 < UInt64.size ∧
      run.pool.counters.dropped + 1 < UInt64.size ∧
        run.pool.counters.retainedFrames + 1 < UInt64.size := by
  have hevents {counter : Nat} (hcounter : counter ≤ run.events.length) :
      counter + 1 < UInt64.size := (Nat.add_le_add_right hcounter 1).trans_lt hcount
  have hkept : run.pool.retained.length ≤ run.count (·.kept?.isSome) :=
    (Nat.le_add_right ..).trans_eq h.kept.symm
  exact ⟨hevents (h.allocated.trans_le List.countP_le_length),
    hevents (h.dropped.trans_le List.countP_le_length),
    hevents (h.frames.trans_le (hkept.trans List.countP_le_length))⟩

/-- A request for a frame keeps the accounts. -/
theorem Consistent.borrow (h : run.Consistent limits) (format : PixelFormat) (size : Canvas)
    (hcount : run.events.length + 1 < UInt64.size) :
    (run.perform (.borrow format size)).Consistent limits := by
  cases hborrow : run.pool.borrow format size with
  | error error =>
      simp only [PoolRun.perform, hborrow]
      exact h.quiet rfl rfl (by simp) rfl rfl rfl rfl
  | ok handed =>
      obtain ⟨frame, next⟩ := handed
      obtain ⟨rest, hbucket, rfl⟩ | ⟨hblank, rfl⟩ := FramePool.borrow_cases hborrow
      · have hflag : decide (run.pool.counters.allocatedFrames
            < (run.pool.counters.handOut (format.pooledBytes size)).allocatedFrames) = false :=
          decide_eq_false (Nat.lt_irrefl _)
        simp only [PoolRun.perform, hborrow, hflag]
        exact h.reuse hbucket
      · have hnext : saturate (run.pool.counters.allocatedFrames + 1)
            = run.pool.counters.allocatedFrames + 1 := saturate_of_lt (h.counters_lt hcount).1
        have hflag : decide (run.pool.counters.allocatedFrames
            < (run.pool.counters.allocate (format.pooledBytes size)).allocatedFrames) = true :=
          decide_eq_true (Nat.lt_of_succ_le hnext.ge)
        obtain ⟨-, hkey⟩ := Frame.blank_ok hblank
        simp only [PoolRun.perform, hborrow, hflag]
        refine h.quiet rfl rfl (fun _ _ _ _ hevent ↦ ?_) rfl rfl hnext rfl
        cases hevent
        exact hkey

/-- A well-formed frame that is given back keeps the accounts. -/
theorem Consistent.release (h : run.Consistent limits) (hframe : frame.WellFormed)
    (hcount : run.events.length + 1 < UInt64.size) :
    (run.perform (.release frame)).Consistent limits := by
  obtain ⟨-, hdropped, hkept⟩ := h.counters_lt hcount
  by_cases hroom : run.pool.hasRoom frame
  · have hflag : decide (run.pool.counters.dropped
        < (run.pool.counters.retain (frame.format.pooledBytes frame.size)).dropped) = false :=
      decide_eq_false (Nat.lt_irrefl _)
    simp only [PoolRun.perform, FramePool.release, hroom, if_true, hflag]
    exact h.keep hframe hroom hkept
  · have hnext : saturate (run.pool.counters.dropped + 1) = run.pool.counters.dropped + 1 :=
      saturate_of_lt hdropped
    have hflag : decide (run.pool.counters.dropped < run.pool.counters.drop.dropped) = true :=
      decide_eq_true (Nat.lt_of_succ_le hnext.ge)
    simp only [PoolRun.perform, FramePool.release, hroom, Bool.false_eq_true, if_false, hflag]
    exact h.quiet rfl rfl (by simp) rfl rfl rfl hnext

/-- Every call keeps the accounts. -/
theorem Consistent.perform (h : run.Consistent limits) {call : PoolCall}
    (hcall : ∀ frame, call = .release frame → frame.WellFormed)
    (hcount : run.events.length + 1 < UInt64.size) : (run.perform call).Consistent limits := by
  cases call with
  | borrow format size => exact h.borrow format size hcount
  | release frame => exact h.release (hcall frame rfl) hcount

/-- So do several calls. -/
theorem Consistent.perform_all {calls : List PoolCall} (h : run.Consistent limits)
    (hcalls : ∀ frame, .release frame ∈ calls → frame.WellFormed)
    (hcount : run.events.length + calls.length < UInt64.size) :
    (run.performAll calls).Consistent limits := by
  induction calls generalizing run with
  | nil => exact h
  | cons call calls ih =>
      rw [List.length_cons] at hcount
      have hlength := run.perform_length call
      refine ih (h.perform (fun frame hframe ↦ hcalls frame ?_) (by omega))
        (fun frame hframe ↦ hcalls frame (List.mem_cons_of_mem _ hframe)) (by omega)
      exact hframe ▸ List.mem_cons_self

/-! ### The main result -/

/-- What the counters of a pool, its limits and the frames that it hands out come to. -/
structure Accounted (run : PoolRun) (limits : PoolLimits) : Prop where
  /-- The kept frames are those of all buckets. -/
  retained_frames : run.pool.counters.retainedFrames
    = ∑ key ∈ run.pool.keys, (run.pool.bucket key.1 key.2).length
  /-- A kept frame counts for its packed bytes. -/
  packed : ∀ frame ∈ run.pool.retained,
    frame.format.frameBytes frame.size = .ok frame.pooledBytes
  /-- The kept bytes are those of all buckets. Only a pool without a limit relies on it that the
  frames that are there at a time do not take up more memory than a 64-bit word can address. -/
  retained_bytes : limits.maxBytes < UInt64.size - 1 ∨ run.peak < UInt64.size →
    run.pool.counters.retainedBytes
      = ∑ key ∈ run.pool.keys, ((run.pool.bucket key.1 key.2).map Frame.pooledBytes).sum
  /-- There are no more bytes than allowed. -/
  byte_limit : run.pool.counters.retainedBytes ≤ limits.maxBytes
  /-- There are no more frames in a bucket than allowed. -/
  bucket_limit : ∀ (format : PixelFormat) (size : Canvas),
    (run.pool.bucket format size).length ≤ limits.maxFramesPerBucket
  /-- A frame in a bucket has its format and size. -/
  bucket : ∀ (format : PixelFormat) (size : Canvas), ∀ frame ∈ run.pool.bucket format size,
    frame.format = format ∧ frame.size = size
  /-- A frame that was handed out has the format and size that were asked for. -/
  asked : ∀ (format : PixelFormat) (size : Canvas) (frame : Frame) (made : Bool),
    .borrowed format size frame made ∈ run.events → frame.format = format ∧ frame.size = size
  /-- The frames that were made are counted. -/
  allocated : run.pool.counters.allocatedFrames = run.count PoolEvent.isMade
  /-- The frames that were dropped are counted. -/
  dropped : run.pool.counters.dropped = run.count PoolEvent.isDropped
  /-- The frames that were given back and not dropped are kept or were handed out again. -/
  balance : run.count PoolEvent.isRelease - run.pool.counters.dropped
    = run.pool.counters.retainedFrames
      + (run.count PoolEvent.isBorrow - run.pool.counters.allocatedFrames)
  /-- A frame that was handed out and not made is the one that was given back last. -/
  latest : ∃ origin, PoolEvent.Origins run.events origin
  /-- When no frame can be handed out, nothing changes. -/
  failed : ∀ (format : PixelFormat) (size : Canvas) (error : Error),
    run.pool.borrow format size = .error error →
      (run.perform (.borrow format size)).pool = run.pool

/-- A frame that is given back is dropped or kept. -/
theorem count_releases (run : PoolRun) : run.count PoolEvent.isRelease
    = run.count PoolEvent.isDropped + run.count (·.kept?.isSome) := by
  unfold count
  induction run.events with
  | nil => rfl
  | cons event events ih =>
      rw [List.countP_cons, List.countP_cons, List.countP_cons, ih]
      rcases event with _ | _ | ⟨_, _ | _⟩ <;>
        simp [PoolEvent.isRelease, PoolEvent.isDropped, PoolEvent.kept?] <;> omega

/-- A frame that is handed out was made or kept. -/
theorem count_borrows (run : PoolRun) : run.count PoolEvent.isBorrow
    = run.count PoolEvent.isMade + run.count (·.reused?.isSome) := by
  unfold count
  induction run.events with
  | nil => rfl
  | cons event events ih =>
      rw [List.countP_cons, List.countP_cons, List.countP_cons, ih]
      rcases event with ⟨_, _, _, _ | _⟩ | _ | _ <;>
        simp [PoolEvent.isBorrow, PoolEvent.isMade, PoolEvent.reused?] <;> omega

/-- A sum over frames is one over their formats and sizes. -/
theorem sum_by_key (value : Frame → Nat) {keys : Finset (PixelFormat × Canvas)}
    {frames : List Frame} (hkeys : ∀ frame ∈ frames, (frame.format, frame.size) ∈ keys) :
    ∑ key ∈ keys, ((frames.filter (FramePool.suits key.1 key.2)).map value).sum
      = (frames.map value).sum := by
  induction frames with
  | nil => exact Finset.sum_const_zero
  | cons frame frames ih =>
      have hfirst (key : PixelFormat × Canvas) :
          (((frame :: frames).filter (FramePool.suits key.1 key.2)).map value).sum
            = (if key = (frame.format, frame.size) then value frame else 0)
              + ((frames.filter (FramePool.suits key.1 key.2)).map value).sum := by
        by_cases hkey : key = (frame.format, frame.size)
        · rw [List.filter_cons_of_pos (by simp [FramePool.suits, hkey]), if_pos hkey]
          rfl
        · have hother : ¬FramePool.suits key.1 key.2 frame := by
            simp only [FramePool.suits, Bool.and_eq_true, decide_eq_true_eq]
            exact fun hsame ↦ hkey (Prod.ext hsame.1.symm hsame.2.symm)
          rw [List.filter_cons_of_neg hother, if_neg hkey, Nat.zero_add]
      rw [Finset.sum_congr rfl fun key _ ↦ hfirst key, Finset.sum_add_distrib,
        Finset.sum_ite_eq', if_pos (hkeys frame List.mem_cons_self),
        ih fun other hother ↦ hkeys other (List.mem_cons_of_mem _ hother)]
      rfl

/-- The frames of a pool are those of its buckets. -/
theorem sum_buckets (pool : FramePool) (value : Frame → Nat) :
    ∑ key ∈ pool.keys, ((pool.bucket key.1 key.2).map value).sum
      = (pool.retained.map value).sum :=
  sum_by_key value fun _ hframe ↦ List.mem_toFinset.mpr (List.mem_map_of_mem hframe)

/-- However frames are borrowed and given back, the accounts of a pool are right. -/
theorem accounts_right (limits : PoolLimits) {calls : List PoolCall}
    (hframes : ∀ frame, .release frame ∈ calls → frame.WellFormed)
    (hcount : calls.length < UInt64.size) :
    ((start limits).performAll calls).Accounted limits := by
  have h := (consistent_start limits).perform_all hframes ((Nat.zero_add _).trans_lt hcount)
  set run := (start limits).performAll calls
  obtain ⟨_, origin, hheld⟩ := h.held
  refine {
    retained_frames := ?_
    packed := fun frame hframe ↦ (h.sound frame hframe).pooled_bytes.1
    retained_bytes := fun hmemory ↦ (h.bytes hmemory).trans (sum_buckets ..).symm
    byte_limit := h.byte_limit
    bucket_limit := h.bucket_limit
    bucket := fun format size frame hframe ↦ ?_
    asked := h.asked
    allocated := h.allocated
    dropped := h.dropped
    balance := ?_
    latest := ⟨origin, hheld.origins⟩
    failed := fun format size error hborrow ↦ ?_ }
  · have hsum := sum_buckets run.pool fun _ ↦ 1
    simp only [List.map_const', List.sum_replicate_nat, Nat.mul_one] at hsum
    exact h.frames.trans hsum.symm
  · simpa [FramePool.suits] using (List.mem_filter.mp hframe).2
  · rw [count_releases, count_borrows, h.dropped, h.allocated, h.frames, h.kept]
    omega
  · simp only [perform, hborrow]
    rfl

/-- Two frames are kept and a third one dropped, and then three are borrowed. -/
def spotCalls : List PoolCall :=
  [.release (.grayRow 1 #[1]), .release (.grayRow 1 #[2]), .release (.grayRow 1 #[3]),
    .borrow .gray8 ⟨1, 1⟩, .borrow .gray8 ⟨1, 1⟩, .borrow .gray8 ⟨1, 1⟩]

/-- The frames come back in reverse order, and then a blank one is made. -/
theorem spot_accounts :
    (∀ frame, .release frame ∈ spotCalls → frame.WellFormed) ∧ spotCalls.length < UInt64.size ∧
      ((start ⟨9, 2⟩).performAll spotCalls).events = [.released (.grayRow 1 #[1]) false,
        .released (.grayRow 1 #[2]) false, .released (.grayRow 1 #[3]) true,
        .borrowed .gray8 ⟨1, 1⟩ (.grayRow 1 #[2]) false,
        .borrowed .gray8 ⟨1, 1⟩ (.grayRow 1 #[1]) false,
        .borrowed .gray8 ⟨1, 1⟩ (.grayRow 1 #[0]) true] ∧
      ((start ⟨9, 2⟩).performAll spotCalls).Accounted ⟨9, 2⟩ := by
  have hframes (frame : Frame) (hmem : .release frame ∈ spotCalls) : frame.WellFormed := by
    simp only [spotCalls, List.mem_cons, PoolCall.release.injEq, reduceCtorEq, List.not_mem_nil,
      or_false] at hmem
    rcases hmem with rfl | rfl | rfl <;>
      exact Frame.gray_row_formed (by decide) (by decide) (by decide)
  exact ⟨hframes, by decide, rfl, accounts_right ⟨9, 2⟩ hframes (by decide)⟩

end PoolRun

end Panorama
