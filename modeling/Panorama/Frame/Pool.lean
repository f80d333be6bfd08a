import Panorama.Frame.Basic

/-!
# Frame pools

A pool keeps frames that are no longer needed and hands them out again, the latest one first. It
keeps a limited number of bytes and a limited number of frames of every format and size; a frame
beyond these limits is dropped. The contents of a frame that is handed out are those it was given
back with.
-/

namespace Panorama

/-- The largest 64-bit word, or the number if it is smaller. -/
def saturate (count : Nat) : Nat := min count (UInt64.size - 1)

/-- Bytes that a frame counts for in a pool. -/
def PixelFormat.pooledBytes (format : PixelFormat) (size : Canvas) : Nat :=
  match format.frameBytes size with
  | .ok bytes => bytes
  | .error _ => UInt64.size - 1

/-- How much a pool may keep. -/
structure PoolLimits where
  /-- Bytes in total. -/
  maxBytes : Nat
  /-- Frames of one format and size. -/
  maxFramesPerBucket : Nat
  deriving DecidableEq, Repr

/-- The limits that hold unless others are configured: 128 MiB and four frames. -/
def PoolLimits.standard : PoolLimits := ⟨134217728, 4⟩

/-- What a pool keeps and what it has done so far. The counters stop at the largest 64-bit word. -/
structure PoolCounters where
  /-- Kept frames. -/
  retainedFrames : Nat
  /-- Bytes of the kept frames. -/
  retainedBytes : Nat
  /-- Frames that had to be made. -/
  allocatedFrames : Nat
  /-- Bytes of the frames that had to be made. -/
  allocatedBytes : Nat
  /-- Frames that were given back and not kept. -/
  dropped : Nat
  deriving DecidableEq, Repr

namespace PoolCounters

/-- Nothing has happened. -/
def zero : PoolCounters := ⟨0, 0, 0, 0, 0⟩

/-- Count a kept frame. -/
def retain (counters : PoolCounters) (bytes : Nat) : PoolCounters :=
  { counters with
    retainedFrames := saturate (counters.retainedFrames + 1)
    retainedBytes := saturate (counters.retainedBytes + bytes) }

/-- Count a kept frame that is handed out. -/
def handOut (counters : PoolCounters) (bytes : Nat) : PoolCounters :=
  { counters with
    retainedFrames := counters.retainedFrames - 1
    retainedBytes := counters.retainedBytes - bytes }

/-- Count a frame that is made. -/
def allocate (counters : PoolCounters) (bytes : Nat) : PoolCounters :=
  { counters with
    allocatedFrames := saturate (counters.allocatedFrames + 1)
    allocatedBytes := saturate (counters.allocatedBytes + bytes) }

/-- Count a frame that is dropped. -/
def drop (counters : PoolCounters) : PoolCounters :=
  { counters with dropped := saturate (counters.dropped + 1) }

end PoolCounters

/-- A store of frames for reuse. -/
structure FramePool where
  /-- How much may be kept. -/
  limits : PoolLimits
  /-- What has happened. -/
  counters : PoolCounters
  /-- The kept frames, the latest one first. -/
  retained : List Frame
  deriving DecidableEq

namespace FramePool

/-- A pool that keeps nothing yet. -/
def start (limits : PoolLimits) : FramePool := ⟨limits, .zero, []⟩

/-- Whether a frame has a format and a size. -/
def suits (format : PixelFormat) (size : Canvas) (frame : Frame) : Bool :=
  frame.format = format && frame.size = size

/-- The kept frames of a format and size, the latest one first. -/
def bucket (pool : FramePool) (format : PixelFormat) (size : Canvas) : List Frame :=
  pool.retained.filter (suits format size)

/-- Hand out the latest frame of a format and size, or make one. -/
def borrow (pool : FramePool) (format : PixelFormat) (size : Canvas) :
    Result (Frame × FramePool) :=
  let bytes := format.pooledBytes size
  match pool.bucket format size with
  | frame :: _ =>
    .ok (frame, { pool with
      counters := pool.counters.handOut bytes
      retained := pool.retained.eraseP (suits format size) })
  | [] => do
    let frame ← Frame.blank format size
    return (frame, { pool with counters := pool.counters.allocate bytes })

/-- Hand out frames of several sizes in order. After a refusal the frames before it are lost. -/
def borrowAll (pool : FramePool) (format : PixelFormat) :
    List Canvas → Result (List Frame) × FramePool
  | [] => (.ok [], pool)
  | size :: rest =>
    match pool.borrow format size with
    | .error error => (.error error, pool)
    | .ok (frame, pool) =>
      let (frames, pool) := pool.borrowAll format rest
      (frames.map (frame :: ·), pool)

/-- Whether the limits allow to keep one more frame. -/
def hasRoom (pool : FramePool) (frame : Frame) : Bool :=
  pool.limits.maxBytes != 0 &&
    saturate (pool.counters.retainedBytes + frame.format.pooledBytes frame.size)
      ≤ pool.limits.maxBytes &&
    (pool.bucket frame.format frame.size).length < pool.limits.maxFramesPerBucket

/-- Give a frame back. -/
def release (pool : FramePool) (frame : Frame) : FramePool :=
  if pool.hasRoom frame then
    { pool with
      counters := pool.counters.retain (frame.format.pooledBytes frame.size)
      retained := frame :: pool.retained }
  else { pool with counters := pool.counters.drop }

/-- Give several frames back in order. -/
def releaseAll (pool : FramePool) (frames : List Frame) : FramePool :=
  frames.foldl release pool

end FramePool

end Panorama
