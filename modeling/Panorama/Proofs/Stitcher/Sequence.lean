import Mathlib
import Panorama.Stitcher

/-!
# Calls on a stitcher, one after the other

What a stitcher does when it is told to process and to take back frames in some order. Every
processed frame set is a cycle with an outcome of its own; what is taken back leaves no outcome and
shows in the counters only.
-/

namespace Panorama

/-- Something a stitcher is told to do. -/
inductive StitcherCall where
  /-- Process a frame set. -/
  | process (frames : List Frame)
  /-- Take frames back for reuse. -/
  | recycle (frames : List Frame)

/-- A processed frame set. -/
structure StitcherCycle where
  /-- The frame set. -/
  frames : List Frame
  /-- What has become of it. -/
  outcome : Outcome StitchOutput
  /-- The counters of the pool right after. -/
  pool : PoolCounters

/-- The frame sets to process, in order. -/
def StitcherCall.frameSets (calls : List StitcherCall) : List (List Frame) :=
  calls.filterMap fun
    | process frames => some frames
    | recycle _ => none

/-- Further calls have their frame sets behind the earlier ones. -/
theorem StitcherCall.frame_sets_append (calls later : List StitcherCall) :
    frameSets (calls ++ later) = frameSets calls ++ frameSets later :=
  List.filterMap_append

namespace Stitcher

open StitcherCall (frameSets)

/-- The stitcher after a call. -/
def perform (stitcher : Stitcher) : StitcherCall → Stitcher
  | .process frames => (stitcher.process frames).2
  | .recycle frames => stitcher.recycle frames

/-- The stitcher after several calls. -/
def performAll (stitcher : Stitcher) (calls : List StitcherCall) : Stitcher :=
  calls.foldl perform stitcher

/-- What processing a frame set comes to. -/
def cycle (stitcher : Stitcher) (frames : List Frame) : StitcherCycle where
  frames := frames
  outcome := (stitcher.process frames).1
  pool := (stitcher.process frames).2.pool.counters

/-- The cycles of several calls, in order. -/
def cycles (stitcher : Stitcher) : List StitcherCall → List StitcherCycle
  | [] => []
  | .process frames :: calls =>
    stitcher.cycle frames :: (stitcher.perform (.process frames)).cycles calls
  | .recycle frames :: calls => (stitcher.perform (.recycle frames)).cycles calls

/-- Further calls add their cycles behind the earlier ones. -/
theorem cycles_append (stitcher : Stitcher) (calls later : List StitcherCall) :
    stitcher.cycles (calls ++ later)
      = stitcher.cycles calls ++ (stitcher.performAll calls).cycles later := by
  induction calls generalizing stitcher with
  | nil => rfl
  | cons call calls ih =>
      cases call with
      | process frames =>
          exact congrArg (stitcher.cycle frames :: ·) (ih (stitcher.perform (.process frames)))
      | recycle frames =>
          exact ih (stitcher.perform (.recycle frames))

/-- One more frame set to process is one more cycle. -/
theorem cycles_concat_process (stitcher : Stitcher) (calls : List StitcherCall)
    (frames : List Frame) : stitcher.cycles (calls ++ [.process frames])
      = stitcher.cycles calls ++ [(stitcher.performAll calls).cycle frames] :=
  stitcher.cycles_append calls [.process frames]

/-- One more call changes the stitcher once more. -/
theorem perform_all_concat (stitcher : Stitcher) (calls : List StitcherCall) (call : StitcherCall) :
    stitcher.performAll (calls ++ [call]) = (stitcher.performAll calls).perform call :=
  List.foldl_concat ..

/-- There is one cycle per frame set to process, and it has that frame set. -/
theorem cycles_frames (stitcher : Stitcher) (calls : List StitcherCall) :
    (stitcher.cycles calls).map StitcherCycle.frames = frameSets calls := by
  induction calls generalizing stitcher with
  | nil => rfl
  | cons call calls ih =>
      cases call with
      | process frames =>
          exact congrArg (frames :: ·) (ih (stitcher.perform (.process frames)))
      | recycle frames =>
          exact ih (stitcher.perform (.recycle frames))

/-- There are as many cycles as frame sets to process. -/
theorem cycles_length (stitcher : Stitcher) (calls : List StitcherCall) :
    (stitcher.cycles calls).length = (frameSets calls).length := by
  rw [← stitcher.cycles_frames calls, List.length_map]

end Stitcher

end Panorama
