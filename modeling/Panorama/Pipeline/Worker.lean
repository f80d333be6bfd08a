import Panorama.Stitcher

/-!
# Pipeline workers

A worker owns a stitcher and handles jobs one by one in the order in which they were sent, at
moments of its own choosing. `Worker.step` is one such moment. Waiting for a result lets it handle
jobs until there is one. A broken precondition stops a worker for good.
-/

namespace Panorama

/-- What a worker is asked to do. -/
inductive Job where
  /-- Compose the frame set with a number. -/
  | compose (number : Nat) (frames : List Frame)
  /-- Take frames back for reuse. -/
  | recycle (frames : List Frame)
  deriving DecidableEq

/-- What has come of composing a frame set. -/
structure Composed where
  /-- The number of the frame set. -/
  number : Nat
  /-- The output frames, or why there are none. -/
  result : Result StitchOutput
  /-- The frame set itself. -/
  inputs : List Frame
  /-- The counters of the pool right after. -/
  pool : PoolCounters

/-- A stitcher with jobs to do and results to collect, both in order. -/
structure Worker where
  /-- What handles the jobs. -/
  stitcher : Stitcher
  /-- Jobs that were sent and not handled. -/
  jobs : List Job
  /-- Results that were not collected. -/
  results : List Composed
  /-- Whether it has stopped. -/
  isStopped : Bool

namespace Worker

/-- A worker without jobs. -/
def start (stitcher : Stitcher) : Worker := ⟨stitcher, [], [], false⟩

/-- Send a job to a worker that has not stopped. -/
def send (worker : Worker) (job : Job) : Result Worker :=
  if worker.isStopped then .error (.misused .workerGone)
  else .ok { worker with jobs := worker.jobs ++ [job] }

/-- Handle one job. When the worker stops, the jobs behind it are lost. -/
def handle (worker : Worker) : Job → Worker
  | .recycle frames => { worker with stitcher := worker.stitcher.recycle frames }
  | .compose number frames =>
    let finished (result : Result StitchOutput) (stitcher : Stitcher) : Worker :=
      let composed : Composed := ⟨number, result, frames, stitcher.pool.counters⟩
      { worker with stitcher, results := worker.results ++ [composed] }
    match worker.stitcher.process frames with
    | (.ok output, stitcher) => finished (.ok output) stitcher
    | (.error (.refused error), stitcher) => finished (.error error) stitcher
    | (.error .fault, stitcher) => { worker with stitcher, jobs := [], isStopped := true }

/-- Handle the oldest job, if there is one. -/
def step (worker : Worker) : Worker :=
  match worker.jobs with
  | [] => worker
  | job :: jobs => { worker with jobs }.handle job

/-- The oldest result, after at most `steps` more jobs. -/
def receiveWithin : Nat → Worker → Option Composed × Worker
  | steps, worker =>
    match worker.results, steps with
    | composed :: results, _ => (some composed, { worker with results })
    | [], 0 => (none, worker)
    | [], steps + 1 => receiveWithin steps worker.step

/-- Wait for the oldest result. There is none if the worker has stopped. -/
def receive (worker : Worker) : Option Composed × Worker :=
  receiveWithin worker.jobs.length worker

end Worker

end Panorama
