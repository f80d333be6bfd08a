import Panorama.Pipeline.Slots
import Panorama.Pipeline.Worker

/-!
# Pipelines

A pipeline composes frame sets beside its host: the host submits one frame set and retrieves what
has become of the one before. Composition happens in a worker, whose pace the host cannot see.
-/

namespace Panorama

/-- A composed frame set. -/
structure StitchedFrame where
  /-- The number of the frame set. -/
  number : Nat
  /-- The output frames with the preview. -/
  output : StitchOutput
  /-- The frames that were submitted. -/
  inputs : List Frame
  deriving DecidableEq

/-- What a pipeline has done so far. Runs stay below the `2 ^ 64` frame sets that a word can
count. -/
structure PipelineStats where
  /-- Frame sets taken in. -/
  submitted : Nat
  /-- Frame sets given out. -/
  retrieved : Nat
  /-- The counters of the pool right after the last frame set that was given out. -/
  pool : PoolCounters
  deriving DecidableEq, Repr

/-- A stitcher that works one frame set ahead. -/
structure Pipeline where
  /-- The frame sets that are held. -/
  slots : PipelineSlots
  /-- What composes them. -/
  worker : Worker
  /-- Number of sources. -/
  inputs : Nat
  /-- What has been done. -/
  stats : PipelineStats

namespace Pipeline

/-- A pipeline around a stitcher. -/
def start (stitcher : Stitcher) : Pipeline where
  slots := .start
  worker := .start stitcher
  inputs := stitcher.compositor.inputs.length
  stats := ⟨0, 0, .zero⟩

/-- How full the pipeline is. -/
def state (pipeline : Pipeline) : PipelineState := pipeline.slots.state

/-- Let the worker handle one job. -/
def work (pipeline : Pipeline) : Pipeline :=
  { pipeline with worker := pipeline.worker.step }

/-- Submit a frame set with one frame per source. -/
def submit (pipeline : Pipeline) (frames : List Frame) : Result Pipeline := do
  if frames.length ≠ pipeline.inputs then
    throw (.sizeMismatch (.submission frames.length pipeline.inputs))
  let number ← pipeline.slots.reserve
  let worker ← pipeline.worker.send (.compose number frames)
  return { pipeline with
    slots := pipeline.slots.commit number
    worker := worker
    stats := { pipeline.stats with submitted := pipeline.stats.submitted + 1 } }

/-- Retrieve the oldest frame set that is retrievable, if there is one. -/
def retrieve (pipeline : Pipeline) : Result (Option StitchedFrame) × Pipeline :=
  match pipeline.slots.retrieve with
  | (none, slots) => (.ok none, { pipeline with slots })
  | (some number, slots) =>
    match pipeline.worker.receive with
    | (none, worker) => (.error (.misused .workerStopped), { pipeline with slots, worker })
    | (some composed, worker) =>
      let pipeline := { pipeline with slots, worker }
      if composed.number ≠ number then
        (.error (.misused (.wrongCycle composed.number number)), pipeline)
      else
        let retrieved := pipeline.stats.retrieved + 1
        (composed.result.map fun output ↦ some ⟨number, output, composed.inputs⟩,
          { pipeline with stats := { pipeline.stats with retrieved, pool := composed.pool } })

/-- The end of the stream. -/
def endOfStream (pipeline : Pipeline) : Pipeline :=
  { pipeline with slots := pipeline.slots.endOfStream }

/-- End the stream and retrieve. -/
def flush (pipeline : Pipeline) : Result (Option StitchedFrame) × Pipeline :=
  pipeline.endOfStream.retrieve

/-- Give frames back for reuse. No frame is no job. -/
def recycle (pipeline : Pipeline) (frames : List Frame) : Result Pipeline := do
  if frames.isEmpty then return pipeline
  else return { pipeline with worker := ← pipeline.worker.send (.recycle frames) }

end Pipeline

end Panorama
