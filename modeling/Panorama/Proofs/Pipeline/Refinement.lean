import Panorama.Proofs.Pipeline.Slots
import Panorama.Proofs.Pipeline.Worker
import Panorama.Proofs.Stitcher.Reuse

/-!
# Pipelines compose what stitchers compose

A run is any sequence of calls on a pipeline, with the moments in between at which the worker
handles a job. However these moments fall, what the pipeline gives out is what one stitcher makes
of the same frame sets in the same order. The invariant is `PipelineRun.Consistent`: the worker
follows the stitcher, and the slots hold the numbers between what was given out and what was taken
in.
-/

namespace Panorama

open StitcherCall (frameSets)

/-- Something that happens to a pipeline. -/
inductive PipelineCall where
  /-- A frame set is submitted. -/
  | submit (frames : List Frame)
  /-- The oldest retrievable frame set is asked for. -/
  | retrieve
  /-- The stream ends, and the oldest frame set is asked for. -/
  | flush
  /-- The stream ends. -/
  | endOfStream
  /-- Frames are given back for reuse. -/
  | recycle (frames : List Frame)
  /-- The worker handles a job. -/
  | work

/-- A pipeline with what was sent to its worker and what it has given out. -/
structure PipelineRun where
  /-- The pipeline. -/
  pipeline : Pipeline
  /-- The accepted frame sets and the frames given back, in the order of the calls. -/
  jobs : List StitcherCall
  /-- The answers to `retrieve` and `flush`, apart from those that there is nothing. -/
  deliveries : List (Result (Option StitchedFrame))

/-- What a pipeline has to give out for a cycle: the outputs with the frame set, or the error. -/
def StitcherCycle.delivery? (cycle : StitcherCycle) (number : Nat) :
    Option (Result (Option StitchedFrame)) :=
  match cycle.outcome with
  | .ok output => some (.ok (some ⟨number, output, cycle.frames⟩))
  | .error (.refused error) => some (.error error)
  | .error .fault => none

namespace PipelineRun

/-- A pipeline around a stitcher to which nothing has happened. -/
def start (stitcher : Stitcher) : PipelineRun := ⟨.start stitcher, [], []⟩

/-- Note an answer to `retrieve` or `flush`. -/
def deliver (run : PipelineRun) : Result (Option StitchedFrame) × Pipeline → PipelineRun
  | (.ok none, pipeline) => { run with pipeline }
  | (delivery, pipeline) => { run with pipeline, deliveries := run.deliveries ++ [delivery] }

/-- The run after one more call. -/
def perform (run : PipelineRun) : PipelineCall → PipelineRun
  | .submit frames =>
    match run.pipeline.submit frames with
    | .error _ => run
    | .ok pipeline => { run with pipeline, jobs := run.jobs ++ [.process frames] }
  | .retrieve => run.deliver run.pipeline.retrieve
  | .flush => run.deliver run.pipeline.flush
  | .endOfStream => { run with pipeline := run.pipeline.endOfStream }
  | .recycle frames =>
    match run.pipeline.recycle frames with
    | .error _ => run
    | .ok pipeline =>
      { run with pipeline
                 jobs := if frames.isEmpty then run.jobs else run.jobs ++ [.recycle frames] }
  | .work => { run with pipeline := run.pipeline.work }

/-- The run after several calls. -/
def performAll (run : PipelineRun) (calls : List PipelineCall) : PipelineRun :=
  calls.foldl perform run

end PipelineRun

namespace Pipeline

variable {pipeline next : Pipeline} {frames : List Frame}

/-- A frame set is accepted if a number is free and the worker has not stopped. -/
theorem submit_ok (h : pipeline.submit frames = .ok next) :
    ∃ number, pipeline.slots.reserve = .ok number ∧ pipeline.worker.isStopped = false ∧
      next = { pipeline with
        slots := pipeline.slots.commit number
        worker := { pipeline.worker with
          jobs := pipeline.worker.jobs ++ [.compose number frames] }
        stats := { pipeline.stats with submitted := pipeline.stats.submitted + 1 } } := by
  unfold submit at h
  split at h
  · cases h
  · cases hreserve : pipeline.slots.reserve with
    | error error =>
        rw [hreserve] at h
        cases h
    | ok number =>
        rw [hreserve] at h
        unfold Worker.send at h
        split at h
        · cases h
        · rename_i hrunning
          cases h
          exact ⟨number, rfl, Bool.eq_false_iff.mpr hrunning, rfl⟩

/-- Frames are given back if there are none or the worker has not stopped. -/
theorem recycle_ok (h : pipeline.recycle frames = .ok next) :
    frames.isEmpty ∧ next = pipeline ∨ frames.isEmpty = false ∧
      pipeline.worker.isStopped = false ∧ next = { pipeline with
        worker := { pipeline.worker with jobs := pipeline.worker.jobs ++ [.recycle frames] } } := by
  unfold recycle at h
  split at h
  · rename_i hempty
    cases h
    exact .inl ⟨hempty, rfl⟩
  · rename_i hempty
    unfold Worker.send at h
    split at h
    · cases h
    · rename_i hrunning
      cases h
      exact .inr ⟨Bool.eq_false_iff.mpr hempty, Bool.eq_false_iff.mpr hrunning, rfl⟩

/-- A stopped worker stays stopped while a frame set is asked for. -/
theorem retrieve_of_stopped (h : pipeline.worker.isStopped) :
    pipeline.retrieve.2.worker.isStopped := by
  have hreceive : pipeline.worker.receive.2.isStopped := Worker.receive_within_of_stopped _ h
  unfold retrieve
  split
  · exact h
  · split
    · rename_i hfound
      rwa [hfound] at hreceive
    · rename_i hfound
      rw [hfound] at hreceive
      dsimp only
      split <;> exact hreceive

end Pipeline

/-- What a pipeline gives out for a result of its worker. -/
def Composed.delivery (composed : Composed) : Result (Option StitchedFrame) :=
  composed.result.map fun output ↦ some ⟨composed.number, output, composed.inputs⟩

/-- The result of a cycle is given out as the cycle is to be. -/
theorem StitcherCycle.delivery_of_composed {cycle : StitcherCycle} {number : Nat}
    {composed : Composed} (h : cycle.composed? number = some composed) :
    composed.number = number ∧ composed.pool = cycle.pool ∧
      cycle.delivery? number = some composed.delivery := by
  obtain ⟨frames, outcome, pool⟩ := cycle
  rcases outcome with (error | _) | output
  · cases h
    exact ⟨rfl, rfl, rfl⟩
  · cases h
  · cases h
    exact ⟨rfl, rfl, rfl⟩

/-- A pipeline gives out a misuse only for a cycle that was refused as one. -/
theorem StitcherCycle.delivery_ne_misused {cycle : StitcherCycle} {number : Nat} {misuse : Misuse}
    (h : FailsOnly Failure.IsTimeless cycle.outcome) :
    cycle.delivery? number ≠ some (.error (.misused misuse)) := by
  obtain ⟨frames, outcome, pool⟩ := cycle
  rcases outcome with (error | _) | output
  · intro hdelivery
    cases hdelivery
    exact h _ rfl rfl
  · exact nofun
  · exact nofun

namespace Worker.Follows

variable {worker : Worker} {initial : Stitcher} {handled queued : List StitcherCall}
  {collected : List Composed}

/-- A collected result is given out as its cycle is to be, with the counters after the cycle. -/
theorem delivered (h : worker.Follows initial handled queued collected) {number : Nat}
    {composed : Composed} (hcollected : collected[number]? = some composed) :
    ∃ cycle, (initial.cycles (handled ++ queued))[number]? = some cycle ∧
      composed.number = number ∧ composed.pool = cycle.pool ∧
        cycle.delivery? number = some composed.delivery := by
  obtain ⟨cycle, hcycle, hcomposed⟩ := h.result hcollected
  exact ⟨cycle, hcycle, StitcherCycle.delivery_of_composed hcomposed⟩

/-- The counters of the collected results are those of the first cycles. -/
theorem pools (h : worker.Follows initial handled queued collected) :
    collected.map Composed.pool
      = ((initial.cycles (handled ++ queued)).take collected.length).map StitcherCycle.pool := by
  refine List.ext_getElem? fun number ↦ ?_
  by_cases hnumber : number < collected.length
  · have hcollected := List.getElem?_eq_getElem hnumber
    obtain ⟨cycle, hcycle, _, hpool, _⟩ := h.delivered hcollected
    rw [List.getElem?_map, List.getElem?_map, List.getElem?_take_of_lt hnumber, hcycle, hcollected,
      Option.map_some, Option.map_some, hpool]
  · rw [List.getElem?_eq_none (by rw [List.length_map]; omega),
      List.getElem?_eq_none (by rw [List.length_map, List.length_take]; omega)]

end Worker.Follows

namespace Pipeline

variable {pipeline : Pipeline} {slots : PipelineSlots} {number : Nat}

/-- Asking for a frame set that is held waits for the worker. -/
theorem retrieve_worker (hslots : pipeline.slots.retrieve = (some number, slots)) :
    pipeline.retrieve.2.worker = pipeline.worker.receive.2 := by
  rw [retrieve, hslots]
  rcases pipeline.worker.receive with ⟨_ | composed, worker⟩
  · rfl
  · dsimp only
    split <;> rfl

/-- The result with the number that is due is given out and counted. -/
theorem retrieve_found {worker : Worker} {composed : Composed}
    (hslots : pipeline.slots.retrieve = (some number, slots))
    (hfound : pipeline.worker.receive = (some composed, worker))
    (hnumber : composed.number = number) :
    pipeline.retrieve = (composed.delivery, { pipeline with
      slots, worker
      stats := { pipeline.stats with
        retrieved := pipeline.stats.retrieved + 1, pool := composed.pool } }) := by
  rw [retrieve, hslots]
  dsimp only
  rw [hfound]
  dsimp only
  rw [if_neg (not_not.mpr hnumber), Composed.delivery, hnumber]

end Pipeline

namespace PipelineRun

variable {run : PipelineRun} {initial : Stitcher}

/-- A run in which the worker follows the stitcher and the slots hold what was not given out. -/
structure Consistent (initial : Stitcher) (run : PipelineRun) : Prop where
  slots : run.pipeline.slots.Holds run.deliveries.length
  next : run.pipeline.slots.next = (frameSets run.jobs).length
  submitted : run.pipeline.stats.submitted = (frameSets run.jobs).length
  retrieved : run.pipeline.stats.retrieved = run.deliveries.length
  worker : ∃ handled queued collected, handled ++ queued = run.jobs ∧
    run.pipeline.worker.Follows initial handled queued collected ∧
      run.deliveries = collected.map Composed.delivery ∧
        run.pipeline.stats.pool = (collected.getLast?.map Composed.pool).getD .zero

/-- A run that starts is consistent. -/
theorem consistent_start (initial : Stitcher) : Consistent initial (start initial) where
  slots := rfl
  next := rfl
  submitted := rfl
  retrieved := rfl
  worker := ⟨[], [], [], rfl, Worker.follows_start initial, rfl, rfl⟩

/-- A submitted frame set is sent with the next number, or the run stays as it is. -/
theorem Consistent.submit (h : Consistent initial run) (frames : List Frame) :
    Consistent initial (run.perform (.submit frames)) := by
  unfold perform
  dsimp only
  split
  · exact h
  · rename_i pipeline hsubmit
    obtain ⟨number, hreserve, _, rfl⟩ := Pipeline.submit_ok hsubmit
    obtain ⟨rfl, hslots⟩ := h.slots.commit hreserve
    obtain ⟨handled, queued, collected, hjobs, hworker, hdeliveries, hpool⟩ := h.worker
    have hcount : (frameSets (run.jobs ++ [.process frames])).length
        = (frameSets run.jobs).length + 1 := by
      rw [StitcherCall.frame_sets_append, List.length_append]
      rfl
    refine ⟨hslots, ?_, ?_, h.retrieved, handled, queued ++ [.process frames], collected,
      ?_, ?_, hdeliveries, hpool⟩
    · exact (congrArg Nat.succ h.next).trans hcount.symm
    · exact (congrArg Nat.succ h.submitted).trans hcount.symm
    · rw [← List.append_assoc, hjobs]
    · have hsent := hworker.send (.process frames)
      rwa [hjobs, ← h.next] at hsent

/-- Frames that are given back are sent behind the other jobs, or the run stays as it is. -/
theorem Consistent.recycle (h : Consistent initial run) (frames : List Frame) :
    Consistent initial (run.perform (.recycle frames)) := by
  unfold perform
  dsimp only
  split
  · exact h
  · rename_i pipeline hrecycle
    rcases Pipeline.recycle_ok hrecycle with ⟨hempty, rfl⟩ | ⟨hempty, _, rfl⟩
    · rw [if_pos hempty]
      exact h
    · obtain ⟨handled, queued, collected, hjobs, hworker, hdeliveries, hpool⟩ := h.worker
      have hsets : frameSets (run.jobs ++ [.recycle frames]) = frameSets run.jobs := by
        rw [StitcherCall.frame_sets_append]
        exact List.append_nil _
      rw [hempty, if_neg Bool.false_ne_true]
      refine ⟨h.slots, ?_, ?_, h.retrieved, handled, queued ++ [.recycle frames], collected,
        ?_, ?_, hdeliveries, hpool⟩
      · rw [hsets]
        exact h.next
      · rw [hsets]
        exact h.submitted
      · rw [← List.append_assoc, hjobs]
      · exact hworker.send (.recycle frames)

/-- The end of the stream loses no frame set. -/
theorem Consistent.end_of_stream (h : Consistent initial run) :
    Consistent initial (run.perform .endOfStream) :=
  ⟨h.slots, h.next, h.submitted, h.retrieved, h.worker⟩

/-- A worker that handles a job and does not stop follows the stitcher on. -/
theorem Consistent.work (h : Consistent initial run)
    (halive : (run.perform .work).pipeline.worker.isStopped = false) :
    Consistent initial (run.perform .work) := by
  obtain ⟨handled, queued, collected, hjobs, hworker, hdeliveries, hpool⟩ := h.worker
  cases queued with
  | nil =>
      have hidle : run.pipeline.worker.step = run.pipeline.worker := by
        unfold Worker.step
        rw [hworker.jobs]
        rfl
      refine ⟨h.slots, h.next, h.submitted, h.retrieved, handled, [], collected, hjobs, ?_,
        hdeliveries, hpool⟩
      show run.pipeline.worker.step.Follows ..
      rwa [hidle]
  | cons call queued =>
      exact ⟨h.slots, h.next, h.submitted, h.retrieved, handled ++ [call], queued, collected,
        (List.append_cons ..).symm.trans hjobs, hworker.step halive, hdeliveries, hpool⟩

/-- The pipeline of a run is the one that an answer leaves. -/
theorem deliver_pipeline (run : PipelineRun) (answer : Result (Option StitchedFrame) × Pipeline) :
    (run.deliver answer).pipeline = answer.2 := by
  rcases answer with ⟨_ | _ | _, _⟩ <;> rfl

/-- The answer for a result is noted. -/
theorem deliver_delivery (run : PipelineRun) (composed : Composed) (pipeline : Pipeline) :
    run.deliver (composed.delivery, pipeline)
      = { run with pipeline, deliveries := run.deliveries ++ [composed.delivery] } := by
  unfold Composed.delivery
  cases composed.result <;> rfl

/-- What is given out is the result of the frame set that is due, as long as the worker does not
stop. -/
theorem Consistent.retrieve (h : Consistent initial run)
    (halive : (run.perform .retrieve).pipeline.worker.isStopped = false) :
    Consistent initial (run.perform .retrieve) := by
  cases hslots : run.pipeline.slots.retrieve with
  | mk number? slots =>
      cases number? with
      | none =>
          have hperform : run.perform .retrieve
              = { run with pipeline := { run.pipeline with slots } } := by
            simp only [perform, Pipeline.retrieve, hslots, deliver]
          obtain ⟨hholds, hnext⟩ := h.slots.retrieve_none hslots
          rw [hperform]
          exact ⟨hholds, hnext.trans h.next, h.submitted, h.retrieved, h.worker⟩
      | some number =>
          obtain ⟨rfl, hdue, hholds, hnext⟩ := h.slots.retrieve_some hslots
          obtain ⟨handled, queued, collected, hjobs, hworker, hdeliveries, hpool⟩ := h.worker
          have hcount : collected.length = run.deliveries.length := by
            rw [hdeliveries, List.length_map]
          have hreceive : (run.perform .retrieve).pipeline.worker
              = run.pipeline.worker.receive.2 := by
            rw [perform, deliver_pipeline, Pipeline.retrieve_worker hslots]
          rw [h.next, ← hjobs, ← hcount] at hdue
          rw [hreceive] at halive
          obtain ⟨composed, worker, handled', queued', hfound, hcalls, hfollows⟩ :=
            hworker.receive hdue halive
          -- The worker numbers results like the slots number frame sets, so no other can arrive.
          obtain ⟨_, _, hnumber, _⟩ := hfollows.delivered List.getElem?_concat_length
          have hretrieve := Pipeline.retrieve_found hslots hfound (hnumber.trans hcount)
          rw [perform, hretrieve, deliver_delivery]
          refine ⟨?_, hnext.trans h.next, h.submitted, ?_, handled', queued',
            collected ++ [composed], hcalls.trans hjobs, hfollows, ?_, ?_⟩
          · rw [List.length_append]
            exact hholds
          · rw [List.length_append]
            exact congrArg Nat.succ h.retrieved
          · rw [List.map_append, ← hdeliveries]
            rfl
          · rw [List.getLast?_concat]
            rfl

/-- Flushing is ending the stream and retrieving. -/
theorem perform_flush (run : PipelineRun) :
    run.perform .flush = (run.perform .endOfStream).perform .retrieve := by
  unfold perform Pipeline.flush
  dsimp only
  rcases run.pipeline.endOfStream.retrieve with ⟨_ | _ | _, _⟩ <;> rfl

/-- A stopped worker stays stopped whatever happens to its pipeline. -/
theorem perform_of_stopped (call : PipelineCall) (h : run.pipeline.worker.isStopped) :
    (run.perform call).pipeline.worker.isStopped := by
  cases call with
  | submit frames =>
      unfold perform
      dsimp only
      split
      · exact h
      · rename_i hsubmit
        obtain ⟨_, _, hrunning, _⟩ := Pipeline.submit_ok hsubmit
        rw [h] at hrunning
        cases hrunning
  | retrieve =>
      rw [perform, deliver_pipeline]
      exact Pipeline.retrieve_of_stopped h
  | flush =>
      rw [perform, deliver_pipeline]
      exact Pipeline.retrieve_of_stopped h
  | endOfStream => exact h
  | recycle frames =>
      unfold perform
      dsimp only
      split
      · exact h
      · rename_i hrecycle
        rcases Pipeline.recycle_ok hrecycle with ⟨_, rfl⟩ | ⟨_, hrunning, _⟩
        · exact h
        · rw [h] at hrunning
          cases hrunning
  | work => exact Worker.step_of_stopped h

/-- A call after which the worker has not stopped keeps a run consistent. -/
theorem Consistent.perform (h : Consistent initial run) (call : PipelineCall)
    (halive : (run.perform call).pipeline.worker.isStopped = false) :
    Consistent initial (run.perform call) := by
  cases call with
  | submit frames => exact h.submit frames
  | retrieve => exact h.retrieve halive
  | flush =>
      rw [perform_flush] at halive ⊢
      exact h.end_of_stream.retrieve halive
  | endOfStream => exact h.end_of_stream
  | recycle frames => exact h.recycle frames
  | work => exact h.work halive

/-- Calls after which the worker has not stopped keep a run consistent. -/
theorem Consistent.perform_all (h : Consistent initial run) (calls : List PipelineCall)
    (halive : (run.performAll calls).pipeline.worker.isStopped = false) :
    Consistent initial (run.performAll calls) := by
  induction calls generalizing run with
  | nil => exact h
  | cons call calls ih =>
      -- A worker that is alive at the end was alive after every call.
      have hstopped (run : PipelineRun) (h : run.pipeline.worker.isStopped) :
          (run.performAll calls).pipeline.worker.isStopped :=
        List.foldlRecOn calls PipelineRun.perform
          (motive := fun run ↦ run.pipeline.worker.isStopped) h
          fun _ hstop call _ ↦ perform_of_stopped call hstop
      refine ih (h.perform call ?_) halive
      by_contra hcall
      exact Bool.false_ne_true (halive.symm.trans (hstopped _ (Bool.not_eq_false _ ▸ hcall)))

end PipelineRun

/-- However a worker times its jobs, and as long as it does not stop, a pipeline gives out for its
frame sets in turn what one stitcher makes of everything that was sent: the outputs with the number
and the frames of the set, or the error. It never complains of another cycle than is due, and its
counters are those of the calls and of the stitcher after the last cycle given out. -/
theorem Pipeline.refines_stitcher (initial : Stitcher) (calls : List PipelineCall)
    (halive : ((PipelineRun.start initial).performAll calls).pipeline.worker.isStopped = false) :
    let run := (PipelineRun.start initial).performAll calls
    let cycles := initial.cycles run.jobs
    cycles.map StitcherCycle.frames = frameSets run.jobs ∧
      (∀ (number : Nat) (delivery : Result (Option StitchedFrame)),
        run.deliveries[number]? = some delivery →
          ∃ cycle, cycles[number]? = some cycle ∧ cycle.delivery? number = some delivery) ∧
      (∀ misuse : Misuse, .error (.misused misuse) ∉ run.deliveries) ∧
      run.pipeline.stats.submitted = (frameSets run.jobs).length ∧
      run.pipeline.stats.retrieved = run.deliveries.length ∧
      run.pipeline.stats.pool =
        ((cycles.take run.deliveries.length).getLast?.map StitcherCycle.pool).getD .zero := by
  intro run cycles
  have hconsistent : PipelineRun.Consistent initial run :=
    (PipelineRun.consistent_start initial).perform_all calls halive
  obtain ⟨handled, queued, collected, hjobs, hworker, hdeliveries, hpool⟩ := hconsistent.worker
  have hdelivered (number : Nat) (delivery : Result (Option StitchedFrame))
      (hdelivery : run.deliveries[number]? = some delivery) :
      ∃ cycle, cycles[number]? = some cycle ∧ cycle.delivery? number = some delivery := by
    rw [hdeliveries, List.getElem?_map, Option.map_eq_some_iff] at hdelivery
    obtain ⟨composed, hcollected, rfl⟩ := hdelivery
    obtain ⟨cycle, hcycle, _, _, hdue⟩ := hworker.delivered hcollected
    rw [hjobs] at hcycle
    exact ⟨cycle, hcycle, hdue⟩
  refine ⟨initial.cycles_frames run.jobs, hdelivered, fun misuse hmisuse ↦ ?_,
    hconsistent.submitted, hconsistent.retrieved, ?_⟩
  · -- A wrong number is no cycle's outcome, and every delivery is that of a cycle.
    obtain ⟨number, hdelivery⟩ := List.getElem?_of_mem hmisuse
    obtain ⟨cycle, hcycle, hdue⟩ := hdelivered number _ hdelivery
    exact StitcherCycle.delivery_ne_misused
      (Stitcher.cycles_fail (List.mem_of_getElem? hcycle)) hdue
  · rw [hpool, ← List.getLast?_map, ← List.getLast?_map, hworker.pools, hjobs, hdeliveries,
      List.length_map]

/-- Two frame sets are submitted, of which the worker handles the first at once and the second only
when the stream is flushed. In between a frame is given back. -/
def PipelineRun.spotCalls : List PipelineCall :=
  [.submit [.grayRow 1 #[7]], .work, .submit [.grayRow 1 #[5]], .retrieve,
    .recycle [.grayRow 4 #[9, 9, 9, 9, 9, 9]], .flush]

/-- The worker does not stop, and the second delivery is that of the stitcher's second cycle. -/
theorem PipelineRun.spot_refined :
    ((start .spot).performAll spotCalls).pipeline.worker.isStopped = false ∧
      ∃ cycle delivery,
        (Stitcher.spot.cycles ((start .spot).performAll spotCalls).jobs)[1]? = some cycle ∧
          ((start .spot).performAll spotCalls).deliveries[1]? = some delivery ∧
            cycle.delivery? 1 = some delivery := by
  have halive : ((start .spot).performAll spotCalls).pipeline.worker.isStopped = false := by
    decide +kernel
  have hcount : 1 < ((start .spot).performAll spotCalls).deliveries.length := by
    decide +kernel
  have hdelivery := List.getElem?_eq_getElem hcount
  obtain ⟨_, hdeliveries, _⟩ := Pipeline.refines_stitcher .spot spotCalls halive
  obtain ⟨cycle, hcycle, hdue⟩ := hdeliveries 1 _ hdelivery
  exact ⟨halive, cycle, _, hcycle, hdelivery, hdue⟩

end Panorama
