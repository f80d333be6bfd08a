import Panorama.Proofs.Pipeline.Refinement
import Panorama.Proofs.Stitcher.Recycling

/-!
# Pipelines deliver what is made of their frame sets

If a stitcher makes outputs of frame sets, the worker around it never stops, and a pipeline gives
out the same outputs in order. `Pipeline.Sent` says what was sent to the worker and what came out;
there is one lemma per call that says when the call succeeds and what it leads to.
`Pipeline.Carries` only counts.
-/

namespace Panorama

open StitcherCall (frameSets)

/-- What is given out for the frame set with a number: the set, and outputs like those that are made
of it. -/
structure StitchedFrame.IsOf (compositor : Compositor) (sets : List (List Frame))
    (outputs : List StitchOutput) (number : Nat) (frame : StitchedFrame) : Prop where
  inputs : sets[number]? = some frame.inputs
  made : ∃ output, outputs[number]? = some output ∧ output.RemadeAs compositor frame.output
  number : frame.number = number

/-! ### Workers that do not stop -/

namespace Worker

variable {worker : Worker} {initial : Stitcher} {handled queued : List StitcherCall}
  {collected : List Composed}

/-- A worker that has not stopped takes a job. -/
theorem send_eq (hrunning : worker.isStopped = false) (job : Job) :
    worker.send job = .ok { worker with jobs := worker.jobs ++ [job] } :=
  if_neg (Bool.eq_false_iff.mp hrunning)

/-- Composing a frame set does not stop a worker unless it breaks a precondition. -/
theorem handle_compose_running (number : Nat) {frames : List Frame}
    (hrunning : worker.isStopped = false)
    (hsound : (worker.stitcher.process frames).1 ≠ .error .fault) :
    (worker.handle (.compose number frames)).isStopped = false := by
  unfold handle
  dsimp only
  split
  · exact hrunning
  · exact hrunning
  · rename_i hfault
    rw [hfault] at hsound
    exact absurd rfl hsound

namespace Follows

/-- A worker does not stop at a job that breaks no precondition. -/
theorem step_running {call : StitcherCall}
    (h : worker.Follows initial handled (call :: queued) collected)
    (hrunning : worker.isStopped = false)
    (hsound : ∀ cycle ∈ initial.cycles (handled ++ call :: queued),
      cycle.outcome ≠ .error .fault) : worker.step.isStopped = false := by
  have hjobs := h.jobs
  cases call with
  | process frames =>
      have hcycle : worker.stitcher.cycle frames
          ∈ initial.cycles (handled ++ .process frames :: queued) := by
        rw [Stitcher.cycles_append, h.stitcher]
        exact List.mem_append_right _ List.mem_cons_self
      have hstep : worker.step =
          { worker with jobs := jobsFrom ((frameSets handled).length + 1) queued }.handle
            (.compose (frameSets handled).length frames) := by
        unfold Worker.step
        rw [hjobs]
        rfl
      rw [hstep]
      exact handle_compose_running _ hrunning (hsound _ hcycle)
  | recycle frames =>
      have hstep : worker.step.isStopped = worker.isStopped := by
        unfold Worker.step
        rw [hjobs]
        rfl
      rw [hstep, hrunning]

/-- A worker does not stop while a result is waited for. -/
theorem receive_within_running (steps : Nat)
    (h : worker.Follows initial handled queued collected) (hrunning : worker.isStopped = false)
    (hsound : ∀ cycle ∈ initial.cycles (handled ++ queued), cycle.outcome ≠ .error .fault) :
    (receiveWithin steps worker).2.isStopped = false := by
  fun_induction receiveWithin steps worker generalizing handled queued with
  | case1 => exact hrunning
  | case2 => exact hrunning
  | case3 worker steps hresults ih =>
      cases queued with
      | nil =>
          have hidle : worker.step = worker := by
            unfold Worker.step
            rw [h.jobs]
            rfl
          rw [hidle] at ih ⊢
          exact ih h hrunning hsound
      | cons call queued =>
          have hstep := h.step_running hrunning hsound
          rw [List.append_cons] at hsound
          exact ih (h.step hstep) hstep hsound

section Made

variable {outputs : List StitchOutput}
  (hmade : List.Forall₂ (fun output cycle ↦ ∃ result, cycle.outcome = .ok result ∧
    StitchOutput.RemadeAs initial.compositor output result) outputs
      (initial.cycles (handled ++ queued)))

include hmade

/-- A cycle that makes outputs breaks no precondition. -/
theorem made_faultless :
    ∀ cycle ∈ initial.cycles (handled ++ queued), cycle.outcome ≠ .error .fault := by
  intro cycle hcycle
  obtain ⟨result, hresult⟩ := Stitcher.outcome_of_remade hmade cycle hcycle
  rw [hresult]
  nofun

/-- If the stitcher makes outputs of all frame sets, a worker that has not stopped handles its next
job and goes on. -/
theorem step_made (h : worker.Follows initial handled queued collected)
    (hrunning : worker.isStopped = false) : worker.step.isStopped = false := by
  cases queued with
  | nil =>
      unfold Worker.step
      rwa [h.jobs]
  | cons call queued => exact h.step_running hrunning (made_faultless hmade)

/-- If the stitcher makes outputs of all frame sets, a worker that has not stopped hands back what
becomes of the next one, and goes on. -/
theorem receive_made (h : worker.Follows initial handled queued collected)
    (hrunning : worker.isStopped = false)
    (hdue : collected.length < (frameSets (handled ++ queued)).length) :
    ∃ composed next frame, worker.receive = (some composed, next) ∧ next.isStopped = false ∧
      composed.number = collected.length ∧ composed.delivery = .ok (some frame) ∧
        frame.IsOf initial.compositor (frameSets (handled ++ queued)) outputs
          collected.length := by
  have hreceived : worker.receive.2.isStopped = false :=
    h.receive_within_running _ hrunning (made_faultless hmade)
  obtain ⟨composed, next, handled', queued', hfound, hcalls, hfollows⟩ := h.receive hdue hreceived
  obtain ⟨cycle, hcycle, hsame, _, hdelivery⟩ := hfollows.delivered List.getElem?_concat_length
  rw [hcalls] at hcycle
  obtain ⟨output, houtput, result, hresult, hremade⟩ :=
    Failing.exists_of_forall₂ hmade.flip hcycle
  unfold StitcherCycle.delivery? at hdelivery
  rw [hresult] at hdelivery
  rw [hfound] at hreceived
  have hframes : (frameSets (handled ++ queued))[collected.length]? = some cycle.frames := by
    rw [← initial.cycles_frames, List.getElem?_map, hcycle]
    rfl
  exact ⟨composed, next, _, hfound, hreceived, hsame, (Option.some.inj hdelivery).symm,
    hframes, ⟨output, houtput, hremade⟩, rfl⟩

end Made

end Follows

end Worker

/-! ### Slots -/

namespace PipelineSlots

variable {slots next : PipelineSlots} {number : Nat}

/-- Before the end of the stream nothing changes when there is nothing to give out. -/
theorem retrieve_none_open (hopen : slots.state ≠ .draining)
    (h : slots.retrieve = (none, next)) : next = slots := by
  unfold retrieve at h
  split at h
  · cases h
  · cases h
  · rename_i hstate _
    exact absurd hstate hopen
  · cases h
    rfl

/-- Giving out a frame set leaves the state. -/
theorem retrieve_some_state (h : slots.retrieve = (some number, next)) :
    next.state = slots.state := by
  unfold retrieve at h
  split at h <;> cases h <;> rfl

end PipelineSlots

/-! ### Pipelines -/

namespace Pipeline

variable {initial : Stitcher} {pipeline : Pipeline} {sets : List (List Frame)} {given : Nat}
  {outputs : List StitchOutput} {frames : List Frame} {jobs : List StitcherCall}
  {deliveries : List (Result (Option StitchedFrame))}

/-- A pipeline around a stitcher has sent its worker some jobs and given out what has become of the
first frame sets among them. -/
structure Sent (initial : Stitcher) (jobs : List StitcherCall)
    (deliveries : List (Result (Option StitchedFrame))) (pipeline : Pipeline) : Prop where
  consistent : PipelineRun.Consistent initial ⟨pipeline, jobs, deliveries⟩
  running : pipeline.worker.isStopped = false
  filled : pipeline.slots.Filled
  inputs : pipeline.inputs = initial.compositor.inputs.length

/-- A pipeline around a stitcher has taken in frame sets and given out what has become of the first
of them. Only well-formed frames were given back. -/
structure Carries (initial : Stitcher) (sets : List (List Frame)) (given : Nat)
    (pipeline : Pipeline) : Prop where
  run : ∃ jobs deliveries, PipelineRun.Consistent initial ⟨pipeline, jobs, deliveries⟩ ∧
    frameSets jobs = sets ∧ deliveries.length = given ∧ Stitcher.Recycled jobs
  running : pipeline.worker.isStopped = false
  filled : pipeline.slots.Filled
  inputs : pipeline.inputs = initial.compositor.inputs.length

/-- A frame set with a frame per source is taken in by a worker that has not stopped. -/
theorem submit_eq {number : Nat} (hframes : frames.length = pipeline.inputs)
    (hreserve : pipeline.slots.reserve = .ok number)
    (hrunning : pipeline.worker.isStopped = false) :
    pipeline.submit frames = .ok { pipeline with
      slots := pipeline.slots.commit number
      worker := { pipeline.worker with
        jobs := pipeline.worker.jobs ++ [.compose number frames] }
      stats := { pipeline.stats with submitted := pipeline.stats.submitted + 1 } } := by
  unfold submit
  rw [if_neg (not_not.mpr hframes)]
  refine Failing.bind_eq_ok_iff.mpr ⟨number, hreserve, ?_⟩
  exact Failing.bind_eq_ok_iff.mpr ⟨_, Worker.send_eq hrunning _, rfl⟩

/-- Frames are taken back by a worker that has not stopped. -/
theorem exists_recycle (hrunning : pipeline.worker.isStopped = false) (frames : List Frame) :
    ∃ next, pipeline.recycle frames = .ok next := by
  unfold recycle
  split
  · exact ⟨_, rfl⟩
  · exact ⟨_, Failing.bind_eq_ok_iff.mpr ⟨_, Worker.send_eq hrunning _, rfl⟩⟩

namespace Sent

/-- A pipeline that starts has sent nothing. -/
theorem start (initial : Stitcher) : Sent initial [] [] (.start initial) where
  consistent := PipelineRun.consistent_start initial
  running := rfl
  filled := .empty 0
  inputs := rfl

/-- What was taken in and not given out is in flight. -/
theorem in_flight (h : Sent initial jobs deliveries pipeline) :
    deliveries.length + pipeline.slots.inFlight = (frameSets jobs).length :=
  h.consistent.slots.in_flight.trans h.consistent.next

/-- Before the end of the stream, a frame set with a frame per source is sent as long as no two are
in flight. -/
theorem submit (h : Sent initial jobs deliveries pipeline)
    (hopen : pipeline.slots.state ≠ .draining)
    (hroom : (frameSets jobs).length ≤ deliveries.length + 1)
    (hframes : frames.length = initial.compositor.inputs.length) :
    ∃ next, pipeline.submit frames = .ok next ∧
      Sent initial (jobs ++ [.process frames]) deliveries next ∧
        next.slots.state ≠ .draining := by
  have hflight := h.in_flight
  have hreserve : pipeline.slots.reserve = .ok pipeline.slots.next :=
    h.filled.reserve_eq_ok_iff.mpr ⟨⟨hopen, by omega⟩, rfl⟩
  have hsubmit := submit_eq (hframes.trans h.inputs.symm) hreserve h.running
  have hnext := h.consistent.submit frames
  simp only [PipelineRun.perform, hsubmit] at hnext
  refine ⟨_, hsubmit, ⟨hnext, h.running, h.filled.commit hreserve, h.inputs⟩, ?_⟩
  show (if pipeline.slots.state = .empty then PipelineState.primed else .steady) ≠ .draining
  split <;> decide

/-- Frames are sent back, if there are any. -/
theorem recycle (h : Sent initial jobs deliveries pipeline) (frames : List Frame) :
    ∃ next, pipeline.recycle frames = .ok next ∧
      Sent initial (if frames.isEmpty then jobs else jobs ++ [.recycle frames]) deliveries next ∧
        next.slots = pipeline.slots := by
  obtain ⟨next, hrecycle⟩ := exists_recycle h.running frames
  have hnext := h.consistent.recycle frames
  simp only [PipelineRun.perform, hrecycle] at hnext
  refine ⟨next, hrecycle, ?_⟩
  rcases recycle_ok hrecycle with ⟨_, rfl⟩ | ⟨_, hrunning, rfl⟩
  · exact ⟨⟨hnext, h.running, h.filled, h.inputs⟩, rfl⟩
  · exact ⟨⟨hnext, hrunning, h.filled, h.inputs⟩, rfl⟩

/-- Nothing is given out when nothing is due, and nothing is lost. -/
theorem retrieve_none (h : Sent initial jobs deliveries pipeline)
    (hnone : pipeline.slots.state ≠ .draining ∧ (frameSets jobs).length ≤ deliveries.length + 1 ∨
      (frameSets jobs).length = deliveries.length) :
    ∃ next, pipeline.retrieve = (.ok none, next) ∧ Sent initial jobs deliveries next ∧
      next.slots.state ≠ .draining := by
  have hflight := h.in_flight
  obtain ⟨slots, hslots, hstate⟩ : ∃ slots, pipeline.slots.retrieve = (none, slots) ∧
      slots.state ≠ .draining := by
    rcases hnone with ⟨hopen, hfew⟩ | hall
    · rcases hslots : pipeline.slots.retrieve with ⟨_ | number, slots⟩
      · exact ⟨slots, rfl, PipelineSlots.retrieve_none_open hopen hslots ▸ hopen⟩
      · have hsome : pipeline.slots.retrieve.1.isSome := by rw [hslots]; rfl
        rw [h.filled.retrieve_is_some_iff hopen] at hsome
        omega
    · exact ⟨_, h.filled.retrieve_drained (by omega), nofun⟩
  have hretrieve : pipeline.retrieve = (.ok none, { pipeline with slots }) := by
    rw [Pipeline.retrieve, hslots]
  have hnext := h.consistent.retrieve (by
    rw [PipelineRun.perform, PipelineRun.deliver_pipeline, hretrieve]
    exact h.running)
  simp only [PipelineRun.perform, hretrieve, PipelineRun.deliver] at hnext
  have hfilled := h.filled.retrieve
  rw [hslots] at hfilled
  exact ⟨_, hretrieve, ⟨hnext, h.running, hfilled, h.inputs⟩, hstate⟩

/-- The end of the stream loses nothing. -/
theorem end_of_stream (h : Sent initial jobs deliveries pipeline) :
    Sent initial jobs deliveries pipeline.endOfStream ∧
      (deliveries.length < (frameSets jobs).length →
        pipeline.endOfStream.slots.state = .draining) := by
  have hflight := h.in_flight
  refine ⟨⟨h.consistent.end_of_stream, h.running, h.filled.end_of_stream, h.inputs⟩,
    fun hheld ↦ ?_⟩
  exact if_pos (by omega)

/-- A frame set that is due has a number. -/
theorem exists_due (h : Sent initial jobs deliveries pipeline)
    (hdue : pipeline.slots.state ≠ .draining ∧ (frameSets jobs).length = deliveries.length + 2 ∨
      pipeline.slots.state = .draining ∧ deliveries.length < (frameSets jobs).length) :
    ∃ number slots, pipeline.slots.retrieve = (some number, slots) := by
  have hflight := h.in_flight
  rcases hdue with ⟨hopen, htwo⟩ | ⟨hdraining, hheld⟩
  · obtain ⟨number, hnumber⟩ := Option.isSome_iff_exists.mp
      ((h.filled.retrieve_is_some_iff hopen).mpr (by omega))
    exact ⟨number, _, Prod.ext hnumber rfl⟩
  · obtain ⟨number, slots, hslots, _⟩ := h.filled.retrieve_draining hdraining (by omega)
    exact ⟨number, slots, hslots⟩

section Made

variable (hmade : List.Forall₂ (fun output cycle ↦ ∃ result, cycle.outcome = .ok result ∧
  StitchOutput.RemadeAs initial.compositor output result) outputs (initial.cycles jobs))

include hmade

/-- The worker goes on whenever it handles a job. -/
theorem work (h : Sent initial jobs deliveries pipeline) :
    Sent initial jobs deliveries pipeline.work := by
  obtain ⟨handled, queued, collected, rfl, hworker, _⟩ := h.consistent.worker
  have hrunning : pipeline.worker.step.isStopped = false := hworker.step_made hmade h.running
  exact ⟨h.consistent.work hrunning, hrunning, h.filled, h.inputs⟩

/-- The frame set that is due is given out with what the stitcher makes of it. -/
theorem retrieve_some (h : Sent initial jobs deliveries pipeline)
    (hdue : pipeline.slots.state ≠ .draining ∧ (frameSets jobs).length = deliveries.length + 2 ∨
      pipeline.slots.state = .draining ∧ deliveries.length < (frameSets jobs).length) :
    ∃ frame next, pipeline.retrieve = (.ok (some frame), next) ∧
      frame.IsOf initial.compositor (frameSets jobs) outputs deliveries.length ∧
        Sent initial jobs (deliveries ++ [.ok (some frame)]) next ∧
          next.slots.state = pipeline.slots.state := by
  obtain ⟨number, slots, hslots⟩ := h.exists_due hdue
  obtain ⟨rfl, hnumber, _⟩ := h.consistent.slots.retrieve_some hslots
  obtain ⟨handled, queued, collected, rfl, hworker, hdeliveries, _⟩ := h.consistent.worker
  have hcount : collected.length = deliveries.length := by
    rw [show deliveries = collected.map Composed.delivery from hdeliveries, List.length_map]
  obtain ⟨composed, worker, frame, hfound, hrunning, hsame, hcomposed, hframe⟩ :=
    hworker.receive_made hmade h.running
      (by rw [hcount]; exact hnumber.trans_eq h.consistent.next)
  rw [hcount] at hframe
  have hretrieve := retrieve_found hslots hfound (hsame.trans hcount)
  rw [hcomposed] at hretrieve
  have hnext := h.consistent.retrieve (by
    rw [PipelineRun.perform, PipelineRun.deliver_pipeline, hretrieve]
    exact hrunning)
  simp only [PipelineRun.perform, hretrieve, PipelineRun.deliver] at hnext
  have hfilled := h.filled.retrieve
  rw [hslots] at hfilled
  exact ⟨frame, _, hretrieve, hframe, ⟨hnext, hrunning, hfilled, h.inputs⟩,
    PipelineSlots.retrieve_some_state hslots⟩

end Made

/-- What was sent and given out is counted, if only well-formed frames were sent back. -/
theorem carries (h : Sent initial jobs deliveries pipeline) (hrecycled : Stitcher.Recycled jobs) :
    Carries initial (frameSets jobs) deliveries.length pipeline :=
  ⟨⟨jobs, deliveries, h.consistent, rfl, rfl, hrecycled⟩, h.running, h.filled, h.inputs⟩

end Sent

namespace Carries

/-- What was counted was sent and given out. -/
theorem exists_sent (h : Carries initial sets given pipeline) :
    ∃ jobs deliveries, Sent initial jobs deliveries pipeline ∧ frameSets jobs = sets ∧
      deliveries.length = given ∧ Stitcher.Recycled jobs := by
  obtain ⟨jobs, deliveries, hconsistent, hsets, hgiven, hrecycled⟩ := h.run
  exact ⟨jobs, deliveries, ⟨hconsistent, h.running, h.filled, h.inputs⟩, hsets, hgiven, hrecycled⟩

/-- A pipeline that starts has taken in nothing. -/
theorem start (initial : Stitcher) : Carries initial [] 0 (.start initial) :=
  (Sent.start initial).carries nofun

/-- What was taken in and not given out is in flight. -/
theorem in_flight (h : Carries initial sets given pipeline) :
    given + pipeline.slots.inFlight = sets.length := by
  obtain ⟨jobs, deliveries, hsent, rfl, rfl, _⟩ := h.exists_sent
  exact hsent.in_flight

/-- Before the end of the stream, a frame set with a frame per source is taken in as long as no two
are in flight. -/
theorem submit (h : Carries initial sets given pipeline) (hopen : pipeline.slots.state ≠ .draining)
    (hroom : sets.length ≤ given + 1)
    (hframes : frames.length = initial.compositor.inputs.length) :
    ∃ next, pipeline.submit frames = .ok next ∧ Carries initial (sets ++ [frames]) given next ∧
      next.slots.state ≠ .draining := by
  obtain ⟨jobs, deliveries, hsent, rfl, rfl, hrecycled⟩ := h.exists_sent
  obtain ⟨next, hsubmit, hnext, hstate⟩ := hsent.submit hopen hroom hframes
  have hcarries := hnext.carries (hrecycled.concat nofun)
  rw [StitcherCall.frame_sets_append] at hcarries
  exact ⟨next, hsubmit, hcarries, hstate⟩

/-- Well-formed frames are taken back. -/
theorem recycle (h : Carries initial sets given pipeline)
    (hframes : ∀ frame ∈ frames, frame.WellFormed) :
    ∃ next, pipeline.recycle frames = .ok next ∧ Carries initial sets given next ∧
      next.slots = pipeline.slots := by
  obtain ⟨jobs, deliveries, hsent, rfl, rfl, hrecycled⟩ := h.exists_sent
  obtain ⟨next, hrecycle, hnext, hslots⟩ := hsent.recycle frames
  refine ⟨next, hrecycle, ?_, hslots⟩
  by_cases hempty : frames.isEmpty
  · rw [if_pos hempty] at hnext
    exact hnext.carries hrecycled
  · rw [if_neg hempty] at hnext
    have hcarries := hnext.carries (hrecycled.concat fun others hothers ↦ by
      cases hothers
      exact hframes)
    rw [StitcherCall.frame_sets_append] at hcarries
    exact (List.append_nil (frameSets jobs)) ▸ hcarries

/-- Nothing is given out when nothing is due, and nothing is lost. -/
theorem retrieve_none (h : Carries initial sets given pipeline)
    (hnone : pipeline.slots.state ≠ .draining ∧ sets.length ≤ given + 1 ∨ sets.length = given) :
    ∃ next, pipeline.retrieve = (.ok none, next) ∧ Carries initial sets given next ∧
      next.slots.state ≠ .draining := by
  obtain ⟨jobs, deliveries, hsent, rfl, rfl, hrecycled⟩ := h.exists_sent
  obtain ⟨next, hretrieve, hnext, hstate⟩ := hsent.retrieve_none hnone
  exact ⟨next, hretrieve, hnext.carries hrecycled, hstate⟩

/-- The end of the stream loses nothing. -/
theorem end_of_stream (h : Carries initial sets given pipeline) :
    Carries initial sets given pipeline.endOfStream ∧
      (given < sets.length → pipeline.endOfStream.slots.state = .draining) := by
  obtain ⟨jobs, deliveries, hsent, rfl, rfl, hrecycled⟩ := h.exists_sent
  obtain ⟨hnext, hstate⟩ := hsent.end_of_stream
  exact ⟨hnext.carries hrecycled, hstate⟩

/-- The frame set that is due is given out with what the stitcher makes of it. -/
theorem retrieve_some (h : Carries initial sets given pipeline) (hsound : initial.Sound)
    (hvalid : initial.compositor.Valid) (hmakes : initial.Makes sets outputs)
    (hdue : pipeline.slots.state ≠ .draining ∧ sets.length = given + 2 ∨
      pipeline.slots.state = .draining ∧ given < sets.length) :
    ∃ output frame next, outputs[given]? = some output ∧
      pipeline.retrieve = (.ok (some frame), next) ∧
        output.RemadeAs initial.compositor frame.output ∧
          Carries initial sets (given + 1) next ∧ next.slots.state = pipeline.slots.state := by
  obtain ⟨jobs, deliveries, hsent, rfl, rfl, hrecycled⟩ := h.exists_sent
  obtain ⟨frame, next, hretrieve, hframe, hnext, hstate⟩ := hsent.retrieve_some
    (hsound.cycles_remade hsound hvalid (.refl initial) hrecycled hmakes) hdue
  obtain ⟨output, houtput, hremade⟩ := hframe.made
  have hcarries := hnext.carries hrecycled
  rw [List.length_append, List.length_singleton] at hcarries
  exact ⟨output, frame, next, houtput, hretrieve, hremade, hcarries, hstate⟩

end Carries

end Pipeline

end Panorama
