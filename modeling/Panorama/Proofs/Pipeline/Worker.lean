import Panorama.Pipeline.Basic
import Panorama.Proofs.Stitcher.Refusals
import Panorama.Proofs.Stitcher.Sequence

/-!
# What a worker has handled

As long as a worker has not stopped, its stitcher is where the handled calls lead, its jobs are the
calls behind them, and its results are their cycles. `Worker.Follows` says so, `Follows.step` is
one handled job, and `Follows.receive` is waiting for a result that is due.
-/

namespace Panorama

open StitcherCall (frameSets)

/-- The jobs of calls, where the frame sets are numbered from `number` on. -/
def jobsFrom (number : Nat) : List StitcherCall → List Job
  | [] => []
  | .process frames :: calls => .compose number frames :: jobsFrom (number + 1) calls
  | .recycle frames :: calls => .recycle frames :: jobsFrom number calls

/-- The job of a further call stands behind the others. -/
theorem jobs_from_append (number : Nat) (calls later : List StitcherCall) :
    jobsFrom number (calls ++ later)
      = jobsFrom number calls ++ jobsFrom (number + (frameSets calls).length) later := by
  induction calls generalizing number with
  | nil => rfl
  | cons call calls ih =>
      cases call with
      | process frames =>
          refine congrArg (Job.compose number frames :: ·) ((ih (number + 1)).trans ?_)
          rw [Nat.add_right_comm]
          rfl
      | recycle frames =>
          exact congrArg (Job.recycle frames :: ·) (ih number)

/-- There is one job per call. -/
theorem jobs_from_length (number : Nat) (calls : List StitcherCall) :
    (jobsFrom number calls).length = calls.length := by
  induction calls generalizing number with
  | nil => rfl
  | cons call calls ih =>
      cases call with
      | process frames => exact congrArg Nat.succ (ih (number + 1))
      | recycle frames => exact congrArg Nat.succ (ih number)

/-- A cycle as a worker hands it back; a cycle that stops the worker is not handed back. -/
def StitcherCycle.composed? (cycle : StitcherCycle) (number : Nat) : Option Composed :=
  match cycle.outcome with
  | .ok output => some ⟨number, .ok output, cycle.frames, cycle.pool⟩
  | .error (.refused error) => some ⟨number, .error error, cycle.frames, cycle.pool⟩
  | .error .fault => none

namespace Worker

variable {worker : Worker} {initial : Stitcher} {handled queued : List StitcherCall}
  {collected : List Composed}

/-- A worker has handled some calls since its stitcher started, has the jobs of others before it,
and holds the results that were not collected. -/
structure Follows (worker : Worker) (initial : Stitcher) (handled queued : List StitcherCall)
    (collected : List Composed) : Prop where
  stitcher : worker.stitcher = initial.performAll handled
  jobs : worker.jobs = jobsFrom (frameSets handled).length queued
  results : (initial.cycles handled).mapIdx (fun number cycle ↦ cycle.composed? number)
    = (collected ++ worker.results).map some

/-- A worker that starts has handled nothing. -/
theorem follows_start (initial : Stitcher) : (start initial).Follows initial [] [] [] where
  stitcher := rfl
  jobs := rfl
  results := rfl

/-- Composing a frame set stops a worker or adds its cycle to the results. -/
theorem handle_compose (worker : Worker) (number : Nat) (frames : List Frame) :
    (worker.handle (.compose number frames)).isStopped ∨
      ∃ composed, (worker.stitcher.cycle frames).composed? number = some composed ∧
        worker.handle (.compose number frames) =
          { worker with
            stitcher := worker.stitcher.perform (.process frames)
            results := worker.results ++ [composed] } := by
  simp only [handle, Stitcher.cycle, StitcherCycle.composed?, Stitcher.perform]
  rcases worker.stitcher.process frames with ⟨⟨⟨error⟩ | _⟩ | output, next⟩
  · exact .inr ⟨_, rfl, rfl⟩
  · exact .inl rfl
  · exact .inr ⟨_, rfl, rfl⟩

/-- A stopped worker stays stopped. -/
theorem step_of_stopped (h : worker.isStopped) : worker.step.isStopped := by
  unfold step
  split
  · exact h
  · rename_i job jobs _
    cases job with
    | compose number frames =>
        unfold handle
        dsimp only
        split
        · exact h
        · exact h
        · rfl
    | recycle frames =>
        exact h

/-- A stopped worker stays stopped while a result is waited for. -/
theorem receive_within_of_stopped (steps : Nat) (h : worker.isStopped) :
    (receiveWithin steps worker).2.isStopped := by
  fun_induction receiveWithin steps worker with
  | case1 => exact h
  | case2 => exact h
  | case3 worker steps hresults ih => exact ih (step_of_stopped h)

namespace Follows

/-- A job is sent by the number of its frame set, and waits behind the others. -/
theorem send (h : worker.Follows initial handled queued collected) (call : StitcherCall) :
    { worker with
      jobs := worker.jobs ++ jobsFrom (frameSets (handled ++ queued)).length [call] }.Follows
        initial handled (queued ++ [call]) collected where
  stitcher := h.stitcher
  jobs := by
    rw [jobs_from_append, h.jobs, StitcherCall.frame_sets_append, List.length_append]
  results := h.results

/-- Every handled frame set has a result, collected or not. -/
theorem result_count (h : worker.Follows initial handled queued collected) :
    collected.length + worker.results.length = (frameSets handled).length := by
  rw [← initial.cycles_length handled, ← List.length_append]
  simpa using (congrArg List.length h.results).symm

/-- A worker that does not stop has handled its oldest job afterwards. -/
theorem step {call : StitcherCall} (h : worker.Follows initial handled (call :: queued) collected)
    (halive : worker.step.isStopped = false) :
    worker.step.Follows initial (handled ++ [call]) queued collected := by
  have hjobs := h.jobs
  cases call with
  | process frames =>
      have hstep : worker.step =
          { worker with jobs := jobsFrom ((frameSets handled).length + 1) queued }.handle
            (.compose (frameSets handled).length frames) := by
        unfold Worker.step
        rw [hjobs]
        rfl
      rw [hstep] at halive ⊢
      rcases handle_compose _ _ frames with hstopped | ⟨composed, hcomposed, hhandle⟩
      · rw [hstopped] at halive
        cases halive
      · rw [hhandle]
        refine ⟨?_, ?_, ?_⟩
        · rw [Stitcher.perform_all_concat, ← h.stitcher]
        · rw [StitcherCall.frame_sets_append, List.length_append]
          rfl
        -- The number of the job is that of the cycle, since both count the handled frame sets.
        · rw [Stitcher.cycles_concat_process, List.mapIdx_concat, h.results, ← h.stitcher,
            initial.cycles_length handled, hcomposed]
          simp
  | recycle frames =>
      have hstep : worker.step =
          { worker with
            jobs := jobsFrom (frameSets handled).length queued
            stitcher := worker.stitcher.recycle frames } := by
        unfold Worker.step
        rw [hjobs]
        rfl
      rw [hstep]
      refine ⟨?_, ?_, ?_⟩
      · rw [Stitcher.perform_all_concat, ← h.stitcher]
        rfl
      · rw [StitcherCall.frame_sets_append, List.length_append]
        rfl
      · rw [Stitcher.cycles_append]
        simpa [Stitcher.cycles] using h.results

/-- The oldest result can be collected. -/
theorem collect {composed : Composed} {results : List Composed}
    (h : worker.Follows initial handled queued collected)
    (hresults : worker.results = composed :: results) :
    { worker with results }.Follows initial handled queued (collected ++ [composed]) where
  stitcher := h.stitcher
  jobs := h.jobs
  results := by
    rw [h.results, hresults, List.append_assoc]
    rfl

/-- A worker that does not stop hands back a result that is due, if it may handle all its jobs. -/
theorem receive_within {steps : Nat} (h : worker.Follows initial handled queued collected)
    (hsteps : queued.length ≤ steps)
    (hdue : collected.length < (frameSets (handled ++ queued)).length)
    (halive : (receiveWithin steps worker).2.isStopped = false) :
    ∃ composed next handled' queued', receiveWithin steps worker = (some composed, next) ∧
      handled' ++ queued' = handled ++ queued ∧
        next.Follows initial handled' queued' (collected ++ [composed]) := by
  fun_induction receiveWithin steps worker generalizing handled queued with
  | case1 _ worker composed results hresults =>
      exact ⟨composed, _, handled, queued, rfl, rfl, h.collect hresults⟩
  | case2 worker hresults =>
      have hcount := h.result_count
      rw [List.length_eq_zero_iff.mp (Nat.le_zero.mp hsteps), List.append_nil, ← hcount,
        hresults] at hdue
      exact absurd hdue (lt_irrefl _)
  | case3 worker steps hresults ih =>
      cases queued with
      | nil =>
          have hcount := h.result_count
          rw [List.append_nil, ← hcount, hresults] at hdue
          exact absurd hdue (lt_irrefl _)
      | cons call queued =>
          -- A worker that had stopped on the way would still be stopped at the end.
          have hstep : worker.step.isStopped = false := by
            by_contra hstopped
            rw [receive_within_of_stopped steps (Bool.not_eq_false _ ▸ hstopped)] at halive
            cases halive
          rw [List.append_cons] at hdue ⊢
          exact ih (h.step hstep) (Nat.le_of_succ_le_succ hsteps) hdue halive

/-- A worker that does not stop hands back a result that is due. -/
theorem receive (h : worker.Follows initial handled queued collected)
    (hdue : collected.length < (frameSets (handled ++ queued)).length)
    (halive : worker.receive.2.isStopped = false) :
    ∃ composed next handled' queued', worker.receive = (some composed, next) ∧
      handled' ++ queued' = handled ++ queued ∧
        next.Follows initial handled' queued' (collected ++ [composed]) :=
  h.receive_within (by rw [h.jobs, jobs_from_length]) hdue halive

/-- A result is the cycle of its number. -/
theorem result (h : worker.Follows initial handled queued collected) {number : Nat}
    {composed : Composed} (hcollected : collected[number]? = some composed) :
    ∃ cycle, (initial.cycles (handled ++ queued))[number]? = some cycle ∧
      cycle.composed? number = some composed := by
  have hresults := congrArg (·[number]?) h.results
  simp only [List.getElem?_mapIdx, List.getElem?_map] at hresults
  rw [List.getElem?_append_left (List.getElem?_eq_some_iff.mp hcollected).1, hcollected,
    Option.map_some, Option.map_eq_some_iff] at hresults
  obtain ⟨cycle, hcycle, hcomposed⟩ := hresults
  refine ⟨cycle, ?_, hcomposed⟩
  rw [Stitcher.cycles_append,
    List.getElem?_append_left (List.getElem?_eq_some_iff.mp hcycle).1, hcycle]

end Follows

end Worker

end Panorama
