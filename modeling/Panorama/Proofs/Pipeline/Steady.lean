import Panorama.Proofs.Pipeline.Progress
import Panorama.Proofs.Stitcher.Rotation

/-!
# A steady host

A steady host submits a frame set, retrieves, gives the retrieved outputs back at once, and starts
again. The worker has its turns in between, as many and as early as it likes. No call is refused,
every answer but the first is what the stitcher makes of the frame set before, and the pool never
makes more than two frames for each output. `SteadyHost.InStep` is what every turn keeps;
`steady_loop` is the result.
-/

namespace Panorama

open StitcherCall (frameSets Rotates)

/-- The next call of a steady host. -/
inductive HostTask where
  /-- Submit the next frame set. -/
  | submit
  /-- Retrieve a composed frame set. -/
  | retrieve
  /-- Give outputs back. -/
  | recycle (frames : List Frame)

/-- Who has a turn. -/
inductive HostTurn where
  /-- The host makes its next call. -/
  | host
  /-- The worker handles a job. -/
  | worker
  deriving DecidableEq

/-- A pipeline with its host. -/
structure SteadyHost where
  /-- The pipeline. -/
  pipeline : Pipeline
  /-- What the host does next. -/
  task : HostTask
  /-- The frame sets that are still to be submitted. -/
  waiting : List (List Frame)
  /-- What was retrieved. -/
  answers : List (Result (Option StitchedFrame))
  /-- Why frame sets or outputs were not accepted. -/
  refusals : List Error

/-- The outputs that are given back after an answer. -/
def retrievedOutputs : Result (Option StitchedFrame) → List Frame
  | .ok (some frame) => frame.output.outputs
  | _ => []

namespace SteadyHost

/-- A host with frame sets to submit and a pipeline around a stitcher. -/
def start (initial : Stitcher) (sets : List (List Frame)) : SteadyHost :=
  ⟨.start initial, .submit, sets, [], []⟩

/-- The host makes its next call. Without a frame set it has nothing to do. -/
def act (host : SteadyHost) : SteadyHost :=
  match host.task, host.waiting with
  | .submit, [] => host
  | .submit, frames :: waiting =>
    match host.pipeline.submit frames with
    | .ok pipeline => { host with pipeline, waiting, task := .retrieve }
    | .error error =>
      { host with waiting, task := .retrieve, refusals := host.refusals ++ [error] }
  | .retrieve, _ =>
    let (answer, pipeline) := host.pipeline.retrieve
    { host with pipeline
                answers := host.answers ++ [answer]
                task := .recycle (retrievedOutputs answer) }
  | .recycle frames, _ =>
    match host.pipeline.recycle frames with
    | .ok pipeline => { host with pipeline, task := .submit }
    | .error error => { host with task := .submit, refusals := host.refusals ++ [error] }

/-- What happens in a turn. -/
def turn (host : SteadyHost) : HostTurn → SteadyHost
  | .host => host.act
  | .worker => { host with pipeline := host.pipeline.work }

/-- The host and its pipeline after several turns. -/
def run (host : SteadyHost) (turns : List HostTurn) : SteadyHost :=
  turns.foldl turn host

end SteadyHost

/-- There is at least one produced frame. -/
theorem Compositor.output_sizes_ne_nil {format : PixelFormat} {crop : Option Crop}
    {outputs : List OutputSpec} {layout : OutputLayout} {options : CompositeOptions}
    {compositor : Compositor} (h : make format crop outputs layout options = .ok compositor) :
    compositor.outputSizes ≠ [] := by
  cases outputs with
  | nil => cases h
  | cons first rest =>
      obtain ⟨_, _, _, arrangement, _, _, harrangement, rfl⟩ := make_eq_ok_iff.mp h
      cases layout with
      | separate =>
          cases harrangement
          nofun
      | merged canvas =>
          obtain ⟨_, _, hplaced⟩ := Failing.bind_eq_ok_iff.mp harrangement
          obtain ⟨_, _, hresult⟩ := Failing.bind_eq_ok_iff.mp hplaced
          cases hresult
          nofun

/-- What is given out for one of the first frame sets is given out for it among all of them. -/
theorem StitchedFrame.IsOf.of_take {compositor : Compositor} {sets : List (List Frame)}
    {outputs : List StitchOutput} {count number : Nat} {frame : StitchedFrame}
    (h : frame.IsOf compositor (sets.take count) (outputs.take count) number) :
    frame.IsOf compositor sets outputs number := by
  obtain ⟨output, houtput, hremade⟩ := h.made
  have hinputs := h.inputs
  rw [List.getElem?_take, Option.ite_none_right_eq_some] at hinputs houtput
  exact ⟨hinputs.2, ⟨output, houtput.2, hremade⟩, h.number⟩

namespace SteadyHost

variable {initial : Stitcher} {sets : List (List Frame)} {outputs : List StitchOutput}
  {submitted held acted : Nat} {host : SteadyHost} {frames : List Frame}

/-- What a host has got: nothing first, and then what is made of one frame set after the other. -/
structure Answers (compositor : Compositor) (sets : List (List Frame))
    (outputs : List StitchOutput) (answers : List (Result (Option StitchedFrame))) : Prop where
  first : ∀ answer, answers[0]? = some answer → answer = .ok none
  later : ∀ (number : Nat) (answer : Result (Option StitchedFrame)),
    answers[number + 1]? = some answer →
      ∃ frame, answer = .ok (some frame) ∧ frame.IsOf compositor sets outputs number

/-- The first frame sets were submitted and the others wait. Every call was accepted, and the host
holds the outputs of so many frame sets that it has got or will get. -/
structure Steady (initial : Stitcher) (sets : List (List Frame)) (outputs : List StitchOutput)
    (submitted held : Nat) (host : SteadyHost) : Prop where
  sent : ∃ jobs, host.pipeline.Sent initial jobs (host.answers.drop 1) ∧
    frameSets jobs = sets.take submitted ∧ Rotates initial.compositor held jobs
  isOpen : host.pipeline.slots.state ≠ .draining
  waiting : host.waiting = sets.drop submitted
  count : submitted ≤ sets.length
  answers : Answers initial.compositor sets outputs host.answers
  refusals : host.refusals = []

/-- After so many calls, a host is where the task says. -/
def InStep (initial : Stitcher) (sets : List (List Frame)) (outputs : List StitchOutput)
    (acted : Nat) (host : SteadyHost) : Prop :=
  let answered := host.answers.length
  match host.task with
  | .submit => host.Steady initial sets outputs answered (min answered 1) ∧
      (acted = 3 * answered ∨ answered = sets.length ∧ 3 * answered ≤ acted)
  | .retrieve => host.Steady initial sets outputs (answered + 1) (min (answered + 1) 2) ∧
      acted = 3 * answered + 1
  | .recycle frames => acted + 1 = 3 * answered ∧
      (answered = 1 ∧ frames = [] ∧ host.Steady initial sets outputs 1 1 ∨
        2 ≤ answered ∧ initial.compositor.AreTargets frames ∧
          host.Steady initial sets outputs answered 2)

/-- A host that starts is in step. -/
theorem in_step_start (initial : Stitcher) (sets : List (List Frame))
    (outputs : List StitchOutput) : (start initial sets).InStep initial sets outputs 0 :=
  ⟨⟨⟨[], .start initial, rfl, .start⟩, nofun, rfl, Nat.zero_le _, ⟨nofun, nofun⟩, rfl⟩, .inl rfl⟩

/-- A first answer is that there is nothing yet. -/
theorem Answers.of_none (compositor : Compositor) :
    Answers compositor sets outputs [.ok none] := by
  refine ⟨fun answer hanswer ↦ ?_, nofun⟩
  cases hanswer
  rfl

/-- A further answer is that of the next frame set. -/
theorem Answers.concat {compositor : Compositor} {answers : List (Result (Option StitchedFrame))}
    (h : Answers compositor sets outputs answers) {number : Nat}
    (hnumber : answers.length = number + 1) {frame : StitchedFrame}
    (hframe : frame.IsOf compositor sets outputs number) :
    Answers compositor sets outputs (answers ++ [.ok (some frame)]) := by
  constructor
  · intro answer hanswer
    rw [List.getElem?_append_left (by omega)] at hanswer
    exact h.first answer hanswer
  · intro position answer hanswer
    rcases Nat.lt_or_ge (position + 1) answers.length with hold | hnew
    · rw [List.getElem?_append_left hold] at hanswer
      exact h.later position answer hanswer
    · rw [List.getElem?_append_right hnew, List.getElem?_singleton] at hanswer
      have hposition : position = number := by
        by_contra hother
        rw [if_neg (by omega)] at hanswer
        cases hanswer
      rw [if_pos (by omega)] at hanswer
      cases hanswer
      exact ⟨frame, rfl, hposition ▸ hframe⟩

namespace Steady

/-- What the host does next makes no difference. -/
theorem with_task (h : host.Steady initial sets outputs submitted held) (task : HostTask) :
    Steady initial sets outputs submitted held { host with task } :=
  ⟨h.sent, h.isOpen, h.waiting, h.count, h.answers, h.refusals⟩

/-- The next frame set is accepted. -/
theorem submit {waiting : List (List Frame)} (hmakes : initial.Makes sets outputs)
    (h : host.Steady initial sets outputs host.answers.length held)
    (hframes : host.waiting = frames :: waiting) (hheld : held < 2) :
    ∃ next, host.pipeline.submit frames = .ok next ∧
      Steady initial sets outputs (host.answers.length + 1) (held + 1)
        { host with pipeline := next, waiting, task := .retrieve } := by
  obtain ⟨jobs, hsent, hsets, hrotates⟩ := h.sent
  have hdrop := h.waiting.symm.trans hframes
  have hnext : sets[host.answers.length]? = some frames := by
    rw [← List.head?_drop, hdrop, List.head?_cons]
  have hmore : host.answers.length < sets.length := (List.getElem?_eq_some_iff.mp hnext).1
  have hfew : (frameSets jobs).length ≤ (host.answers.drop 1).length + 1 := by
    rw [hsets, List.length_take, List.length_drop]
    omega
  obtain ⟨next, hsubmit, hsentNext, hopen⟩ := hsent.submit h.isOpen hfew
    (hmakes.frame_count (List.mem_of_getElem? hnext))
  refine ⟨next, hsubmit, ⟨jobs ++ [.process frames], hsentNext, ?_, hrotates.process frames hheld⟩,
    hopen, ?_, hmore, h.answers, h.refusals⟩
  · rw [StitcherCall.frame_sets_append, hsets, List.take_add_one, hnext]
    rfl
  · rw [← List.tail_drop, hdrop]
    rfl

/-- After the first frame set there is nothing to retrieve yet. -/
theorem retrieve_first (h : host.Steady initial sets outputs 1 held) (hnone : host.answers = []) :
    ∃ next, host.pipeline.retrieve = (.ok none, next) ∧
      Steady initial sets outputs 1 held
        { host with pipeline := next, answers := [.ok none], task := .recycle [] } := by
  obtain ⟨jobs, hsent, hsets, hrotates⟩ := h.sent
  rw [hnone] at hsent
  have hfew : (frameSets jobs).length ≤ 1 := by
    rw [hsets, List.length_take]
    omega
  obtain ⟨next, hretrieve, hnext, hopen⟩ := hsent.retrieve_none (.inl ⟨h.isOpen, hfew⟩)
  exact ⟨next, hretrieve, ⟨jobs, hnext, hsets, hrotates⟩, hopen, h.waiting, h.count,
    .of_none initial.compositor, h.refusals⟩

/-- The retrieved outputs go back to the pool. -/
theorem recycle (h : host.Steady initial sets outputs submitted 2)
    (hsizes : initial.compositor.outputSizes ≠ [])
    (hframes : initial.compositor.AreTargets frames) :
    ∃ next, host.pipeline.recycle frames = .ok next ∧
      Steady initial sets outputs submitted 1 { host with pipeline := next, task := .submit } := by
  obtain ⟨jobs, hsent, hsets, hrotates⟩ := h.sent
  obtain ⟨next, hrecycle, hnext, hslots⟩ := hsent.recycle frames
  have hsome : ¬frames.isEmpty := by
    intro hempty
    rw [List.isEmpty_iff.mp hempty] at hframes
    exact hsizes (List.forall₂_nil_right_iff.mp hframes)
  rw [if_neg hsome] at hnext
  refine ⟨next, hrecycle, ⟨_, hnext, ?_, hrotates.recycle hframes⟩, ?_, h.waiting, h.count,
    h.answers, h.refusals⟩
  · rw [StitcherCall.frame_sets_append, hsets]
    exact List.append_nil _
  · exact hslots ▸ h.isOpen

section Made

variable (hsound : initial.Sound) (hvalid : initial.compositor.Valid)
  (hmakes : initial.Makes sets outputs)

include hsound hvalid hmakes

/-- The stitcher makes outputs of what was sent. -/
theorem exists_made (h : host.Steady initial sets outputs submitted held) :
    ∃ jobs, host.pipeline.Sent initial jobs (host.answers.drop 1) ∧
      frameSets jobs = sets.take submitted ∧ Rotates initial.compositor held jobs ∧
        List.Forall₂ (fun output cycle ↦ ∃ result, cycle.outcome = .ok result ∧
          StitchOutput.RemadeAs initial.compositor output result) (outputs.take submitted)
            (initial.cycles jobs) := by
  obtain ⟨jobs, hsent, hsets, hrotates⟩ := h.sent
  have htaken := hmakes.take submitted
  rw [← hsets] at htaken
  exact ⟨jobs, hsent, hsets, hrotates,
    hsound.cycles_remade hsound hvalid (.refl initial) hrotates.recycled htaken⟩

/-- The worker has a turn. -/
theorem work (h : host.Steady initial sets outputs submitted held) :
    Steady initial sets outputs submitted held { host with pipeline := host.pipeline.work } := by
  obtain ⟨jobs, hsent, hsets, hrotates, hmade⟩ := h.exists_made hsound hvalid hmakes
  exact ⟨⟨jobs, hsent.work hmade, hsets, hrotates⟩, h.isOpen, h.waiting, h.count, h.answers,
    h.refusals⟩

/-- From the second frame set on, the one before is retrieved. -/
theorem retrieve_later (h : host.Steady initial sets outputs (host.answers.length + 1) held)
    (hsome : host.answers ≠ []) :
    ∃ frame next, host.pipeline.retrieve = (.ok (some frame), next) ∧
      initial.compositor.AreTargets frame.output.outputs ∧
        Steady initial sets outputs (host.answers.length + 1) held
          { host with
            pipeline := next
            answers := host.answers ++ [.ok (some frame)]
            task := .recycle frame.output.outputs } := by
  obtain ⟨jobs, hsent, hsets, hrotates, hmade⟩ := h.exists_made hsound hvalid hmakes
  have hpos := List.length_pos_iff.mpr hsome
  have hcount := h.count
  -- One frame set more was submitted than there are answers, and the first answer was of none.
  have hdue : (frameSets jobs).length = (host.answers.drop 1).length + 2 := by
    rw [hsets, List.length_take, List.length_drop]
    omega
  obtain ⟨frame, next, hretrieve, hframe, hnext, hstate⟩ :=
    hsent.retrieve_some hmade (.inl ⟨h.isOpen, hdue⟩)
  rw [hsets] at hframe
  have hnumber : host.answers.length = (host.answers.drop 1).length + 1 := by
    rw [List.length_drop]
    omega
  obtain ⟨_, _, hremade⟩ := hframe.made
  refine ⟨frame, next, hretrieve, hremade.targets, ⟨jobs, ?_, hsets, hrotates⟩, hstate ▸ h.isOpen,
    h.waiting, hcount, h.answers.concat hnumber hframe.of_take, h.refusals⟩
  rwa [List.drop_append_of_le_length hpos]

end Made

end Steady

/-- A host that submits goes on to retrieve, unless it has nothing to submit. -/
theorem InStep.act_submit (hmakes : initial.Makes sets outputs)
    (h : host.InStep initial sets outputs acted)
    (htask : host.task = .submit) : host.act.InStep initial sets outputs (acted + 1) := by
  unfold InStep at h
  rw [htask] at h
  obtain ⟨hsteady, hacted⟩ := h
  have hcount := hsteady.count
  cases hwaiting : host.waiting with
  | nil =>
      have hact : host.act = host := by
        simp only [act, htask, hwaiting]
      have hall : sets.length ≤ host.answers.length :=
        List.drop_eq_nil_iff.mp (hsteady.waiting.symm.trans hwaiting)
      rw [hact]
      unfold InStep
      rw [htask]
      exact ⟨hsteady, .inr ⟨by omega, by omega⟩⟩
  | cons frames waiting =>
      have hmore := congrArg List.length (hsteady.waiting.symm.trans hwaiting)
      rw [List.length_cons, List.length_drop] at hmore
      obtain ⟨next, hsubmit, hnext⟩ := hsteady.submit hmakes hwaiting (by omega)
      have hact : host.act = { host with pipeline := next, waiting, task := .retrieve } := by
        simp only [act, htask, hwaiting, hsubmit]
      rw [hact]
      have hheld : min host.answers.length 1 + 1 = min (host.answers.length + 1) 2 := by omega
      rw [hheld] at hnext
      refine ⟨hnext, ?_⟩
      show acted + 1 = 3 * host.answers.length + 1
      omega

section Made

variable (hsound : initial.Sound) (hvalid : initial.compositor.Valid)
  (hmakes : initial.Makes sets outputs)

include hsound hvalid hmakes

/-- A host that retrieves goes on to give back what it got. -/
theorem InStep.act_retrieve (h : host.InStep initial sets outputs acted)
    (htask : host.task = .retrieve) : host.act.InStep initial sets outputs (acted + 1) := by
  unfold InStep at h
  rw [htask] at h
  obtain ⟨hsteady, hacted⟩ := h
  by_cases hnone : host.answers = []
  · rw [hnone] at hsteady hacted
    obtain ⟨next, hretrieve, hnext⟩ := hsteady.retrieve_first hnone
    have hact : host.act = { host with
        pipeline := next, answers := [.ok none], task := .recycle [] } := by
      simp only [act, htask, hretrieve, hnone, List.nil_append, retrievedOutputs]
    rw [hact]
    refine ⟨?_, .inl ⟨rfl, rfl, hnext⟩⟩
    show acted + 1 + 1 = 3 * 1
    rw [hacted]
    rfl
  · have hpos := List.length_pos_iff.mpr hnone
    have hheld : min (host.answers.length + 1) 2 = 2 := by omega
    rw [hheld] at hsteady
    obtain ⟨frame, next, hretrieve, htargets, hnext⟩ :=
      hsteady.retrieve_later hsound hvalid hmakes hnone
    have hact : host.act = { host with
        pipeline := next
        answers := host.answers ++ [.ok (some frame)]
        task := .recycle frame.output.outputs } := by
      simp only [act, htask, hretrieve, retrievedOutputs]
    have hlength : (host.answers ++ [Except.ok (some frame)]).length = host.answers.length + 1 :=
      List.length_append
    rw [hact]
    refine ⟨?_, .inr ⟨?_, htargets, hlength ▸ hnext⟩⟩
    · show acted + 1 + 1 = 3 * (host.answers ++ [Except.ok (some frame)]).length
      omega
    · show 2 ≤ (host.answers ++ [Except.ok (some frame)]).length
      omega

end Made

/-- A host that has given outputs back starts again. -/
theorem InStep.act_recycle (hsizes : initial.compositor.outputSizes ≠ [])
    (h : host.InStep initial sets outputs acted) (htask : host.task = .recycle frames) :
    host.act.InStep initial sets outputs (acted + 1) := by
  unfold InStep at h
  rw [htask] at h
  obtain ⟨hacted, hheld⟩ := h
  rcases hheld with ⟨hone, rfl, hsteady⟩ | ⟨htwo, htargets, hsteady⟩
  · -- No outputs came with the first answer.
    have hact : host.act = { host with task := .submit } := by
      simp only [act, htask]
      rfl
    rw [hact]
    refine ⟨?_, .inl hacted⟩
    show Steady initial sets outputs host.answers.length (min host.answers.length 1) _
    rw [hone]
    exact hsteady.with_task .submit
  · obtain ⟨next, hrecycle, hnext⟩ := hsteady.recycle hsizes htargets
    have hact : host.act = { host with pipeline := next, task := .submit } := by
      simp only [act, htask, hrecycle]
    rw [hact]
    refine ⟨?_, .inl hacted⟩
    show Steady initial sets outputs host.answers.length (min host.answers.length 1) _
    rw [Nat.min_eq_right (by omega)]
    exact hnext

/-- How far a host has come by its calls. -/
theorem InStep.reached (h : host.InStep initial sets outputs acted) :
    ∃ held, host.Steady initial sets outputs (min sets.length ((acted + 2) / 3)) held ∧
      host.answers.length = min sets.length ((acted + 1) / 3) := by
  unfold InStep at h
  cases htask : host.task with
  | submit =>
      rw [htask] at h
      obtain ⟨hsteady, hacted⟩ := h
      have hcount := hsteady.count
      have hsubmitted : min sets.length ((acted + 2) / 3) = host.answers.length := by omega
      exact ⟨_, hsubmitted ▸ hsteady, by omega⟩
  | retrieve =>
      rw [htask] at h
      obtain ⟨hsteady, hacted⟩ := h
      have hcount := hsteady.count
      have hsubmitted : min sets.length ((acted + 2) / 3) = host.answers.length + 1 := by omega
      exact ⟨_, hsubmitted ▸ hsteady, by omega⟩
  | recycle frames =>
      rw [htask] at h
      obtain ⟨hacted, ⟨hone, -, hsteady⟩ | ⟨-, -, hsteady⟩⟩ := h
      · have hcount := hsteady.count
        have hsubmitted : min sets.length ((acted + 2) / 3) = 1 := by omega
        exact ⟨_, hsubmitted ▸ hsteady, by omega⟩
      · have hcount := hsteady.count
        have hsubmitted : min sets.length ((acted + 2) / 3) = host.answers.length := by omega
        exact ⟨_, hsubmitted ▸ hsteady, by omega⟩

section Made

variable (hsound : initial.Sound) (hvalid : initial.compositor.Valid)
  (hmakes : initial.Makes sets outputs)

include hsound hvalid hmakes

/-- A turn of the worker changes no step. -/
theorem InStep.work (h : host.InStep initial sets outputs acted) :
    (host.turn .worker).InStep initial sets outputs acted := by
  obtain ⟨pipeline, task, waiting, answers, refusals⟩ := host
  cases task with
  | submit =>
      obtain ⟨hsteady, hacted⟩ := h
      exact ⟨hsteady.work hsound hvalid hmakes, hacted⟩
  | retrieve =>
      obtain ⟨hsteady, hacted⟩ := h
      exact ⟨hsteady.work hsound hvalid hmakes, hacted⟩
  | recycle frames =>
      obtain ⟨hacted, ⟨hone, hframes, hsteady⟩ | ⟨htwo, htargets, hsteady⟩⟩ := h
      · exact ⟨hacted, .inl ⟨hone, hframes, hsteady.work hsound hvalid hmakes⟩⟩
      · exact ⟨hacted, .inr ⟨htwo, htargets, hsteady.work hsound hvalid hmakes⟩⟩

/-- In every turn a host stays in step. -/
theorem InStep.run (hsizes : initial.compositor.outputSizes ≠ [])
    (h : host.InStep initial sets outputs acted) (turns : List HostTurn) :
    (host.run turns).InStep initial sets outputs (acted + turns.count .host) := by
  induction turns generalizing host acted with
  | nil => exact h
  | cons turn turns ih =>
      cases turn with
      | worker => exact ih (h.work hsound hvalid hmakes)
      | host =>
          have hact : host.act.InStep initial sets outputs (acted + 1) := by
            cases htask : host.task with
            | submit => exact h.act_submit hmakes htask
            | retrieve => exact h.act_retrieve hsound hvalid hmakes htask
            | recycle frames => exact h.act_recycle hsizes htask
          rw [List.count_cons_self, ← Nat.add_assoc, Nat.add_right_comm]
          exact ih hact

/-- While a host is steady, the pool makes no more than two frames for each output and drops none,
and so the pipeline's statistics say. -/
theorem Steady.within_two {limits : PoolLimits}
    (hroom : limits.HaveRoom initial.compositor.format initial.compositor.outputSizes)
    (hstart : Stitcher.InRotation limits initial.compositor 0 initial)
    (h : host.Steady initial sets outputs submitted held) :
    Stitcher.WithinTwo initial.compositor host.pipeline.worker.stitcher.pool.counters ∧
      Stitcher.WithinTwo initial.compositor host.pipeline.stats.pool := by
  obtain ⟨jobs, hsent, _, hrotates, hmade⟩ := h.exists_made hsound hvalid hmakes
  have hok := Stitcher.outcome_of_remade hmade
  obtain ⟨handled, queued, collected, rfl, hworker, _, hpool⟩ := hsent.consistent.worker
  obtain ⟨_, hwithin⟩ := Stitcher.in_rotation_of_rotates hstart hroom hrotates hok
  constructor
  · -- What the worker has handled is the front of what was sent.
    obtain ⟨_, hfront⟩ := hrotates.front
    rw [Stitcher.cycles_append, List.forall_mem_append] at hok
    obtain ⟨hrotation, _⟩ := Stitcher.in_rotation_of_rotates hstart hroom hfront hok.1
    show Stitcher.WithinTwo _ host.pipeline.worker.stitcher.pool.counters
    rw [hworker.stitcher]
    exact hrotation.within_two
  · show Stitcher.WithinTwo _ host.pipeline.stats.pool
    rw [hpool]
    cases hlast : collected.getLast? with
    | none => exact ⟨Nat.zero_le _, rfl⟩
    | some composed =>
        obtain ⟨index, hindex⟩ := List.getElem?_of_mem (List.mem_of_getLast? hlast)
        obtain ⟨cycle, hcycle, _, hsame, _⟩ := hworker.delivered hindex
        show Stitcher.WithinTwo _ composed.pool
        rw [hsame]
        exact hwithin cycle (List.mem_of_getElem? hcycle)

end Made

/-- However the turns of the worker fall, a steady host is never refused. Its first answer is that
there is nothing yet, and every later one is what the stitcher makes of the frame set before. The
pool never makes more than two frames for each output and never drops one, as long as it may keep
one frame for each output. -/
theorem steady_loop {format : PixelFormat} {crop : Option Crop} {specs : List OutputSpec}
    {layout : OutputLayout} {options : CompositeOptions} {compositor : Compositor}
    {gains : GainCompensator} {preview : Option Canvas} {limits : PoolLimits}
    (hcompositor : Compositor.make format crop specs layout options = .ok compositor)
    (hgains : gains.Reachable)
    (hmake : Stitcher.make compositor gains preview limits = .ok initial)
    (hroom : limits.HaveRoom compositor.format compositor.outputSizes)
    (hmakes : initial.Makes sets outputs) (turns : List HostTurn) :
    let host := (start initial sets).run turns
    let acted := turns.count .host
    host.refusals = [] ∧
      host.pipeline.stats.submitted = min sets.length ((acted + 2) / 3) ∧
      host.answers.length = min sets.length ((acted + 1) / 3) ∧
      Answers compositor sets outputs host.answers ∧
      Stitcher.WithinTwo compositor host.pipeline.worker.stitcher.pool.counters ∧
      Stitcher.WithinTwo compositor host.pipeline.stats.pool := by
  intro host acted
  obtain ⟨hsound, rfl, _⟩ := Stitcher.sound_of_make hgains hmake
  have hvalid := Compositor.valid_of_make hcompositor
  have hsizes := Compositor.output_sizes_ne_nil hcompositor
  have hstep : host.InStep initial sets outputs acted := by
    have hrun := (in_step_start initial sets outputs).run hsound hvalid hmakes hsizes turns
    rwa [Nat.zero_add] at hrun
  obtain ⟨_, hsteady, hanswered⟩ := hstep.reached
  obtain ⟨jobs, hsent, hsets, _⟩ := hsteady.sent
  have hsubmitted : host.pipeline.stats.submitted = min sets.length ((acted + 2) / 3) := by
    have hcount : host.pipeline.stats.submitted = (frameSets jobs).length :=
      hsent.consistent.submitted
    rw [hcount, hsets, List.length_take]
    omega
  obtain ⟨hworker, hstats⟩ := hsteady.within_two hsound hvalid hmakes hroom (.of_make hmake)
  exact ⟨hsteady.refusals, hsubmitted, hanswered, hsteady.answers, hworker, hstats⟩

/-- Three frame sets of one pixel. -/
def spotSets : List (List Frame) := [[.grayRow 1 #[7]], [.grayRow 1 #[5]], [.grayRow 1 #[9]]]

/-- What the stitcher of one source makes of them. -/
def spotOutputs : List StitchOutput :=
  [⟨[.grayRow 4 #[14, 0, 0, 0]], some (.grayRow 2 #[6, 0])⟩,
    ⟨[.grayRow 4 #[10, 0, 0, 0]], some (.grayRow 2 #[4, 0])⟩,
    ⟨[.grayRow 4 #[18, 0, 0, 0]], some (.grayRow 2 #[8, 0])⟩]

/-- The host submits, retrieves and gives back three times. The worker composes the first frame set
at once and the third one at the end. -/
def spotTurns : List HostTurn :=
  [.host, .worker, .host, .host, .host, .host, .host, .host, .host, .host, .worker, .worker]

/-- Two frames are made for the one output, and no third one for the third frame set. -/
theorem spot_steady : let host := (start .spot spotSets).run spotTurns
    host.refusals = [] ∧ host.answers.length = 3 ∧
      host.pipeline.worker.stitcher.pool.counters.allocatedFrames ≤ 2 := by
  have hgains : Stitcher.spot.gains.Reachable :=
    .make (show GainCompensator.make [.fixed [2]] 1 .bilinear = .ok Stitcher.spot.gains by
      decide +kernel)
  have hroom : PoolLimits.standard.HaveRoom Compositor.spot.format Compositor.spot.outputSizes :=
    ⟨by decide +kernel, fun size ↦ List.count_le_length.trans (by decide)⟩
  have hmakes : Stitcher.spot.Makes spotSets spotOutputs := by
    unfold Stitcher.Makes
    decide +kernel
  have hmake : Stitcher.make .spot Stitcher.spot.gains Stitcher.spot.preview .standard
      = .ok .spot := rfl
  obtain ⟨hrefusals, _, hanswers, _, hworker, _⟩ :=
    steady_loop Compositor.make_spot hgains hmake hroom hmakes spotTurns
  exact ⟨hrefusals, hanswers, hworker.allocated⟩

end SteadyHost

end Panorama
