import Panorama.Proofs.Compositor.InPlace
import Panorama.Proofs.Stitcher.Reuse

/-!
# Rejected frame sets leave no trace

A frame set whose formats or sizes do not suit the compositor is rejected before anything is
changed: not the gains, not the number of frame sets they have seen, not the pool. A run of calls is
therefore the same without its rejected frame sets. Read `rejected_leaves_no_trace` first.
-/

namespace Panorama

/-- Whether an operation was refused because sizes do not fit together. -/
def Failure.isMismatch : Failure → Bool
  | .refused (.sizeMismatch _) => true
  | _ => false

/-- A call on a stitcher, with what it returns and the stitcher behind it. -/
structure StitcherStep where
  /-- The call. -/
  call : StitcherCall
  /-- What processing returns; taking back frames returns nothing. -/
  outcome : Option (Outcome StitchOutput)
  /-- The stitcher behind the call. -/
  after : Stitcher

/-- Whether the call has been to process a frame set, and the frame set was rejected. -/
def StitcherStep.isRejected (step : StitcherStep) : Bool :=
  match step.outcome with
  | some (.error failure) => failure.isMismatch
  | _ => false

/-- A refused update leaves the gains as they are. -/
theorem GainCompensator.unchanged_of_refused {gains : GainCompensator} {views : List FrameView}
    {templates : List Template} {error : Error}
    (h : (gains.update views templates).1 = .error (.refused error)) :
    (gains.update views templates).2 = gains := by
  have hupdates := gains.updates views templates
  generalize gains.update views templates = result at hupdates h ⊢
  cases hupdates with
  | miscounted _ | misled _ => rfl
  | complete _ _ _ _ | broken _ _ _ => cases h

namespace Stitcher

variable {stitcher : Stitcher} {frames : List Frame} {failure : Failure}

/-- One call on a stitcher. -/
def step (stitcher : Stitcher) (call : StitcherCall) : StitcherStep where
  call := call
  outcome := match call with
    | .process frames => some (stitcher.process frames).1
    | .recycle _ => none
  after := stitcher.perform call

@[simp] theorem step_call (stitcher : Stitcher) (call : StitcherCall) :
    (stitcher.step call).call = call := rfl

/-- Several calls on a stitcher, one after the other. -/
def steps (stitcher : Stitcher) : List StitcherCall → List StitcherStep
  | [] => []
  | call :: calls => stitcher.step call :: (stitcher.perform call).steps calls

/-- Composing a frame set never finds that sizes do not fit together. -/
theorem compose_no_mismatch (stitcher : Stitcher) (views : List FrameView) :
    FailsOnly (fun failure ↦ ¬failure.isMismatch) (stitcher.compose views).1 :=
  compose_fails_late (fun _ ↦ nofun) (fun _ ↦ nofun) nofun stitcher views

/-- A rejected frame set leaves the stitcher as it is. -/
theorem process_rejected (h : (stitcher.process frames).1 = .error failure)
    (hmismatch : failure.isMismatch = true) : (stitcher.process frames).2 = stitcher := by
  unfold process at h ⊢
  split
  · rfl
  · rename_i views hprepare
    rw [hprepare] at h
    dsimp only at h ⊢
    cases hupdate : (stitcher.gains.update views stitcher.compositor.templates).1 with
    | error other =>
        rw [hupdate] at h
        cases h
        cases failure with
        | refused error =>
            rw [GainCompensator.unchanged_of_refused hupdate]
        | fault => cases hmismatch
    | ok _ =>
        -- From here on the gains have moved on, but no size is compared any more.
        rw [hupdate] at h
        exact absurd hmismatch (compose_no_mismatch _ _ _ h)

/-- A rejected call leaves the stitcher as it is. -/
theorem step_rejected {call : StitcherCall} (h : (stitcher.step call).isRejected = true) :
    stitcher.perform call = stitcher := by
  cases call with
  | recycle frames => cases h
  | process frames =>
      cases houtcome : (stitcher.process frames).1 with
      | ok output =>
          simp [StitcherStep.isRejected, step, houtcome] at h
      | error failure =>
          have hmismatch : failure.isMismatch = true := by
            simpa [StitcherStep.isRejected, step, houtcome] using h
          exact process_rejected houtcome hmismatch

/-- Without its rejected calls, a run has the other calls with what they have come to, and ends with
the same stitcher. -/
theorem run_accepted (stitcher : Stitcher) (calls : List StitcherCall) :
    let accepted := (stitcher.steps calls).filter (!·.isRejected)
    stitcher.steps (accepted.map StitcherStep.call) = accepted ∧
      stitcher.performAll (accepted.map StitcherStep.call) = stitcher.performAll calls := by
  induction calls generalizing stitcher with
  | nil => exact ⟨rfl, rfl⟩
  | cons call calls ih =>
      obtain ⟨hsteps, hlast⟩ := ih (stitcher.perform call)
      dsimp only
      rw [steps, show stitcher.performAll (call :: calls)
        = (stitcher.perform call).performAll calls from rfl]
      cases hrejected : (stitcher.step call).isRejected with
      | true =>
          rw [List.filter_cons_of_neg (by simp [hrejected])]
          rw [step_rejected hrejected] at hsteps hlast ⊢
          exact ⟨hsteps, hlast⟩
      | false =>
          rw [List.filter_cons_of_pos (by simp [hrejected]), List.map_cons]
          exact ⟨congrArg (stitcher.step call :: ·) hsteps, hlast⟩

/-- What is rejected leaves no trace. A stitcher that rejects a frame set because sizes do not fit
together is the same as before: its gains, the number of frame sets they have seen, the number of
recomputations of every template, and its pool with the frames and the counters. So every run of
calls is the same without the rejected ones: the other calls return the same outputs and previews
and leave the same stitcher behind, and so does the last one. A refused update of the gains leaves
these as they are, and a refused composition all its targets. -/
theorem rejected_leaves_no_trace :
    (∀ (stitcher : Stitcher) (frames : List Frame) (mismatch : Mismatch),
      (stitcher.process frames).1 = .error (.refused (.sizeMismatch mismatch)) →
        (stitcher.process frames).2 = stitcher) ∧
    (∀ (stitcher : Stitcher) (calls : List StitcherCall),
      let accepted := (stitcher.steps calls).filter (!·.isRejected)
      stitcher.steps (accepted.map StitcherStep.call) = accepted ∧
        stitcher.performAll (accepted.map StitcherStep.call) = stitcher.performAll calls) ∧
    (∀ (gains : GainCompensator) (views : List FrameView) (templates : List Template)
        (error : Error), (gains.update views templates).1 = .error (.refused error) →
      (gains.update views templates).2 = gains) ∧
    (∀ (compositor : Compositor) (frames : List Frame) (gains : GainTable) (targets : List Frame),
      (compositor.compositeInto frames gains targets
        = (compositor.compositeOver frames gains targets).1.map fun () ↦
          (compositor.compositeOver frames gains targets).2) ∧
      ∀ error, (compositor.compositeOver frames gains targets).1 = .error (.refused error) →
        (compositor.compositeOver frames gains targets).2 = targets) := by
  refine ⟨?_, ?_, ?_, ?_⟩
  · intro stitcher frames mismatch h
    exact process_rejected h rfl
  · intro stitcher calls
    exact stitcher.run_accepted calls
  · intro gains views templates error h
    exact GainCompensator.unchanged_of_refused h
  · intro compositor frames gains targets
    refine ⟨compositor.composite_over_eq frames gains targets, ?_⟩
    intro error h
    exact Compositor.composite_over_refused h

/-- A stitcher of one source of one pixel, which it makes twice as bright at first and three times
as bright from the second frame set on. -/
def brightening : Stitcher :=
  { spot with gains := ⟨1, .bilinear, [⟨.scheduled ⟨[[2], [3]]⟩, 0⟩], ⟨[[1]]⟩, 0⟩ }

/-- Two frame sets, and one with too many frames in between. -/
def brighteningCalls : List StitcherCall :=
  [.process [.grayRow 1 #[7]], .process [.grayRow 1 #[5], .grayRow 1 #[6]],
    .process [.grayRow 1 #[5]]]

/-- The gains do not move on with the rejected frame set, so that the last frame set is three times
as bright, with the rejected one in front of it and without. An update for no frames leaves the
gains as they are, and a composition of no frames its target. -/
theorem brightening_rejects :
    (brightening.process [.grayRow 1 #[5], .grayRow 1 #[6]]).2 = brightening ∧
    (brightening.steps brighteningCalls).map StitcherStep.outcome
      = [some (.ok ⟨[.grayRow 4 #[14, 0, 0, 0]], some (.grayRow 2 #[6, 0])⟩),
        some (.error (.refused (.sizeMismatch (.frameCount 2 1)))),
        some (.ok ⟨[.grayRow 4 #[15, 0, 0, 0]], some (.grayRow 2 #[6, 0])⟩)] ∧
    (brightening.steps [.process [.grayRow 1 #[7]], .process [.grayRow 1 #[5]]]).map
        StitcherStep.outcome
      = [some (.ok ⟨[.grayRow 4 #[14, 0, 0, 0]], some (.grayRow 2 #[6, 0])⟩),
        some (.ok ⟨[.grayRow 4 #[15, 0, 0, 0]], some (.grayRow 2 #[6, 0])⟩)] ∧
    (brightening.gains.update [] []).2 = brightening.gains ∧
    (Compositor.spot.compositeOver [] ⟨[[2]]⟩ [.grayRow 4 #[9, 9, 9, 9]]).2
      = [.grayRow 4 #[9, 9, 9, 9]] := by
  obtain ⟨hprocess, hrun, hupdate, hcomposite⟩ := rejected_leaves_no_trace
  have houtcomes : (brightening.steps brighteningCalls).map StitcherStep.outcome
      = [some (.ok ⟨[.grayRow 4 #[14, 0, 0, 0]], some (.grayRow 2 #[6, 0])⟩),
        some (.error (.refused (.sizeMismatch (.frameCount 2 1)))),
        some (.ok ⟨[.grayRow 4 #[15, 0, 0, 0]], some (.grayRow 2 #[6, 0])⟩)] := by
    decide +kernel
  refine ⟨hprocess _ _ (.frameCount 2 1) rfl, houtcomes, ?_, ?_, ?_⟩
  · have haccepted := (hrun brightening brighteningCalls).1
    simp only [brighteningCalls, steps, List.map_cons, List.map_nil, List.cons.injEq, and_true]
      at houtcomes haccepted
    obtain ⟨hfirst, hsecond, hthird⟩ := houtcomes
    simp only [List.filter, StitcherStep.isRejected, hfirst, hsecond, hthird, Failure.isMismatch,
      Bool.not_false, Bool.not_true, List.map_cons, List.map_nil, step_call] at haccepted
    rw [haccepted, List.map_cons, List.map_cons, hfirst, hthird, List.map_nil]
  · exact hupdate _ _ _ (.sizeMismatch (.gainFrames 0 1)) rfl
  · exact (hcomposite _ _ _ _).2 (.sizeMismatch (.frameCount 0 1)) rfl

end Stitcher

end Panorama
