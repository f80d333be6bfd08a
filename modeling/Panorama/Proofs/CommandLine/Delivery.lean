import Panorama.Proofs.CommandLine.Saving
import Panorama.Proofs.Pipeline.Progress

/-!
# What a session delivers

Every submitted frame set but the latest one is delivered, and at the end of the stream that one is
delivered too. `Session.Progress` counts the sets that went in and those that came out.
-/

namespace Panorama.CommandLine.Session

variable {plan : Plan} {session : Session} {submitted delivered : Nat} {frames : List Frame}

/-- What is read from is the same in two sessions. -/
structure SameReading (session next : Session) : Prop where
  format : next.format = session.format
  sizes : next.sizes = session.sizes
  inputs : next.inputs = session.inputs
  assembler : next.assembler = session.assembler

/-- A session has submitted the first frame sets of its plan and delivered some of them. -/
structure Progress (plan : Plan) (submitted delivered : Nat) (session : Session) : Prop where
  writes : Writes plan delivered session
  carries : session.pipeline.Carries plan.initial (plan.sets.take submitted) delivered
  count : submitted ≤ plan.sets.length
  submitted : session.submitted = submitted

namespace Progress

/-- The number of submitted frame sets. -/
theorem taken_length (h : Progress plan submitted delivered session) :
    (plan.sets.take submitted).length = submitted :=
  List.length_take_of_le h.count

/-- Nothing is delivered when nothing is due. -/
theorem deliver_none (h : Progress plan submitted delivered session)
    (hnone : session.pipeline.slots.state ≠ .draining ∧ submitted ≤ delivered + 1 ∨
      submitted = delivered) :
    ∃ next, session.deliver = (.ok false, next) ∧ Progress plan submitted delivered next ∧
      session.SameReading next ∧ next.pipeline.slots.state ≠ .draining := by
  have hcarries := h.carries.retrieve_none (by rwa [h.taken_length])
  obtain ⟨pipeline, hretrieve, hcarried, hopen⟩ := hcarries
  refine ⟨{ session with pipeline }, ?_, ⟨h.writes.unaffected pipeline _ _, hcarried, h.count,
    h.submitted⟩, ⟨rfl, rfl, rfl, rfl⟩, hopen⟩
  unfold deliver
  rw [hretrieve]

/-- The output that is due is delivered. -/
theorem deliver_some (h : Progress plan submitted delivered session)
    (hdue : session.pipeline.slots.state ≠ .draining ∧ submitted = delivered + 2 ∨
      session.pipeline.slots.state = .draining ∧ delivered < submitted) :
    ∃ next, session.deliver = (.ok true, next) ∧ Progress plan submitted (delivered + 1) next ∧
      session.SameReading next ∧
        next.pipeline.slots.state = session.pipeline.slots.state := by
  obtain ⟨output, frame, pipeline, houtput, hretrieve, hremade, hcarried, hstate⟩ :=
    h.carries.retrieve_some plan.sound plan.valid (plan.makes.take submitted)
      (by rwa [h.taken_length])
  rw [List.getElem?_take_of_lt (by omega)] at houtput
  have hformed (made : Frame) (hmade : made ∈ frame.output.outputs) : made.WellFormed := by
    obtain ⟨index, hindex⟩ := List.getElem?_of_mem hmade
    obtain ⟨_, _, htarget⟩ := Failing.exists_of_forall₂ hremade.targets.flip hindex
    exact htarget.1
  have hstart : Writes plan delivered { session with pipeline } := h.writes.unaffected pipeline _ _
  obtain ⟨out, preview, middle, hkeep, hkept⟩ := hstart.keep houtput hremade
  obtain ⟨picture, store, log, hdepict, hdrawn⟩ := hkept.depict hremade.targets
  obtain ⟨last, hrecycle, hlast, hslots⟩ := hcarried.recycle hformed
  refine ⟨{ session with
    pipeline := last, delivered := session.delivered + 1, out, preview, picture, store, log },
    ?_, ⟨⟨hdrawn.out, hdrawn.preview, hdrawn.sources, hdrawn.picture⟩, hlast, h.count,
      h.submitted⟩, ⟨rfl, rfl, rfl, rfl⟩, (congrArg PipelineSlots.state hslots).trans hstate⟩
  unfold deliver
  rw [hretrieve]
  dsimp only
  unfold save giveBack
  rw [hkeep]
  dsimp only
  rw [hdepict]
  dsimp only
  rw [hrecycle]
  rfl

/-- As long as the stream goes on, every frame set but the latest one is delivered. -/
theorem deliver_open (h : Progress plan (submitted + 1) (submitted - 1) session)
    (hopen : session.pipeline.slots.state ≠ .draining) :
    ∃ isMore next, session.deliver = (.ok isMore, next) ∧
      Progress plan (submitted + 1) submitted next ∧ session.SameReading next ∧
        next.pipeline.slots.state ≠ .draining := by
  cases submitted with
  | zero =>
      obtain ⟨next, hdeliver, hnext⟩ := h.deliver_none (.inl ⟨hopen, Nat.le_refl 1⟩)
      exact ⟨false, next, hdeliver, hnext⟩
  | succ submitted =>
      obtain ⟨next, hdeliver, hprogress, hsame, hstate⟩ := h.deliver_some (.inl ⟨hopen, rfl⟩)
      exact ⟨true, next, hdeliver, hprogress, hsame, hstate ▸ hopen⟩

/-- A further frame set is submitted, and the one before it is delivered. -/
theorem submit (h : Progress plan submitted (submitted - 1) session)
    (hopen : session.pipeline.slots.state ≠ .draining)
    (hset : plan.sets[submitted]? = some frames) :
    ∃ next, session.submit frames = (.ok (), next) ∧ Progress plan (submitted + 1) submitted next ∧
      session.SameReading next ∧ next.pipeline.slots.state ≠ .draining := by
  obtain ⟨pipeline, hsubmit, hcarries, hstate⟩ := h.carries.submit hopen
    (by rw [h.taken_length]; omega) (plan.makes.frame_count (List.mem_of_getElem? hset))
  have hlast : plan.sets.take submitted ++ [frames] = plan.sets.take (submitted + 1) := by
    rw [List.take_add_one, hset, Option.toList_some]
  rw [hlast] at hcarries
  have hcount : submitted + 1 ≤ plan.sets.length := (List.getElem?_eq_some_iff.mp hset).1
  have hnext : Progress plan (submitted + 1) (submitted - 1)
      { session with pipeline, submitted := session.submitted + 1 } :=
    ⟨h.writes.unaffected pipeline _ _, hcarries, hcount, congrArg Nat.succ h.submitted⟩
  obtain ⟨isMore, next, hdeliver, hprogress, hsame, hafter⟩ := hnext.deliver_open hstate
  refine ⟨next, ?_, hprogress, ⟨hsame.format, hsame.sizes, hsame.inputs, hsame.assembler⟩, hafter⟩
  unfold Session.submit
  rw [hsubmit]
  dsimp only
  rw [hdeliver]
  rfl

/-- At the end of the stream, what is in flight is delivered. -/
theorem drain {steps : Nat} (h : Progress plan plan.sets.length delivered session)
    (hstate : delivered < plan.sets.length → session.pipeline.slots.state = .draining)
    (hsteps : plan.sets.length < delivered + steps) :
    ∃ next, session.drain steps = (.ok (), next) ∧ Writes plan plan.sets.length next := by
  have hflight := h.carries.in_flight
  rw [h.taken_length] at hflight
  induction steps generalizing delivered session with
  | zero => omega
  | succ steps ih =>
      unfold Session.drain
      by_cases hdue : delivered < plan.sets.length
      · obtain ⟨next, hdeliver, hprogress, _, hsame⟩ := h.deliver_some (.inr ⟨hstate hdue, hdue⟩)
        rw [hdeliver]
        have hnext := hprogress.carries.in_flight
        rw [hprogress.taken_length] at hnext
        exact ih hprogress (fun _ ↦ hsame.trans (hstate hdue)) (by omega) hnext
      · have hall : plan.sets.length = delivered := by omega
        obtain ⟨next, hdeliver, hprogress, _⟩ := h.deliver_none (.inr hall)
        rw [hdeliver]
        exact ⟨next, rfl, hall ▸ hprogress.writes⟩

end Progress

end Panorama.CommandLine.Session
