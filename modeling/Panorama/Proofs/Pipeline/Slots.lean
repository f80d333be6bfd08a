import Mathlib.Tactic.ByContra
import Panorama.Pipeline.Slots

/-!
# The one-deep protocol of the slots

Whatever the order in which frame sets are submitted and retrieved and streams end, the slots give
out the frame sets in the order of their submission and hold at most two. Before the stream ends,
the latest one stays behind. The invariant is `SlotRun.Consistent`: the slots hold the numbers
between what was given out and what was taken in, and they are filled as the state says.
-/

namespace Panorama

/-! ### Numbering -/

namespace PipelineSlots

variable {slots next : PipelineSlots} {retrieved number : Nat}

/-- The frame sets that were taken in are those that were given out and those that are held. -/
def Holds (slots : PipelineSlots) (retrieved : Nat) : Prop :=
  List.range slots.next
    = List.range retrieved ++ (slots.ready.toList ++ slots.pending.toList)

/-- The reserved number is the next one, and the frame set with it is held. -/
theorem Holds.commit (h : slots.Holds retrieved) (hreserve : slots.reserve = .ok number) :
    number = slots.next ∧ (slots.commit number).Holds retrieved := by
  unfold reserve at hreserve
  split at hreserve
  · cases hreserve
  · cases hreserve
  · rename_i hready _
    cases hreserve
    refine ⟨rfl, ?_⟩
    unfold Holds at h ⊢
    show List.range (slots.next + 1) = _ ++ (slots.pending.toList ++ [slots.next])
    rw [List.range_succ, h, hready]
    simp

/-- The frame set in front of the held ones is the first that was not given out. -/
theorem Holds.front {held : List Nat} (h : List.range slots.next
    = List.range retrieved ++ (number :: held)) : number = retrieved ∧ retrieved < slots.next := by
  have hnumber := congrArg (·[retrieved]?) h
  have hlength := congrArg List.length h
  rw [List.length_range, List.length_append, List.length_range, List.length_cons] at hlength
  have hlast : retrieved < slots.next := by omega
  simp only [List.getElem?_range hlast] at hnumber
  rw [List.getElem?_append_right (by simp)] at hnumber
  simp only [List.length_range, Nat.sub_self, List.getElem?_cons_zero, Option.some.injEq] at hnumber
  exact ⟨hnumber.symm, hlast⟩

/-- The frame set that is given out is the first that was not, and the others stay held. -/
theorem Holds.retrieve_some (h : slots.Holds retrieved)
    (hretrieve : slots.retrieve = (some number, next)) :
    number = retrieved ∧ retrieved < slots.next ∧ next.Holds (retrieved + 1) ∧
      next.next = slots.next := by
  unfold Holds at h
  unfold retrieve at hretrieve
  split at hretrieve
  · rename_i hready
    cases hretrieve
    rw [hready] at h
    obtain ⟨rfl, hlast⟩ := front h
    refine ⟨rfl, hlast, ?_, rfl⟩
    unfold Holds
    show List.range slots.next = _
    rw [h, List.range_succ, List.append_assoc]
    rfl
  · rename_i hready _ hpending
    cases hretrieve
    rw [hready, hpending] at h
    obtain ⟨rfl, hlast⟩ := front h
    refine ⟨rfl, hlast, ?_, rfl⟩
    unfold Holds
    show List.range slots.next = _
    rw [h, hready, List.range_succ, List.append_assoc]
    rfl
  · cases hretrieve
  · cases hretrieve

/-- Without a frame set to give out, nothing is lost. -/
theorem Holds.retrieve_none (h : slots.Holds retrieved)
    (hretrieve : slots.retrieve = (none, next)) :
    next.Holds retrieved ∧ next.next = slots.next := by
  unfold retrieve at hretrieve
  split at hretrieve
  · cases hretrieve
  · cases hretrieve
  · cases hretrieve
    exact ⟨h, rfl⟩
  · cases hretrieve
    exact ⟨h, rfl⟩

end PipelineSlots

namespace PipelineSlots

variable {slots next : PipelineSlots} {retrieved number : Nat}

/-- What was not given out is in flight. -/
theorem Holds.in_flight (h : slots.Holds retrieved) :
    retrieved + slots.inFlight = slots.next := by
  have hlength := congrArg List.length h
  simp only [List.length_range, List.length_append] at hlength
  unfold inFlight
  omega

/-! ### States -/

/-- The slots that can be filled in a state. A ready frame set always has a pending one behind
it. -/
inductive Filled : PipelineSlots → Prop where
  | empty (next : Nat) : Filled ⟨.empty, none, none, next⟩
  | primed (latest next : Nat) : Filled ⟨.primed, some latest, none, next⟩
  | steady (latest : Nat) (ready : Option Nat) (next : Nat) :
      Filled ⟨.steady, some latest, ready, next⟩
  | draining (latest : Nat) (ready : Option Nat) (next : Nat) :
      Filled ⟨.draining, some latest, ready, next⟩
  | drained (next : Nat) : Filled ⟨.draining, none, none, next⟩

/-- Taking in a frame set fills the slots as the next state says. -/
theorem Filled.commit (h : slots.Filled) (hreserve : slots.reserve = .ok number) :
    (slots.commit number).Filled := by
  cases h with
  | empty next => exact .primed number (next + 1)
  | primed latest next => exact .steady number (some latest) (next + 1)
  | steady latest ready next => exact .steady number (some latest) (next + 1)
  | draining latest ready next => cases hreserve
  | drained next => cases hreserve

/-- Giving out a frame set leaves the slots filled as the state says. -/
theorem Filled.retrieve (h : slots.Filled) : slots.retrieve.2.Filled := by
  cases h with
  | empty next => exact .empty next
  | primed latest next => exact .primed latest next
  | steady latest ready next =>
      cases ready with
      | none => exact .steady latest none next
      | some waiting => exact .steady latest none next
  | draining latest ready next =>
      cases ready with
      | none => exact .drained next
      | some waiting => exact .draining latest none next
  | drained next => exact .empty next

/-- At the end of the stream, what is held is drained. -/
theorem Filled.end_of_stream (h : slots.Filled) : slots.endOfStream.Filled := by
  cases h with
  | empty next => exact .empty next
  | primed latest next => exact .draining latest none next
  | steady latest ready next =>
      cases ready with
      | none => exact .draining latest none next
      | some waiting => exact .draining latest (some waiting) next
  | draining latest ready next =>
      cases ready with
      | none => exact .draining latest none next
      | some waiting => exact .draining latest (some waiting) next
  | drained next => exact .empty next

/-- There is room for two frame sets. -/
theorem in_flight_le (slots : PipelineSlots) : slots.inFlight ≤ 2 := by
  obtain ⟨state, _ | latest, _ | waiting, next⟩ := slots <;> simp [inFlight]

/-- An empty pipeline holds nothing, a primed one a frame set and a steady one one or two. -/
theorem Filled.in_flight (h : slots.Filled) :
    (slots.state = .empty → slots.inFlight = 0) ∧ (slots.state = .primed → slots.inFlight = 1) ∧
      (slots.state = .steady → slots.inFlight = 1 ∨ slots.inFlight = 2) := by
  cases h with
  | empty next => simp [inFlight]
  | primed latest next => simp [inFlight]
  | steady latest ready next => cases ready <;> simp [inFlight]
  | draining latest ready next => simp
  | drained next => simp

/-- A frame set is taken in unless the stream ended or the room for two is full. -/
theorem Filled.reserve_eq_ok_iff (h : slots.Filled) :
    slots.reserve = .ok number ↔
      (slots.state ≠ .draining ∧ slots.inFlight ≠ 2) ∧ number = slots.next := by
  cases h with
  | empty next => simp [reserve, inFlight, eq_comm]
  | primed latest next => simp [reserve, inFlight, eq_comm]
  | steady latest ready next => cases ready <;> simp [reserve, inFlight, eq_comm]
  | draining latest ready next => simp [reserve]
  | drained next => simp [reserve]

/-- Before the stream ends, a frame set is given out if and only if two are held. -/
theorem Filled.retrieve_is_some_iff (h : slots.Filled) (hstate : slots.state ≠ .draining) :
    slots.retrieve.1.isSome ↔ slots.inFlight = 2 := by
  cases h with
  | empty next => simp [PipelineSlots.retrieve, inFlight]
  | primed latest next => simp [PipelineSlots.retrieve, inFlight]
  | steady latest ready next => cases ready <;> simp [PipelineSlots.retrieve, inFlight]
  | draining latest ready next => exact absurd rfl hstate
  | drained next => exact absurd rfl hstate

/-- While something is held after the end of the stream, a frame set is given out. -/
theorem Filled.retrieve_draining (h : slots.Filled) (hstate : slots.state = .draining)
    (hheld : 0 < slots.inFlight) :
    ∃ number next, slots.retrieve = (some number, next) ∧ next.state = .draining := by
  cases h with
  | empty next => cases hstate
  | primed latest next => cases hstate
  | steady latest ready next => cases hstate
  | draining latest ready next =>
      cases ready with
      | none => exact ⟨latest, _, rfl, rfl⟩
      | some waiting => exact ⟨waiting, _, rfl, rfl⟩
  | drained next => exact absurd hheld (Nat.lt_irrefl 0)

/-- When nothing is held, nothing is given out, and the pipeline is empty afterwards. -/
theorem Filled.retrieve_drained (h : slots.Filled) (hheld : slots.inFlight = 0) :
    slots.retrieve = (none, ⟨.empty, none, none, slots.next⟩) := by
  cases h with
  | empty next => rfl
  | primed latest next => cases hheld
  | steady latest ready next => cases ready <;> cases hheld
  | draining latest ready next => cases ready <;> cases hheld
  | drained next => rfl

end PipelineSlots

/-! ### Runs -/

/-- A call that concerns the slots of a pipeline. -/
inductive SlotCall where
  /-- A frame set is submitted. -/
  | submit
  /-- The oldest retrievable frame set is asked for. -/
  | retrieve
  /-- The stream ends. -/
  | endOfStream
  deriving DecidableEq, Repr

/-- Slots with what they have taken in and given out. -/
structure SlotRun where
  /-- The slots. -/
  slots : PipelineSlots
  /-- Number of frame sets that were taken in. -/
  accepted : Nat
  /-- The frame sets that were given out, in the order of the calls. -/
  given : List Nat
  deriving DecidableEq, Repr

namespace SlotRun

variable {run : SlotRun} {next : PipelineSlots} {number : Nat}

/-- Slots to which nothing has happened. -/
def start : SlotRun := ⟨.start, 0, []⟩

/-- The run after one more call. A frame set gets the number that is reserved for it. -/
def perform (run : SlotRun) : SlotCall → SlotRun
  | .submit =>
    match run.slots.reserve with
    | .error _ => run
    | .ok number => { run with slots := run.slots.commit number, accepted := run.accepted + 1 }
  | .retrieve =>
    match run.slots.retrieve with
    | (none, slots) => { run with slots }
    | (some number, slots) => { run with slots, given := run.given ++ [number] }
  | .endOfStream => { run with slots := run.slots.endOfStream }

/-- The run after several calls. -/
def performAll (run : SlotRun) (calls : List SlotCall) : SlotRun :=
  calls.foldl perform run

/-- Number of frame sets that were taken in and not given out. -/
def due (run : SlotRun) : Nat := run.accepted - run.given.length

/-- The run after the end of the stream and some retrievals. -/
def drain (run : SlotRun) (retrievals : Nat) : SlotRun :=
  (run.perform .endOfStream).performAll (List.replicate retrievals .retrieve)

/-- A refused frame set changes nothing. -/
theorem perform_submit_refused {error : Error} (h : run.slots.reserve = .error error) :
    run.perform .submit = run := by
  simp only [perform, h]

/-- A frame set is taken in with the number that is reserved for it. -/
theorem perform_submit_ok (h : run.slots.reserve = .ok number) :
    run.perform .submit
      = { run with slots := run.slots.commit number, accepted := run.accepted + 1 } := by
  simp only [perform, h]

/-- A frame set that is given out is noted. -/
theorem perform_retrieve_some (h : run.slots.retrieve = (some number, next)) :
    run.perform .retrieve = { run with slots := next, given := run.given ++ [number] } := by
  simp only [perform, h]

/-- Without a frame set to give out, only the state can change. -/
theorem perform_retrieve_none (h : run.slots.retrieve = (none, next)) :
    run.perform .retrieve = { run with slots := next } := by
  simp only [perform, h]

/-- One more retrieval comes after the others. -/
theorem drain_succ (run : SlotRun) (retrievals : Nat) :
    run.drain (retrievals + 1) = (run.drain retrievals).perform .retrieve := by
  unfold drain performAll
  rw [List.replicate_succ', List.foldl_append]
  rfl

/-- A run in which the slots hold what was taken in and not given out, and are filled as the state
says. -/
structure Consistent (run : SlotRun) : Prop where
  filled : run.slots.Filled
  holds : run.slots.Holds run.given.length
  next : run.slots.next = run.accepted
  given : run.given = List.range run.given.length

/-- A run that starts is consistent. -/
theorem consistent_start : Consistent start where
  filled := .empty 0
  holds := rfl
  next := rfl
  given := rfl

/-- A frame set that is taken in gets the next number. -/
theorem Consistent.submit (h : run.Consistent) : (run.perform .submit).Consistent := by
  cases hreserve : run.slots.reserve with
  | error error =>
      rw [perform_submit_refused hreserve]
      exact h
  | ok number =>
      obtain ⟨_, hholds⟩ := h.holds.commit hreserve
      rw [perform_submit_ok hreserve]
      exact ⟨h.filled.commit hreserve, hholds, congrArg Nat.succ h.next, h.given⟩

/-- The frame set that is given out is the first that was not. -/
theorem Consistent.retrieve (h : run.Consistent) : (run.perform .retrieve).Consistent := by
  have hfilled := h.filled.retrieve
  rcases hretrieve : run.slots.retrieve with ⟨_ | number, next⟩
  · obtain ⟨hholds, hnext⟩ := h.holds.retrieve_none hretrieve
    rw [hretrieve] at hfilled
    rw [perform_retrieve_none hretrieve]
    exact ⟨hfilled, hholds, hnext.trans h.next, h.given⟩
  · obtain ⟨hnumber, _, hholds, hnext⟩ := h.holds.retrieve_some hretrieve
    rw [hretrieve] at hfilled
    rw [perform_retrieve_some hretrieve]
    refine ⟨hfilled, ?_, hnext.trans h.next, ?_⟩
    · show next.Holds (run.given ++ [number]).length
      simpa using hholds
    · show run.given ++ [number] = List.range (run.given ++ [number]).length
      rw [List.length_append, List.length_singleton, List.range_succ, ← h.given, hnumber]

/-- The end of the stream loses nothing. -/
theorem Consistent.end_of_stream (h : run.Consistent) : (run.perform .endOfStream).Consistent :=
  ⟨h.filled.end_of_stream, h.holds, h.next, h.given⟩

/-- Every call keeps a run consistent. -/
theorem Consistent.perform (h : run.Consistent) (call : SlotCall) :
    (run.perform call).Consistent := by
  cases call with
  | submit => exact h.submit
  | retrieve => exact h.retrieve
  | endOfStream => exact h.end_of_stream

/-- Calls keep a run consistent. -/
theorem Consistent.perform_all (h : run.Consistent) (calls : List SlotCall) :
    (run.performAll calls).Consistent := by
  induction calls generalizing run with
  | nil => exact h
  | cons call calls ih => exact ih (h.perform call)

/-- What is in flight was taken in and not given out. -/
theorem Consistent.accepted_eq (h : run.Consistent) :
    run.accepted = run.given.length + run.slots.inFlight := by
  rw [h.holds.in_flight, h.next]

/-- What is in flight is what is due. -/
theorem Consistent.in_flight (h : run.Consistent) : run.slots.inFlight = run.due := by
  have haccepted := h.accepted_eq
  unfold due
  omega

/-- Retrievals after the end of the stream give out one frame set each, as long as there are any.
Meanwhile the stream counts as ended. -/
theorem Consistent.drain (h : run.Consistent) {retrievals : Nat}
    (hretrievals : retrievals ≤ run.due) :
    (run.drain retrievals).Consistent ∧ (run.drain retrievals).accepted = run.accepted ∧
      (run.drain retrievals).given.length = run.given.length + retrievals ∧
        (0 < run.due → (run.drain retrievals).slots.state = .draining) := by
  induction retrievals with
  | zero =>
      refine ⟨h.end_of_stream, rfl, rfl, fun hdue ↦ ?_⟩
      rw [← h.in_flight] at hdue
      show (if 0 < run.slots.inFlight then PipelineState.draining else .empty) = .draining
      rw [if_pos hdue]
  | succ retrievals ih =>
      obtain ⟨hconsistent, haccepted, hgiven, hstate⟩ := ih (by omega)
      have hheld : 0 < (run.drain retrievals).slots.inFlight := by
        rw [hconsistent.in_flight]
        unfold due at hretrievals ⊢
        omega
      obtain ⟨number, next, hretrieve, hnext⟩ :=
        hconsistent.filled.retrieve_draining (hstate (by omega)) hheld
      have hafter := hconsistent.retrieve
      rw [drain_succ]
      rw [perform_retrieve_some hretrieve] at hafter ⊢
      refine ⟨hafter, haccepted, ?_, fun _ ↦ hnext⟩
      show ((run.drain retrievals).given ++ [number]).length = _
      rw [List.length_append, hgiven, List.length_singleton, Nat.add_assoc]

end SlotRun

/-- The protocol as a run has to keep it. -/
structure SlotRun.OneDeep (run : SlotRun) : Prop where
  /-- The frame sets are given out in the order of their numbers, each once. -/
  given : run.given = List.range run.given.length
  /-- What is in flight was taken in and not given out. -/
  in_flight : run.given.length ≤ run.accepted ∧ run.slots.inFlight = run.due
  /-- At most two frame sets are in flight. -/
  depth : run.due ≤ 2
  /-- An empty pipeline has given out everything. -/
  empty : run.slots.state = .empty → run.due = 0
  /-- A primed pipeline holds its first frame set. -/
  primed : run.slots.state = .primed → run.due = 1
  /-- A steady pipeline holds a frame set or two. -/
  steady : run.slots.state = .steady → run.due = 1 ∨ run.due = 2
  /-- Before the stream ends, a frame set is given out if and only if two are held. -/
  retrieved : run.slots.state ≠ .draining → (run.slots.retrieve.1.isSome ↔ run.due = 2)
  /-- Before the stream ends, the latest frame set stays behind. -/
  latest : run.slots.state ≠ .draining →
    ∀ number, run.slots.retrieve.1 = some number → number + 1 < run.accepted
  /-- A frame set that is taken in gets the next number. -/
  numbered : ∀ number, run.slots.reserve = .ok number → number = run.accepted
  /-- A frame set is refused if and only if the stream has ended or two are held. -/
  refused : (∃ error, run.slots.reserve = .error error) ↔
    run.slots.state = .draining ∨ run.due = 2
  /-- A refusal changes nothing. -/
  refusal : ∀ error, run.slots.reserve = .error error → run.perform .submit = run
  /-- After the end of the stream, what is held is given out in order. -/
  drained : ∀ retrievals < run.due,
    (run.drain retrievals).slots.retrieve.1 = some (run.given.length + retrievals)
  /-- Then there is nothing, and the pipeline is empty. -/
  emptied : (run.drain run.due).slots.retrieve.1 = none ∧
    (run.drain (run.due + 1)).slots.state = .empty
  /-- From there, frame sets are taken in again, and the numbers go on. -/
  resumed : (run.drain (run.due + 1)).slots.reserve = .ok run.accepted

namespace SlotRun.Consistent

variable {run : SlotRun}

/-- After the end of the stream, what is held is given out in order. -/
theorem drained (h : run.Consistent) {retrievals : Nat} (hretrievals : retrievals < run.due) :
    (run.drain retrievals).slots.retrieve.1 = some (run.given.length + retrievals) := by
  obtain ⟨hconsistent, haccepted, hgiven, hstate⟩ := h.drain (Nat.le_of_lt hretrievals)
  have hheld : 0 < (run.drain retrievals).slots.inFlight := by
    rw [hconsistent.in_flight]
    unfold due at hretrievals ⊢
    omega
  obtain ⟨number, next, hretrieve, _⟩ :=
    hconsistent.filled.retrieve_draining (hstate (by omega)) hheld
  obtain ⟨hnumber, _⟩ := hconsistent.holds.retrieve_some hretrieve
  rw [hretrieve, hnumber, hgiven]

/-- When everything that was held is given out, nothing is left, and the next retrieval empties the
pipeline. -/
theorem emptied (h : run.Consistent) :
    (run.drain run.due).slots.retrieve = (none, ⟨.empty, none, none, run.accepted⟩) := by
  obtain ⟨hconsistent, haccepted, hgiven, _⟩ := h.drain (Nat.le_refl run.due)
  have hheld : (run.drain run.due).slots.inFlight = 0 := by
    have hcount := hconsistent.accepted_eq
    have hdue := h.accepted_eq
    rw [h.in_flight] at hdue
    omega
  rw [hconsistent.filled.retrieve_drained hheld, hconsistent.next, haccepted]

/-- A consistent run keeps the protocol. -/
theorem one_deep (h : run.Consistent) : run.OneDeep := by
  have hcount := h.accepted_eq
  have hdepth := run.slots.in_flight_le
  obtain ⟨hempty, hprimed, hsteady⟩ := h.filled.in_flight
  rw [h.in_flight] at hcount hdepth hempty hprimed hsteady
  have hretrieved (hstate : run.slots.state ≠ .draining) :
      run.slots.retrieve.1.isSome ↔ run.due = 2 := by
    rw [← h.in_flight]
    exact h.filled.retrieve_is_some_iff hstate
  have hreserve (number : Nat) : run.slots.reserve = .ok number ↔
      (run.slots.state ≠ .draining ∧ run.due ≠ 2) ∧ number = run.accepted := by
    rw [← h.in_flight, ← h.next]
    exact h.filled.reserve_eq_ok_iff
  have hafter : (run.drain (run.due + 1)).slots = ⟨.empty, none, none, run.accepted⟩ := by
    rw [drain_succ, perform_retrieve_none h.emptied]
  refine {
    given := h.given
    in_flight := ⟨by omega, h.in_flight⟩
    depth := hdepth
    empty := hempty
    primed := hprimed
    steady := hsteady
    retrieved := hretrieved
    latest := ?_
    numbered := fun number hnumber ↦ ((hreserve number).mp hnumber).2
    refused := ?_
    refusal := fun error ↦ perform_submit_refused
    drained := fun retrievals ↦ h.drained
    emptied := ⟨congrArg Prod.fst h.emptied, congrArg PipelineSlots.state hafter⟩
    resumed := ?_ }
  · intro hstate number hnumber
    have hdue := (hretrieved hstate).mp (Option.isSome_of_mem hnumber)
    obtain ⟨hfirst, _⟩ := h.holds.retrieve_some (Prod.ext hnumber rfl)
    omega
  · constructor
    · rintro ⟨error, herror⟩
      by_contra hopen
      rw [(hreserve run.accepted).mpr ⟨not_or.mp hopen, rfl⟩] at herror
      cases herror
    · intro hclosed
      cases hnumber : run.slots.reserve with
      | error error => exact ⟨error, rfl⟩
      | ok number => exact absurd hclosed (not_or.mpr ((hreserve number).mp hnumber).1)
  · rw [hafter]
    rfl

end SlotRun.Consistent

/-- Slots keep the one-deep protocol, whatever frame sets are submitted and retrieved and whenever
streams end. -/
theorem SlotRun.keeps_protocol (calls : List SlotCall) : (start.performAll calls).OneDeep :=
  (consistent_start.perform_all calls).one_deep

end Panorama
