import Panorama.Frame.Assembler
import Panorama.Proofs.Frame.Fresh

/-!
# Frame sets are aligned

In whatever order the inputs deliver, the frames of a set are those that the inputs delivered in its
turn. A run notes every call with its answer, and what the inputs delivered and which sets came out
is read off these notes alone. The invariant is `AssemblerRun.Consistent`: until an input ends, the
place of an input holds what it has delivered beyond the sets that are out.
-/

namespace Panorama

/-- Something that happens to an assembler. -/
inductive AssemblerCall where
  /-- An input delivers a frame. -/
  | push (input : Nat) (frame : Frame)
  /-- An input ends. -/
  | close

/-- A call with its answer. -/
structure AssemblerEvent where
  /-- The call. -/
  call : AssemblerCall
  /-- The answer to it. -/
  answer : Result Cycle

namespace AssemblerEvent

/-- The frame that is accepted from an input, if the call was about that. -/
def delivery? (event : AssemblerEvent) (input : Nat) : Option Frame :=
  match event.call, event.answer with
  | .push source frame, .ok .incomplete => if source = input then some frame else none
  | .push source frame, .ok (.ready _) => if source = input then some frame else none
  | _, _ => none

/-- The set that comes out. -/
def set? (event : AssemblerEvent) : Option (List Frame) :=
  match event.answer with
  | .ok (.ready frames) => some frames
  | _ => none

/-- Whether an input ends. -/
def isEnd (event : AssemblerEvent) : Bool :=
  match event.call with
  | .push _ _ => false
  | .close => true

/-- The frames that were accepted from an input, in order. -/
def deliveries (events : List AssemblerEvent) (input : Nat) : List Frame :=
  events.filterMap (delivery? · input)

/-- What happened after the last set came out. -/
def sinceLastSet (events : List AssemblerEvent) : List AssemblerEvent :=
  (events.reverse.takeWhile fun event ↦ event.set?.isNone).reverse

end AssemblerEvent

open AssemblerEvent (deliveries sinceLastSet)

/-- An assembler with everything that happened to it. -/
structure AssemblerRun where
  /-- The assembler. -/
  assembler : FrameAssembler
  /-- What happened, in order. -/
  events : List AssemblerEvent

namespace AssemblerRun

/-- An assembler to which nothing has happened. -/
def start (assembler : FrameAssembler) : AssemblerRun := ⟨assembler, []⟩

/-- Note an answer. -/
def note (run : AssemblerRun) (call : AssemblerCall) (answer : Result Cycle)
    (assembler : FrameAssembler) : AssemblerRun :=
  ⟨assembler, run.events ++ [⟨call, answer⟩]⟩

/-- The run after one more call. -/
def perform (run : AssemblerRun) (call : AssemblerCall) : AssemblerRun :=
  match call with
  | .push input frame =>
    match run.assembler.push input frame with
    | .error error => run.note call (.error error) run.assembler
    | .ok (cycle, assembler) => run.note call (.ok cycle) assembler
  | .close => run.note call (.ok run.assembler.close.1) run.assembler.close.2

/-- The run after several calls. -/
def performAll (run : AssemblerRun) (calls : List AssemblerCall) : AssemblerRun :=
  calls.foldl perform run

/-- The sets that came out, in order. -/
def sets (run : AssemblerRun) : List (List Frame) := run.events.filterMap AssemblerEvent.set?

/-- Whether an input has ended. -/
def isEnded (run : AssemblerRun) : Bool := run.events.any AssemblerEvent.isEnd

end AssemblerRun

/-! ### What a delivery leads to -/

namespace FrameAssembler

variable {assembler : FrameAssembler} {input : Nat} {frame : Frame}

/-- The assembler with a frame in the place of an input. -/
def fill (assembler : FrameAssembler) (input : Nat) (frame : Frame) : FrameAssembler :=
  { assembler with slots := assembler.slots.set input (some frame) }

/-- Once an input has ended, a delivery does nothing. -/
theorem push_closed (h : assembler.closed) :
    assembler.push input frame = .ok (.endOfStream, assembler) := by
  rw [push, if_pos h]

/-- An input that is none is refused. -/
theorem push_unknown (hopen : assembler.closed = false) (hslot : assembler.slots[input]? = none) :
    assembler.push input frame
      = .error (.invalid (.unknownInput input assembler.slots.length)) := by
  rw [push, hopen, if_neg Bool.false_ne_true, hslot]

/-- A second frame of an input is refused. -/
theorem push_second {held : Frame} (hopen : assembler.closed = false)
    (hslot : assembler.slots[input]? = some (some held)) :
    assembler.push input frame = .error (.misused (.secondFrame input)) := by
  rw [push, hopen, if_neg Bool.false_ne_true, hslot]

/-- The places are all filled exactly if they hold the frames of a set. -/
theorem map_id_eq_some_iff {slots : List (Option Frame)} {frames : List Frame} :
    slots.mapM id = some frames ↔ slots = frames.map some := by
  rw [Failing.map_eq_some_iff, ← List.forall₂_eq_eq_eq, List.forall₂_map_right_iff]
  rfl

/-- A frame goes to the free place of its input. -/
theorem push_free (hopen : assembler.closed = false)
    (hslot : assembler.slots[input]? = some none) :
    assembler.push input frame =
      match (assembler.fill input frame).slots.mapM id with
      | some frames => .ok (.ready frames, (assembler.fill input frame).discard)
      | none => .ok (.incomplete, assembler.fill input frame) := by
  obtain ⟨slots, closed⟩ := assembler
  cases hopen
  rw [push, if_neg Bool.false_ne_true, hslot]
  rfl

/-- The frame of an input that has a place free completes a set if every place is filled then. -/
theorem push_accepted (hopen : assembler.closed = false)
    (hslot : assembler.slots[input]? = some none) (frame : Frame) :
    (∃ frames, (assembler.fill input frame).slots = frames.map some ∧
      assembler.push input frame
        = .ok (.ready frames, (assembler.fill input frame).discard)) ∨
    none ∈ (assembler.fill input frame).slots ∧
      assembler.push input frame = .ok (.incomplete, assembler.fill input frame) := by
  rw [push_free hopen hslot]
  cases hframes : (assembler.fill input frame).slots.mapM id with
  | some frames => exact .inl ⟨frames, map_id_eq_some_iff.mp hframes, rfl⟩
  | none =>
      refine .inr ⟨?_, rfl⟩
      by_contra hfull
      obtain ⟨frames, hfilled⟩ :
          ∃ frames, (assembler.fill input frame).slots.mapM id = some frames :=
        Failing.exists_map_eq_some fun slot hslot ↦
          Option.ne_none_iff_exists'.mp fun hnone ↦ hfull (hnone ▸ hslot)
      rw [hframes] at hfilled
      cases hfilled

/-- An assembler without frames has as many places. -/
theorem discard_slots_length (assembler : FrameAssembler) :
    assembler.discard.slots.length = assembler.slots.length :=
  List.length_map ..

/-- An assembler without frames has none in any place. -/
theorem discard_slots_get (hinput : input < assembler.slots.length) :
    assembler.discard.slots[input]? = some none := by
  rw [discard, List.getElem?_map, List.getElem?_eq_getElem hinput]
  rfl

/-- The inputs that owe a frame are those with a free place, in order. -/
theorem missing_inputs_eq (assembler : FrameAssembler) :
    assembler.missingInputs = (List.range assembler.slots.length).filter fun input ↦
      assembler.slots[input]? = some none := by
  have hzip : assembler.slots.zipIdx
      = (List.range assembler.slots.length).map fun input ↦
          (assembler.slots[input]?.getD none, input) := by
    refine List.ext_getElem (by simp) fun input hinput _ ↦ ?_
    rw [List.length_zipIdx] at hinput
    simp [hinput]
  rw [missingInputs, hzip, List.filter_map, List.map_map]
  refine (List.map_id _).trans (List.filter_congr fun input hinput ↦ ?_)
  rw [Function.comp_apply]
  obtain ⟨slot, hslot⟩ : ∃ slot, assembler.slots[input]? = some slot :=
    ⟨_, List.getElem?_eq_getElem (List.mem_range.mp hinput)⟩
  cases slot <;> simp [hslot]

end FrameAssembler

/-! ### What is noted -/

namespace AssemblerEvent

/-- One more event adds its delivery. -/
theorem deliveries_concat (events : List AssemblerEvent) (event : AssemblerEvent) (input : Nat) :
    deliveries (events ++ [event]) input
      = deliveries events input ++ (event.delivery? input).toList := by
  rw [deliveries, deliveries, List.filterMap_append]
  cases hdelivery : event.delivery? input <;> simp [hdelivery]

/-- An event without a set is behind the last set. -/
theorem since_last_set_concat_none {event : AssemblerEvent} (events : List AssemblerEvent)
    (h : event.set? = none) :
    sinceLastSet (events ++ [event]) = sinceLastSet events ++ [event] := by
  simp [sinceLastSet, h]

/-- Nothing is behind a set that has just come out. -/
theorem since_last_set_concat_some {event : AssemblerEvent} {frames : List Frame}
    (events : List AssemblerEvent) (h : event.set? = some frames) :
    sinceLastSet (events ++ [event]) = [] := by
  simp [sinceLastSet, h]

end AssemblerEvent

namespace AssemblerRun

variable {run : AssemblerRun} {call : AssemblerCall} {answer : Result Cycle}
  {assembler : FrameAssembler} {inputs : Nat}

/-- The frames that were accepted from an input, in order. -/
def deliveries (run : AssemblerRun) (input : Nat) : List Frame :=
  AssemblerEvent.deliveries run.events input

/-- The frames that were accepted from an input since the last set came out. -/
def recent (run : AssemblerRun) (input : Nat) : List Frame :=
  AssemblerEvent.deliveries (sinceLastSet run.events) input

/-- One more event adds its set. -/
theorem note_sets : (run.note call answer assembler).sets
    = run.sets ++ (AssemblerEvent.mk call answer).set?.toList := by
  rw [sets, sets, note, List.filterMap_append]
  cases hset : (AssemblerEvent.mk call answer).set? <;> simp [hset]

/-- One more event may be the end of an input. -/
theorem note_is_ended : (run.note call answer assembler).isEnded
    = (run.isEnded || (AssemblerEvent.mk call answer).isEnd) := by
  simp [isEnded, note]

/-- One more event adds its delivery. -/
theorem note_deliveries (input : Nat) : (run.note call answer assembler).deliveries input
    = run.deliveries input ++ ((AssemblerEvent.mk call answer).delivery? input).toList :=
  AssemblerEvent.deliveries_concat ..

/-! ### The invariant -/

/-- The places hold what the inputs have delivered beyond the sets that are out, until an input
ends. -/
structure Consistent (run : AssemblerRun) (inputs : Nat) : Prop where
  count : run.assembler.slots.length = inputs
  ended : run.isEnded = run.assembler.closed
  aligned : ∀ (number : Nat) (frames : List Frame), run.sets[number]? = some frames →
    frames.length = inputs ∧ ∀ input < inputs, frames[input]? = (run.deliveries input)[number]?
  complete : ∀ input < inputs, run.sets.length ≤ (run.deliveries input).length ∧
    (run.deliveries input).length ≤ run.sets.length + 1
  recent : ∀ input < inputs, run.recent input = (run.deliveries input).drop run.sets.length
  held : run.assembler.closed = false → ∀ input < inputs,
    run.assembler.slots[input]? = some (run.deliveries input)[run.sets.length]?
  waiting : run.assembler.closed = false → 0 < inputs → none ∈ run.assembler.slots
  cleared : run.assembler.closed → ∀ input < inputs, run.assembler.slots[input]? = some none

/-- An assembler that starts has no frames. -/
theorem consistent_start (hstart : FrameAssembler.start? inputs = some assembler) :
    (start assembler).Consistent inputs := by
  unfold FrameAssembler.start? at hstart
  split at hstart
  · cases hstart
    have hnone (input : Nat) (hinput : input < inputs) :
        (List.replicate inputs (none : Option Frame))[input]? = some none := by
      rw [List.getElem?_replicate, if_pos hinput]
    refine ⟨List.length_replicate .., rfl, nofun, fun _ _ ↦ ⟨Nat.le_refl _, Nat.zero_le _⟩,
      fun _ _ ↦ rfl, fun _ ↦ hnone, fun _ hinputs ↦ ?_, nofun⟩
    exact List.mem_replicate.mpr ⟨hinputs.ne', rfl⟩
  · cases hstart

/-- An event without a delivery and without a set changes nothing that is noted of these. -/
theorem note_quiet (run : AssemblerRun) (call : AssemblerCall) (answer : Result Cycle)
    (hdelivery : ∀ input, (AssemblerEvent.mk call answer).delivery? input = none)
    (hset : (AssemblerEvent.mk call answer).set? = none) (assembler : FrameAssembler) :
    (run.note call answer assembler).sets = run.sets ∧
      (run.note call answer assembler).deliveries = run.deliveries ∧
        (run.note call answer assembler).recent = run.recent := by
  refine ⟨?_, funext fun input ↦ ?_, funext fun input ↦ ?_⟩
  · rw [note_sets, hset]
    exact List.append_nil _
  · rw [note_deliveries, hdelivery]
    exact List.append_nil _
  · rw [AssemblerRun.recent, note, AssemblerEvent.since_last_set_concat_none _ hset,
      AssemblerEvent.deliveries_concat, hdelivery]
    exact List.append_nil _

/-- A delivery that is refused, or that comes after the end of an input, changes nothing. -/
theorem Consistent.unchanged (h : run.Consistent inputs)
    (hdelivery : ∀ input, (AssemblerEvent.mk call answer).delivery? input = none)
    (hset : (AssemblerEvent.mk call answer).set? = none)
    (hend : (AssemblerEvent.mk call answer).isEnd = false) :
    (run.note call answer run.assembler).Consistent inputs := by
  obtain ⟨hsets, hdeliveries, hrecent⟩ :=
    run.note_quiet call answer hdelivery hset run.assembler
  have hended : (run.note call answer run.assembler).isEnded = run.isEnded := by
    rw [note_is_ended, hend, Bool.or_false]
  refine ⟨h.count, hended.trans h.ended, ?_, ?_, ?_, ?_, h.waiting, h.cleared⟩
  · rw [hsets, hdeliveries]
    exact h.aligned
  · rw [hsets, hdeliveries]
    exact h.complete
  · rw [hsets, hdeliveries, hrecent]
    exact h.recent
  · rw [hsets, hdeliveries]
    exact h.held

/-- The end of an input discards what is held. -/
theorem Consistent.close (h : run.Consistent inputs) : (run.perform .close).Consistent inputs := by
  obtain ⟨hsets, hdeliveries, hrecent⟩ := run.note_quiet .close (.ok run.assembler.close.1)
    (fun _ ↦ rfl) rfl run.assembler.close.2
  unfold perform
  refine ⟨(run.assembler.discard_slots_length).trans h.count, ?_, ?_, ?_, ?_, nofun, nofun, ?_⟩
  · rw [note_is_ended]
    exact Bool.or_true _
  · rw [hsets, hdeliveries]
    exact h.aligned
  · rw [hsets, hdeliveries]
    exact h.complete
  · rw [hsets, hdeliveries, hrecent]
    exact h.recent
  · intro _ input hinput
    exact FrameAssembler.discard_slots_get (h.count.symm ▸ hinput)

/-- The frames of the sets stay where they are among further deliveries. -/
theorem Consistent.aligned_append (h : run.Consistent inputs) (further : Nat → List Frame)
    (number : Nat) (frames : List Frame) (hframes : run.sets[number]? = some frames) :
    frames.length = inputs ∧
      ∀ input < inputs, frames[input]? = (run.deliveries input ++ further input)[number]? := by
  obtain ⟨hcount, haligned⟩ := h.aligned number frames hframes
  refine ⟨hcount, fun input hinput ↦ (haligned input hinput).trans ?_⟩
  have hnumber := (List.getElem?_eq_some_iff.mp hframes).1
  rw [List.getElem?_append_left (hnumber.trans_le (h.complete input hinput).1)]

/-- With a delivery of an input that owes one, every place holds what its input has delivered beyond
the sets that are out. -/
theorem Consistent.fill (h : run.Consistent inputs) (hopen : run.assembler.closed = false)
    {source : Nat} (hslot : run.assembler.slots[source]? = some none) (frame : Frame)
    {input : Nat} (hinput : input < inputs) :
    let delivered := run.deliveries input ++ (if source = input then some frame else none).toList
    (run.assembler.fill source frame).slots[input]? = some delivered[run.sets.length]? ∧
      run.sets.length ≤ delivered.length ∧ delivered.length ≤ run.sets.length + 1 := by
  have hheld := h.held hopen input hinput
  have hcomplete := h.complete input hinput
  rw [FrameAssembler.fill, List.getElem?_set]
  by_cases hsource : source = input
  · -- The input owes a frame, so that it has delivered as many as there are sets.
    rw [← hsource, hslot, Option.some.injEq, eq_comm, List.getElem?_eq_none_iff, hsource] at hheld
    have hcount : (run.deliveries input).length = run.sets.length := by omega
    simp only [hsource, if_true, h.count, hinput, Option.toList_some]
    rw [← hcount, List.getElem?_concat_length, List.length_append]
    exact ⟨rfl, Nat.le_add_right .., Nat.le_refl _⟩
  · simp [hsource, hheld, hcomplete]

/-- If every place is filled, every input has delivered the frame that the set has of it. -/
theorem Consistent.fill_all (h : run.Consistent inputs) (hopen : run.assembler.closed = false)
    {source : Nat} (hslot : run.assembler.slots[source]? = some none) {frame : Frame}
    {frames : List Frame} (hframes : (run.assembler.fill source frame).slots = frames.map some)
    {input : Nat} (hinput : input < inputs) :
    let delivered := run.deliveries input ++ (if source = input then some frame else none).toList
    frames[input]? = delivered[run.sets.length]? ∧
      delivered.length = run.sets.length + 1 := by
  intro delivered
  obtain ⟨hheld, -, hmost⟩ := h.fill hopen hslot frame hinput
  have hlength : frames.length = inputs := by
    rw [← List.length_map some, ← hframes]
    exact List.length_set.trans h.count
  rw [hframes, List.getElem?_map, List.getElem?_eq_getElem (hlength ▸ hinput), Option.map_some,
    Option.some.injEq] at hheld
  refine ⟨(List.getElem?_eq_getElem (hlength ▸ hinput)).trans hheld, ?_⟩
  exact hmost.antisymm (List.getElem?_eq_some_iff.mp hheld.symm).1

/-- A frame that completes no set is held in its place. -/
theorem Consistent.incomplete (h : run.Consistent inputs) (hopen : run.assembler.closed = false)
    {source : Nat} (hslot : run.assembler.slots[source]? = some none) {frame : Frame}
    (hnone : none ∈ (run.assembler.fill source frame).slots) :
    (run.note (.push source frame) (.ok .incomplete)
      (run.assembler.fill source frame)).Consistent inputs := by
  set next := run.note (.push source frame) (.ok .incomplete)
    (run.assembler.fill source frame) with hnext
  have hfill (input : Nat) (hinput : input < inputs) := h.fill hopen hslot frame hinput
  have hended : next.isEnded = run.isEnded := note_is_ended.trans (Bool.or_false _)
  have hsets : next.sets = run.sets := note_sets.trans (List.append_nil _)
  have hdeliveries (input : Nat) : next.deliveries input = run.deliveries input ++
      (if source = input then some frame else none).toList := note_deliveries input
  have hrecent (input : Nat) : next.recent input = run.recent input ++
      (if source = input then some frame else none).toList := by
    rw [AssemblerRun.recent, hnext, note, AssemblerEvent.since_last_set_concat_none _ rfl,
      AssemblerEvent.deliveries_concat]
    rfl
  refine ⟨List.length_set.trans h.count, hended.trans h.ended, ?_, ?_, ?_, ?_, fun _ _ ↦ hnone, ?_⟩
  · simp only [hsets, hdeliveries]
    exact h.aligned_append _
  · simp only [hsets, hdeliveries]
    exact fun input hinput ↦ (hfill input hinput).2
  · intro input hinput
    rw [hsets, hdeliveries, hrecent, List.drop_append_of_le_length (h.complete input hinput).1,
      ← h.recent input hinput]
  · simp only [hsets, hdeliveries]
    exact fun _ input hinput ↦ (hfill input hinput).1
  · exact fun hclosed ↦ absurd (hopen.symm.trans hclosed) Bool.false_ne_true

/-- The last frame of a set completes it with what the inputs have delivered beyond the others. -/
theorem Consistent.ready (h : run.Consistent inputs) (hopen : run.assembler.closed = false)
    {source : Nat} (hslot : run.assembler.slots[source]? = some none) {frame : Frame}
    {frames : List Frame}
    (hframes : (run.assembler.fill source frame).slots = frames.map some) :
    (run.note (.push source frame) (.ok (.ready frames))
      (run.assembler.fill source frame).discard).Consistent inputs := by
  set next := run.note (.push source frame) (.ok (.ready frames))
    (run.assembler.fill source frame).discard with hnext
  have hcount : (run.assembler.fill source frame).slots.length = inputs :=
    List.length_set.trans h.count
  have hframes_length : frames.length = inputs := by
    rw [← hcount, hframes, List.length_map]
  have hended : next.isEnded = run.isEnded := note_is_ended.trans (Bool.or_false _)
  have hsets : next.sets = run.sets ++ [frames] := note_sets
  have hdeliveries (input : Nat) : next.deliveries input = run.deliveries input ++
      (if source = input then some frame else none).toList := note_deliveries input
  have hrecent (input : Nat) : next.recent input = [] := by
    rw [AssemblerRun.recent, hnext, note, AssemblerEvent.since_last_set_concat_some _ rfl]
    rfl
  have hdelivered (input : Nat) (hinput : input < inputs) :
      frames[input]? = (next.deliveries input)[run.sets.length]? ∧
        (next.deliveries input).length = run.sets.length + 1 :=
    hdeliveries input ▸ h.fill_all hopen hslot hframes hinput
  have hfree (input : Nat) (hinput : input < inputs) :
      (run.assembler.fill source frame).discard.slots[input]? = some none :=
    FrameAssembler.discard_slots_get (hcount.symm ▸ hinput)
  refine ⟨(FrameAssembler.discard_slots_length _).trans hcount, hended.trans h.ended, ?_, ?_, ?_,
    ?_, ?_, fun _ ↦ hfree⟩
  · intro number other hother
    rw [hsets] at hother
    rcases Nat.lt_or_ge number run.sets.length with hnumber | hnumber
    · rw [List.getElem?_append_left hnumber] at hother
      simp only [hdeliveries]
      exact h.aligned_append _ number other hother
    · rw [List.getElem?_append_right hnumber, List.getElem?_singleton] at hother
      obtain ⟨hlast, hsame⟩ := Option.ite_none_right_eq_some.mp hother
      cases hsame
      rw [show number = run.sets.length by omega]
      exact ⟨hframes_length, fun input hinput ↦ (hdelivered input hinput).1⟩
  · intro input hinput
    rw [(hdelivered input hinput).2, hsets, List.length_append, List.length_singleton]
    exact ⟨Nat.le_refl _, Nat.le_succ _⟩
  · intro input hinput
    rw [hrecent, hsets, List.length_append, List.length_singleton, ← (hdelivered input hinput).2,
      List.drop_length]
  · intro _ input hinput
    rw [hsets, List.length_append, List.length_singleton, ← (hdelivered input hinput).2,
      List.getElem?_length]
    exact hfree input hinput
  · exact fun _ hinputs ↦ List.mem_of_getElem? (hfree 0 hinputs)

/-- The run after a delivery that is refused. -/
theorem perform_push_error {source : Nat} {frame : Frame} {error : Error}
    (h : run.assembler.push source frame = .error error) :
    run.perform (.push source frame)
      = run.note (.push source frame) (.error error) run.assembler := by
  simp only [perform, h]

/-- The run after a delivery that is not refused. -/
theorem perform_push_ok {source : Nat} {frame : Frame} {cycle : Cycle}
    (h : run.assembler.push source frame = .ok (cycle, assembler)) :
    run.perform (.push source frame) = run.note (.push source frame) (.ok cycle) assembler := by
  simp only [perform, h]

/-- A delivery keeps the places and the notes in step. -/
theorem Consistent.push (h : run.Consistent inputs) (source : Nat) (frame : Frame) :
    (run.perform (.push source frame)).Consistent inputs := by
  cases hopen : run.assembler.closed with
  | true =>
      rw [perform_push_ok (FrameAssembler.push_closed hopen)]
      exact h.unchanged (fun _ ↦ rfl) rfl rfl
  | false =>
      cases hslot : run.assembler.slots[source]? with
      | none =>
          rw [perform_push_error (FrameAssembler.push_unknown hopen hslot)]
          exact h.unchanged (fun _ ↦ rfl) rfl rfl
      | some slot =>
          cases slot with
          | some held =>
              rw [perform_push_error (FrameAssembler.push_second hopen hslot)]
              exact h.unchanged (fun _ ↦ rfl) rfl rfl
          | none =>
              obtain ⟨frames, hframes, hpush⟩ | ⟨hnone, hpush⟩ :=
                FrameAssembler.push_accepted hopen hslot frame
              · rw [perform_push_ok hpush]
                exact h.ready hopen hslot hframes
              · rw [perform_push_ok hpush]
                exact h.incomplete hopen hslot hnone

/-- Every call keeps the places and the notes in step. -/
theorem Consistent.perform (h : run.Consistent inputs) (call : AssemblerCall) :
    (run.perform call).Consistent inputs := by
  cases call with
  | push source frame => exact h.push source frame
  | close => exact h.close

/-- So do several calls. -/
theorem Consistent.perform_all (calls : List AssemblerCall) :
    ∀ {run : AssemblerRun}, run.Consistent inputs → (run.performAll calls).Consistent inputs := by
  induction calls with
  | nil => exact id
  | cons call calls ih => exact fun h ↦ ih (h.perform call)

/-! ### The main result -/

/-- What the frames of a run come to. -/
structure Aligned (run : AssemblerRun) (inputs : Nat) : Prop where
  /-- A set has one frame of every input: the frame that the input delivered in its turn. -/
  sets : ∀ (number : Nat) (frames : List Frame), run.sets[number]? = some frames →
    frames.length = inputs ∧ ∀ input < inputs, frames[input]? = (run.deliveries input)[number]?
  /-- No set comes out that some input owes a frame of. -/
  complete : ∀ input < inputs, run.sets.length ≤ (run.deliveries input).length
  /-- A set comes out as soon as no input owes a frame of it. -/
  prompt : run.isEnded = false → 0 < inputs →
    ∃ input < inputs, (run.deliveries input).length = run.sets.length
  /-- Until an input ends, a delivery is refused of an input that is none, and of one that has
  delivered since the last set came out. -/
  refused : ∀ (input : Nat) (frame : Frame) (error : Error),
    run.assembler.push input frame = .error error ↔ run.isEnded = false ∧
      (inputs ≤ input ∧ error = .invalid (.unknownInput input inputs) ∨
        input < inputs ∧ run.recent input ≠ [] ∧ error = .misused (.secondFrame input))
  /-- A delivery that is refused leaves the assembler as it is. -/
  refusal : ∀ (input : Nat) (frame : Frame) (error : Error),
    run.assembler.push input frame = .error error →
      (run.perform (.push input frame)).assembler = run.assembler
  /-- The inputs that owe a frame are those that have not delivered since the last set came out;
  once an input has ended, what the others have delivered for the unfinished set is owed too. -/
  missing : run.assembler.missingInputs = (List.range inputs).filter fun input ↦
    run.isEnded || (run.recent input).isEmpty
  /-- Once an input has ended, every delivery finds the end of the stream. -/
  ended : run.isEnded → ∀ (input : Nat) (frame : Frame),
    run.assembler.push input frame = .ok (.endOfStream, run.assembler)
  /-- Once an input has ended, no set comes out any more. -/
  last : run.isEnded → ∀ calls : List AssemblerCall, (run.performAll calls).sets = run.sets

/-- Whether an input has delivered since the last set came out shows at its place. -/
theorem Consistent.slot_free_iff (h : run.Consistent inputs)
    (hopen : run.assembler.closed = false) {input : Nat} (hinput : input < inputs) :
    run.assembler.slots[input]? = some none ↔ run.recent input = [] := by
  rw [h.held hopen input hinput, Option.some.injEq, List.getElem?_eq_none_iff,
    h.recent input hinput, List.drop_eq_nil_iff]

/-- A delivery is refused of an input that is none, and of one that has delivered since the last
set came out. -/
theorem Consistent.refused_iff (h : run.Consistent inputs) (input : Nat) (frame : Frame)
    (error : Error) :
    run.assembler.push input frame = .error error ↔ run.isEnded = false ∧
      (inputs ≤ input ∧ error = .invalid (.unknownInput input inputs) ∨
        input < inputs ∧ run.recent input ≠ [] ∧ error = .misused (.secondFrame input)) := by
  rw [h.ended]
  cases hopen : run.assembler.closed with
  | true => simp [FrameAssembler.push_closed hopen]
  | false =>
      rcases Nat.lt_or_ge input inputs with hinput | hinput
      · rw [Ne, ← h.slot_free_iff hopen hinput]
        cases hslot : run.assembler.slots[input]? with
        | none =>
            rw [h.held hopen input hinput] at hslot
            cases hslot
        | some slot =>
            cases slot with
            | some held =>
                rw [FrameAssembler.push_second hopen hslot, Except.error.injEq, eq_comm]
                simp [hinput, Nat.not_le.mpr hinput]
            | none =>
                obtain ⟨frames, -, hpush⟩ | ⟨-, hpush⟩ :=
                  FrameAssembler.push_accepted hopen hslot frame <;>
                simp [hpush, Nat.not_le.mpr hinput]
      · have hslot : run.assembler.slots[input]? = none :=
          List.getElem?_eq_none_iff.mpr (h.count.symm ▸ hinput)
        rw [FrameAssembler.push_unknown hopen hslot, h.count, Except.error.injEq, eq_comm]
        simp [hinput, Nat.not_lt.mpr hinput]

/-- The inputs that owe a frame are those that have not delivered since the last set came out. -/
theorem Consistent.missing_eq (h : run.Consistent inputs) :
    run.assembler.missingInputs = (List.range inputs).filter fun input ↦
      run.isEnded || (run.recent input).isEmpty := by
  rw [FrameAssembler.missing_inputs_eq, h.count, h.ended]
  refine List.filter_congr fun input hinput ↦ ?_
  rw [List.mem_range] at hinput
  rw [Bool.eq_iff_iff, decide_eq_true_iff, Bool.or_eq_true, List.isEmpty_iff]
  cases hopen : run.assembler.closed with
  | true => simp [h.cleared hopen input hinput]
  | false => simp [h.slot_free_iff hopen hinput]

/-- Once an input has ended, a call brings no set. -/
theorem Consistent.perform_closed (h : run.Consistent inputs) (hended : run.isEnded)
    (call : AssemblerCall) :
    (run.perform call).isEnded ∧ (run.perform call).sets = run.sets := by
  have hsome (other : Bool) : (run.isEnded || other) = true := by rw [hended, Bool.true_or]
  cases call with
  | push input frame =>
      rw [perform_push_ok (FrameAssembler.push_closed (h.ended ▸ hended))]
      exact ⟨note_is_ended.trans (hsome _), note_sets.trans (List.append_nil _)⟩
  | close => exact ⟨note_is_ended.trans (hsome _), note_sets.trans (List.append_nil _)⟩

/-- Once an input has ended, calls bring no set. -/
theorem Consistent.perform_all_closed (calls : List AssemblerCall) :
    ∀ {run : AssemblerRun}, run.Consistent inputs → run.isEnded →
      (run.performAll calls).sets = run.sets := by
  induction calls with
  | nil => exact fun _ _ ↦ rfl
  | cons call calls ih =>
      intro run h hended
      obtain ⟨hended, hsets⟩ := h.perform_closed hended call
      exact (ih (h.perform call) hended).trans hsets

/-- The frame sets of every run are aligned, however deliveries and ends of inputs are mixed. -/
theorem sets_aligned {inputs : Nat} {assembler : FrameAssembler}
    (hstart : FrameAssembler.start? inputs = some assembler) (calls : List AssemblerCall) :
    ((start assembler).performAll calls).Aligned inputs := by
  have h := (consistent_start hstart).perform_all calls
  set run := (start assembler).performAll calls
  refine ⟨h.aligned, fun input hinput ↦ (h.complete input hinput).1, ?_, h.refused_iff, ?_,
    h.missing_eq, fun hended input frame ↦ ?_, fun hended calls ↦ ?_⟩
  · intro hopen hinputs
    rw [h.ended] at hopen
    obtain ⟨input, hinput, hslot⟩ := List.getElem_of_mem (h.waiting hopen hinputs)
    have hheld := h.held hopen input (h.count ▸ hinput)
    rw [List.getElem?_eq_getElem hinput, hslot, Option.some.injEq, eq_comm,
      List.getElem?_eq_none_iff] at hheld
    exact ⟨input, h.count ▸ hinput, hheld.antisymm (h.complete input (h.count ▸ hinput)).1⟩
  · exact fun input frame error hpush ↦ by rw [perform_push_error hpush]; rfl
  · exact FrameAssembler.push_closed (h.ended ▸ hended)
  · exact h.perform_all_closed calls hended

/-- The second input delivers first, twice. -/
def spotCalls : List AssemblerCall :=
  [.push 1 (.grayRow 1 #[3]), .push 1 (.grayRow 1 #[4]), .push 0 (.grayRow 1 #[5]),
    .push 0 (.grayRow 1 #[6])]

/-- The frames of two inputs are aligned. -/
theorem spot_sets_aligned : FrameAssembler.start? 2 = some ⟨[none, none], false⟩ ∧
    ((start ⟨[none, none], false⟩).performAll spotCalls).Aligned 2 ∧
      ((start ⟨[none, none], false⟩).performAll spotCalls).sets
        = [[.grayRow 1 #[5], .grayRow 1 #[3]]] :=
  ⟨by decide, sets_aligned (by decide) spotCalls, by decide⟩

/-- Once an input has ended, an input may owe a frame that has delivered since the last set. -/
theorem spot_missing_after_end : ∃ assembler, FrameAssembler.start? 2 = some assembler ∧
    let run := (start assembler).performAll [.push 0 (.grayRow 1 #[7]), .close]
    run.recent 0 = [.grayRow 1 #[7]] ∧ run.assembler.missingInputs = [0, 1] ∧
      run.assembler.missingInputs
        ≠ (List.range 2).filter fun input ↦ (run.recent input).isEmpty :=
  ⟨⟨[none, none], false⟩, by decide, by decide, by decide, by decide⟩

end AssemblerRun

end Panorama
