import Panorama.Error

/-!
# Pipeline slots

A pipeline has room for two frame sets. The latest one is pending; the one before it is ready to be
retrieved, and must be before a third one is submitted. At the end of the stream the pending one
becomes retrievable as well. Frame sets are numbered from zero.
-/

namespace Panorama

/-- How full a pipeline is. -/
inductive PipelineState where
  /-- It holds nothing. -/
  | empty
  /-- It holds a first frame set, which is not retrievable yet. -/
  | primed
  /-- Frame sets come and go. -/
  | steady
  /-- The stream has ended, and what is held can be retrieved. -/
  | draining
  deriving DecidableEq, Repr

/-- The frame sets that a pipeline holds, by number. -/
structure PipelineSlots where
  /-- How full the pipeline is. -/
  state : PipelineState
  /-- The latest frame set. -/
  pending : Option Nat
  /-- The retrievable frame set. -/
  ready : Option Nat
  /-- The number of the next frame set. Runs stay below the `2 ^ 64` that a word can number. -/
  next : Nat
  deriving DecidableEq, Repr

namespace PipelineSlots

/-- No frame set was submitted. -/
def start : PipelineSlots := ⟨.empty, none, none, 0⟩

/-- Number of frame sets that are held. -/
def inFlight (slots : PipelineSlots) : Nat :=
  slots.pending.toList.length + slots.ready.toList.length

/-- The number that the next frame set gets, if it can be submitted now. -/
def reserve (slots : PipelineSlots) : Result Nat :=
  match slots.state, slots.ready with
  | .draining, _ => .error (.misused .submitAfterEnd)
  | _, some waiting => .error (.misused (.submitTooEarly waiting))
  | _, none => .ok slots.next

/-- Take in the frame set with the reserved number. -/
def commit (slots : PipelineSlots) (number : Nat) : PipelineSlots where
  state := if slots.state = .empty then .primed else .steady
  pending := some number
  ready := slots.pending
  next := slots.next + 1

/-- Give out the oldest frame set that is retrievable. A drained pipeline is empty again. -/
def retrieve (slots : PipelineSlots) : Option Nat × PipelineSlots :=
  match slots.ready, slots.state, slots.pending with
  | some number, _, _ => (some number, { slots with ready := none })
  | none, .draining, some number => (some number, { slots with pending := none })
  | none, .draining, none => (none, { slots with state := .empty })
  | none, _, _ => (none, slots)

/-- The end of the stream. -/
def endOfStream (slots : PipelineSlots) : PipelineSlots :=
  { slots with state := if 0 < slots.inFlight then .draining else .empty }

end PipelineSlots

end Panorama
