import Panorama.Frame.Basic

/-!
# Frame sets

Inputs deliver their frames one by one and in any order. An assembler holds at most one frame per
input and releases a set as soon as it has one of each. Once an input has ended there are no more
sets, and the frames of an unfinished one are discarded.
-/

namespace Panorama

/-- What a delivery leads to. -/
inductive Cycle where
  /-- Other inputs have yet to deliver. -/
  | incomplete
  /-- One frame per input, in the order of the inputs. -/
  | ready (frames : List Frame)
  /-- No set will be complete any more. -/
  | endOfStream
  deriving DecidableEq

/-- The frames of an unfinished set. -/
structure FrameAssembler where
  /-- The frame of every input that has delivered. -/
  slots : List (Option Frame)
  /-- Whether an input has ended. -/
  closed : Bool
  deriving DecidableEq

namespace FrameAssembler

/-- Bytes of a place for a frame. -/
def slotBytes : Nat := 152

/-- An assembler to which no input has delivered; none if no buffer can have a place per input. -/
def start? (inputs : Nat) : Option FrameAssembler :=
  if Memory.holds inputs slotBytes then some ⟨List.replicate inputs none, false⟩ else none

/-- The assembler without frames. -/
def discard (assembler : FrameAssembler) : FrameAssembler :=
  { assembler with slots := assembler.slots.map fun _ ↦ none }

/-- Take the frame of an input, which must not have delivered for this set. -/
def push (assembler : FrameAssembler) (input : Nat) (frame : Frame) :
    Result (Cycle × FrameAssembler) :=
  if assembler.closed then .ok (.endOfStream, assembler)
  else
    match assembler.slots[input]? with
    | none => .error (.invalid (.unknownInput input assembler.slots.length))
    | some (some _) => .error (.misused (.secondFrame input))
    | some none =>
      let assembler := { assembler with slots := assembler.slots.set input (some frame) }
      match assembler.slots.mapM id with
      | some frames => .ok (.ready frames, assembler.discard)
      | none => .ok (.incomplete, assembler)

/-- End an input: no set will be complete any more. -/
def close (assembler : FrameAssembler) : Cycle × FrameAssembler :=
  (.endOfStream, { assembler.discard with closed := true })

/-- The inputs that have not delivered for this set, in order. -/
def missingInputs (assembler : FrameAssembler) : List Nat :=
  (assembler.slots.zipIdx.filter fun (slot, _) ↦ slot.isNone).map Prod.snd

end FrameAssembler

end Panorama
