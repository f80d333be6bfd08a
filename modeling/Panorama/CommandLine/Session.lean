import Panorama.CommandLine.Picture
import Panorama.CommandLine.Report
import Panorama.Files.Input
import Panorama.Files.Writer
import Panorama.Frame.Assembler
import Panorama.Frame.Color
import Panorama.Frame.Packed
import Panorama.Pipeline.Basic

/-!
# Sessions

A session stitches raw streams. Frames are read from the inputs, one of each per set, and sets go
through a pipeline until an input ends or the limit is reached. The outputs of all sets are written
back to back, and so are the previews. What was delivered before a failure is written all the same.
-/

namespace Panorama.CommandLine

/-- A stitch command in the middle of its work. -/
structure Session where
  /-- Layout of the raw frames. -/
  format : PixelFormat
  /-- Sizes of the raw frames. -/
  sizes : List Canvas
  /-- The inputs. -/
  inputs : List FileInput
  /-- The unfinished frame set. -/
  assembler : FrameAssembler
  /-- What stitches. -/
  pipeline : Pipeline
  /-- Frame sets that went into the pipeline. -/
  submitted : Nat
  /-- Frame sets that came out of it. -/
  delivered : Nat
  /-- Where the packed outputs go. -/
  out : FileWriter
  /-- Where the packed previews go, if anywhere. -/
  preview : Option FileWriter
  /-- Where a picture of the first output is still to be written. -/
  picture : Option String
  /-- The files. -/
  store : FileStore
  /-- Messages so far. -/
  log : String

namespace Session

/-- The rows of several frames. -/
def rowsOf (frames : List Frame) : List (List UInt8) :=
  frames.flatMap fun frame ↦ frame.rows?.getD []

/-- Write frames row by row to the output. -/
def keepOutputs (session : Session) (frames : List Frame) : Except DeviceFailure Session := do
  let (out, store) ← session.out.writeAll (rowsOf frames) session.store
  return { session with out, store }

/-- Write a preview row by row, if previews are kept. -/
def keepPreview (session : Session) (frame : Option Frame) : Except DeviceFailure Session := do
  match session.preview with
  | none => return session
  | some writer =>
    let (writer, store) ← writer.writeAll (rowsOf frame.toList) session.store
    return { session with preview := some writer, store }

/-- Write the outputs and then the preview of a frame set. -/
def keep (session : Session) (output : StitchOutput) : Except Report Unit × Session :=
  let report (failure : DeviceFailure) : Report := .ofError (.io failure)
  match session.keepOutputs output.outputs with
  | .error failure => (.error (report failure), session)
  | .ok session =>
    match session.keepPreview output.preview with
    | .error failure => (.error (report failure), session)
    | .ok session => (.ok (), session)

/-- Empty the buffer of the output into its file. -/
def flushOutput (session : Session) : Except DeviceFailure Unit × Session :=
  match session.out.flush session.store with
  | .error failure => (.error failure, session)
  | .ok (out, store) => (.ok (), { session with out, store })

/-- Empty the buffer of the preview into its file. -/
def flushPreview (session : Session) : Except DeviceFailure Unit × Session :=
  match session.preview with
  | none => (.ok (), session)
  | some writer =>
    match writer.flush session.store with
    | .error failure => (.error failure, session)
    | .ok (writer, store) => (.ok (), { session with preview := some writer, store })

/-- Empty the buffers into the files, that of the preview also if the output cannot be written. -/
def flush (session : Session) : Except Report Unit × Session :=
  let (output, session) := session.flushOutput
  let (preview, session) := session.flushPreview
  ((do output; preview : Except DeviceFailure Unit).mapError fun failure ↦ ⟨failure.message, []⟩,
    session)

/-- Write the picture if it is still to be written. -/
def depict (session : Session) (outputs : List Frame) : Except Report Unit × Session :=
  match session.picture, outputs with
  | some path, first :: _ =>
    let session := { session with picture := none }
    match first.picture? with
    | none => (.error (.ofFailure .fault), session)
    | some picture =>
      match savePicture session.store path picture with
      | (.error failure, store) =>
        (.error ⟨s!"write png '{path}'", failure.causes⟩, { session with store })
      | (.ok (), store) =>
        (.ok (), { session with
          store
          inputs := session.inputs.map (·.afterWriting store path)
          log := session.log ++ s!"wrote {path}\n" })
  | _, _ => (.ok (), session)

/-- Give the buffers of a stitched frame set back. -/
def giveBack (session : Session) (outputs : List Frame) : Except Report Unit × Session :=
  match session.pipeline.recycle outputs with
  | .error error => (.error (.ofError error), session)
  | .ok pipeline => (.ok (), { session with pipeline })

/-- Write what has come of a frame set. -/
def save (session : Session) (output : StitchOutput) : Except Report Unit × Session :=
  match session.keep output with
  | (.error report, session) => (.error report, session)
  | (.ok (), session) =>
    match session.depict output.outputs with
    | (.error report, session) => (.error report, session)
    | (.ok (), session) =>
      { session with delivered := session.delivered + 1 }.giveBack output.outputs

/-- Take the next stitched frame set out of the pipeline, if there is one, and write it. The result
says whether there was one. -/
def deliver (session : Session) : Except Report Bool × Session :=
  let (result, pipeline) := session.pipeline.retrieve
  let session := { session with pipeline }
  match result with
  | .error error => (.error (.ofError error), session)
  | .ok none => (.ok false, session)
  | .ok (some frame) =>
    let (result, session) := session.save frame.output
    (result.map fun _ ↦ true, session)

/-- Submit a frame set and deliver what has become retrievable. -/
def submit (session : Session) (frames : List Frame) : Except Report Unit × Session :=
  match session.pipeline.submit frames with
  | .error error => (.error (.ofError error), session)
  | .ok pipeline =>
    let session := { session with pipeline, submitted := session.submitted + 1 }
    let (result, session) := session.deliver
    (result.map fun _ ↦ (), session)

/-- Give the assembler what was read from an input. The result says whether the stream goes on. -/
def accept (session : Session) (input : Nat) : Option Frame → Except Report Bool × Session
  | none => (.ok false, { session with assembler := session.assembler.close.2 })
  | some frame =>
    match session.assembler.push input frame with
    | .error error => (.error (.ofError error), session)
    | .ok (.endOfStream, assembler) => (.ok false, { session with assembler })
    | .ok (.incomplete, assembler) => (.ok true, { session with assembler })
    | .ok (.ready frames, assembler) =>
      let (result, session) := { session with assembler }.submit frames
      (result.map fun _ ↦ true, session)

/-- The lengths of the pieces in which a frame is read. -/
def pieceLengths (session : Session) (size : Canvas) : List Nat :=
  match Frame.tightPlanes session.format size with
  | .ok planes => planes.map (·.bytes)
  | .error _ => []

/-- Read one frame from the input at a position. -/
def readInput (session : Session) (position : Nat) (size : Canvas) :
    Except Report Bool × Session :=
  match session.inputs[position]? with
  | none => (.ok false, session)
  | some input =>
    let (result, source) := Frame.readPacked session.format size input.source
    let input := input.advance (session.pieceLengths size) source
    let session := { session with inputs := session.inputs.set position input }
    match result with
    | .error error => (.error (.within s!"read input {position}" error), session)
    | .ok frame => session.accept position frame

/-- Read one frame from each input, from position `input` on, until one ends. -/
def readInputs (session : Session) (input : Nat) : List Canvas → Except Report Bool × Session
  | [] => (.ok true, session)
  | size :: rest =>
    match session.readInput input size with
    | (.ok true, session) => session.readInputs (input + 1) rest
    | stopped => stopped

/-- Whether the limit of frame sets is reached. -/
def isDone (session : Session) (limit : Option Nat) : Bool :=
  match limit with
  | some limit => limit ≤ session.submitted
  | none => false

/-- Read at most `sets` frame sets. The result says whether there may be more of them. -/
def readSets (limit : Option Nat) : Nat → Session → Except Report Bool × Session
  | 0, session => (.ok true, session)
  | sets + 1, session =>
    if session.isDone limit then (.ok false, session)
    else
      match session.readInputs 0 session.sizes with
      | (.ok true, session) => readSets limit sets session
      | stopped => stopped

/-- More frame sets than the inputs hold. Every frame has a byte, so there are no more sets than
bytes. -/
def bound (session : Session) : Nat :=
  (session.inputs.map fun input ↦ input.source.bytes.length).foldl (· + ·) 1

/-- Read frame sets up to the limit or to the end of an input. The picture may replace an input, so
that there are more sets than seemed; it is written only once. -/
def readAll (session : Session) (limit : Option Nat) : Except Report Bool × Session :=
  match readSets limit session.bound session with
  | (.ok true, session) => readSets limit session.bound session
  | stopped => stopped

/-- Deliver at most `sets` frame sets, until there is none. -/
def drain : Nat → Session → Except Report Unit × Session
  | 0, session => (.ok (), session)
  | sets + 1, session =>
    match session.deliver with
    | (.ok true, session) => drain sets session
    | (.ok false, session) => (.ok (), session)
    | (.error report, session) => (.error report, session)

/-- Stitch up to the limit or to the end of an input. -/
def stitch (session : Session) (limit : Option Nat) : Except Report Unit × Session :=
  match session.readAll limit with
  | (.error report, session) => (.error report, session)
  | (.ok _, session) =>
    let session := { session with pipeline := session.pipeline.endOfStream }
    drain (session.pipeline.slots.inFlight + 1) session

/-- Stitch, and leave nothing in the buffers. -/
def run (session : Session) (limit : Option Nat) : Except Report Unit × Session :=
  let (result, session) := session.stitch limit
  let (flushed, session) := session.flush
  (do result; flushed, session)

end Session

end Panorama.CommandLine
