import Panorama.Frame.Basic
import Panorama.Stream

/-!
# Packed frames

The packed form of a frame is the rows of its planes back to back without padding. It is what raw
streams hold, one frame after the other.
-/

namespace Panorama.Frame

/-- The rows of all planes, without padding, in the order in which they are packed. -/
def rows? (frame : Frame) : Option (List (List UInt8)) := do
  let rows ← frame.planes.mapM fun plane ↦ plane.rows? frame.format.channels
  return rows.flatten

/-- The packed form. -/
def packed? (frame : Frame) : Option (List UInt8) :=
  frame.rows?.map List.flatten

/-- Write rows of a plane one by one, from row `y` on. A row that the plane does not hold breaks a
precondition. -/
def writeRows (plane : Plane) (channels y : Nat) : Nat → Sink → Outcome Unit × Sink
  | 0, sink => (.ok (), sink)
  | count + 1, sink =>
    match plane.row? channels y with
    | none => (.error .fault, sink)
    | some row =>
      match sink.write row with
      | .error error => (.error (.refused error), sink)
      | .ok sink => writeRows plane channels (y + 1) count sink

/-- Write planes one by one. -/
def writePlanes (channels : Nat) : List Plane → Sink → Outcome Unit × Sink
  | [], sink => (.ok (), sink)
  | plane :: rest, sink =>
    match writeRows plane channels 0 plane.height.toNat sink with
    | (.ok (), sink) => writePlanes channels rest sink
    | failed => failed

/-- Write the packed form, one row at a time. -/
def writePacked (frame : Frame) (sink : Sink) : Outcome Unit × Sink :=
  writePlanes frame.format.channels frame.planes sink

/-- Give tight planes the bytes of a packed frame. -/
def fillPlanes : List TightPlane → List UInt8 → List Plane
  | [], _ => []
  | plane :: rest, bytes =>
    plane.fill (bytes.take plane.bytes).toArray :: fillPlanes rest (bytes.drop plane.bytes)

/-- The tight frame with a given packed form. -/
def ofPacked (format : PixelFormat) (size : Canvas) (bytes : List UInt8) : Result Frame := do
  let expected ← format.frameBytes size
  if bytes.length ≠ expected then
    throw (.sizeMismatch (.packedLength format size expected bytes.length))
  return ⟨format, size, fillPlanes (← tightPlanes format size) bytes⟩

/-- Read the planes of a packed frame, where `begun` says whether a byte of it has been read. No
result means that the stream has ended in front of the frame. -/
def readPlanes (begun : Bool) : List TightPlane → Source → Result (Option (List Plane)) × Source
  | [], source => (.ok (some []), source)
  | plane :: rest, source =>
    let filled := source.fill plane.bytes
    if filled.bytes.length = plane.bytes then
      let (result, source) := readPlanes true rest filled.source
      (result.map (·.map (plane.fill filled.bytes.toArray :: ·)), source)
    else
      match filled.failure with
      | some failure => (.error (.io failure), filled.source)
      | none =>
        if begun || !filled.bytes.isEmpty then (.error .truncatedFrame, filled.source)
        else (.ok none, filled.source)

/-- Read one packed frame; no frame at the end of the stream. The bytes of a frame that is cut off
are lost. -/
def readPacked (format : PixelFormat) (size : Canvas) (source : Source) :
    Result (Option Frame) × Source :=
  match tightPlanes format size with
  | .error error => (.error error, source)
  | .ok planes =>
    let (result, source) := readPlanes false planes source
    (result.map (·.map (⟨format, size, ·⟩)), source)

end Panorama.Frame
