import Panorama.Error
import Panorama.Memory

/-!
# Frames

A frame is a pixel format, a size, and one plane of bytes per plane of the format. A plane may have
padding behind its rows and behind its last row. Positions in a plane are 64-bit words, and so is
the number of bytes that a plane is found to need. `Frame.WellFormed` says when every pixel of a
frame has a byte of its own; a stride so long that the words wrap around can break it.
-/

namespace Panorama

/-- One plane of pixel data, row by row. -/
structure Plane where
  /-- Width in pixels. -/
  width : UInt32
  /-- Height in pixels. -/
  height : UInt32
  /-- Bytes between the starts of consecutive rows. -/
  stride : UInt64
  /-- The bytes, padding included. -/
  data : Array UInt8
  deriving DecidableEq

namespace Plane

/-- Dimensions of a plane. -/
def size (plane : Plane) : Canvas := ⟨plane.width, plane.height⟩

/-- Bytes of a row, without padding. -/
def rowBytes (plane : Plane) (channels : Nat) : Nat := plane.width.toNat * channels

/-- Position of a channel of a pixel. -/
def address (plane : Plane) (channels channel x y : Nat) : UInt64 :=
  .ofNat (y * plane.stride.toNat + x * channels + channel)

/-- The bytes of a row without its padding; none if the plane does not hold them. -/
def row? (plane : Plane) (channels y : Nat) : Option (List UInt8) :=
  let start := plane.address channels 0 0 y
  let stop := start + .ofNat (plane.rowBytes channels)
  if start ≤ stop ∧ stop.toNat ≤ plane.data.size then
    some (plane.data.extract start.toNat stop.toNat).toList
  else none

/-- `count` rows without their padding, from row `y` on. -/
def rowsFrom? (plane : Plane) (channels y : Nat) : Nat → Option (List (List UInt8))
  | 0 => some []
  | count + 1 => do
    let row ← plane.row? channels y
    return row :: (← plane.rowsFrom? channels (y + 1) count)

/-- All rows without their padding, from top to bottom. -/
def rows? (plane : Plane) (channels : Nat) : Option (List (List UInt8)) :=
  plane.rowsFrom? channels 0 plane.height.toNat

/-- Every pixel has a byte of its own. -/
def WellFormed (plane : Plane) (channels : Nat) : Prop :=
  plane.rowBytes channels ≤ plane.stride.toNat ∧
    plane.stride.toNat * (plane.height.toNat - 1) + plane.rowBytes channels ≤ plane.data.size ∧
      plane.data.size < Memory.bufferLimit

end Plane

/-- A picture of several planes. -/
structure Frame where
  /-- Pixel layout. -/
  format : PixelFormat
  /-- Dimensions at full resolution. -/
  size : Canvas
  /-- The planes in the format's order. -/
  planes : List Plane
  deriving DecidableEq

namespace PixelFormat

/-- Refuse a size that has no pixel, or that would split a chroma pixel. -/
def checkSize (format : PixelFormat) (size : Canvas) : Result Unit :=
  if size.isEmpty then .error (.invalid (.emptyFrame format size))
  else if format.isChromaSubsampled && (size.width % 2 != 0 || size.height % 2 != 0) then
    .error (.invalid (.oddFrame format size))
  else .ok ()

/-- A product that fits in a 64-bit word. -/
def checkedProduct (left right : Nat) : Result Nat :=
  if left * right < UInt64.size then .ok (left * right)
  else .error (.exhausted (.product left right))

/-- Bytes of a plane without padding. -/
def planeBytes (format : PixelFormat) (size : Canvas) (plane : Nat) : Result Nat := do
  let size := format.planeSize plane size
  let row ← checkedProduct size.width.toNat format.channels
  checkedProduct row size.height.toNat

/-- Add the bytes of the planes `plane, plane + 1, …` to a total. -/
def addPlaneBytes (format : PixelFormat) (size : Canvas) (total : Nat) : List Nat → Result Nat
  | [] => .ok total
  | plane :: rest => do
    let bytes ← format.planeBytes size plane
    if total + bytes < UInt64.size then format.addPlaneBytes size (total + bytes) rest
    else .error (.exhausted .frameSize)

/-- Bytes of a frame without padding. -/
def frameBytes (format : PixelFormat) (size : Canvas) : Result Nat :=
  format.addPlaneBytes size 0 (List.range format.planeCount)

end PixelFormat

/-- A plane without padding, but for its bytes. -/
structure TightPlane where
  /-- Dimensions. -/
  size : Canvas
  /-- Bytes of a row. -/
  stride : UInt64
  /-- Bytes of all rows. -/
  bytes : Nat
  deriving DecidableEq

/-- The plane with given bytes. -/
def TightPlane.fill (plane : TightPlane) (data : Array UInt8) : Plane where
  width := plane.size.width
  height := plane.size.height
  stride := plane.stride
  data := data

namespace Frame

/-- The plane at a position of a tight frame, if there is memory for it. -/
def tightPlane (format : PixelFormat) (size : Canvas) (index : Nat) : Result TightPlane := do
  let planeSize := format.planeSize index size
  let stride ← PixelFormat.checkedProduct planeSize.width.toNat format.channels
  let bytes ← PixelFormat.checkedProduct stride planeSize.height.toNat
  if Memory.holds bytes 1 then return ⟨planeSize, .ofNat stride, bytes⟩
  else throw (.exhausted (.allocation bytes))

/-- The planes of a tight frame. -/
def tightPlanes (format : PixelFormat) (size : Canvas) : Result (List TightPlane) := do
  format.checkSize size
  (List.range format.planeCount).mapM (tightPlane format size)

/-- A tight frame of "no signal" bytes. -/
def blank (format : PixelFormat) (size : Canvas) : Result Frame := do
  let planes ← tightPlanes format size
  let blankPlane (index : Nat) (plane : TightPlane) : Plane :=
    plane.fill (Array.replicate plane.bytes (format.noSignal index))
  return ⟨format, size, planes.mapIdx blankPlane⟩

/-- Refuse a plane whose dimensions are not the format's or that misses bytes. The number of bytes
that a plane needs is a 64-bit word. -/
def checkPlane (format : PixelFormat) (size : Canvas) (index : Nat) (plane : Plane) :
    Result Unit :=
  let expected := format.planeSize index size
  let row := plane.rowBytes format.channels
  let needed := plane.stride * (plane.height.toUInt64 - 1) + .ofNat row
  if plane.size ≠ expected then .error (.sizeMismatch (.planeSize index plane.size expected))
  else if plane.stride.toNat < row then
    .error (.sizeMismatch (.shortStride index plane.stride.toNat row))
  else if plane.data.size < needed.toNat then
    .error (.sizeMismatch (.shortPlane index plane.data.size needed.toNat))
  else .ok ()

/-- Check the planes from position `index` on. -/
def checkPlanes (format : PixelFormat) (size : Canvas) (index : Nat) : List Plane → Result Unit
  | [] => .ok ()
  | plane :: rest => do
    checkPlane format size index plane
    checkPlanes format size (index + 1) rest

/-- A frame of given planes. -/
def ofPlanes (format : PixelFormat) (size : Canvas) (planes : List Plane) : Result Frame := do
  format.checkSize size
  if planes.length ≠ format.planeCount then
    throw (.sizeMismatch (.planeCount format planes.length))
  checkPlanes format size 0 planes
  return ⟨format, size, planes⟩

/-- The frame has the planes of its format, and each has a byte for every pixel. -/
def WellFormed (frame : Frame) : Prop :=
  frame.format.checkSize frame.size = .ok () ∧
    frame.planes.length = frame.format.planeCount ∧
      ∀ index, ∀ plane, frame.planes[index]? = some plane →
        plane.size = frame.format.planeSize index frame.size ∧
          plane.WellFormed frame.format.channels

/-- The byte of a channel of a pixel. A column beyond the row leads into the next one. -/
def pixel? (frame : Frame) (plane channel x y : Nat) : Option UInt8 := do
  let plane ← frame.planes[plane]?
  plane.data[(plane.address frame.format.channels channel x y).toNat]?

/-- Change one plane, if there is one at this position. -/
def modifyPlane? (frame : Frame) (index : Nat) (change : Plane → Option Plane) :
    Option Frame := do
  let plane ← frame.planes[index]?
  let plane ← change plane
  return { frame with planes := frame.planes.set index plane }

/-- Change the byte at a position of a plane. -/
def poke? (frame : Frame) (plane position : Nat) (value : UInt8) : Option Frame :=
  frame.modifyPlane? plane fun plane ↦
    if _inside : position < plane.data.size then
      some { plane with data := plane.data.set position value }
    else none

/-- Change the byte of a channel of a pixel. -/
def setPixel? (frame : Frame) (plane channel x y : Nat) (value : UInt8) : Option Frame := do
  let target ← frame.planes[plane]?
  frame.poke? plane (target.address frame.format.channels channel x y).toNat value

/-- Overwrite every byte, padding included, with "no signal". -/
def fillNoSignal (frame : Frame) : Frame :=
  let blank (plane : Plane) (index : Nat) : Plane :=
    { plane with data := Array.replicate plane.data.size (frame.format.noSignal index) }
  { frame with planes := frame.planes.mapIdx fun index plane ↦ blank plane index }

end Frame

end Panorama
