import Panorama.Frame.Basic

/-!
# Views of frames

A view shows a frame through a horizontal crop, for sampling. It shares the frame's bytes.
-/

namespace Panorama

/-- The columns of every input that are used. -/
structure Crop where
  /-- First column. -/
  x : UInt32
  /-- Number of columns. -/
  width : UInt32
  deriving DecidableEq, Repr

/-- The visible part of one plane. -/
structure PlaneView where
  /-- The bytes of the whole plane. -/
  data : Array UInt8
  /-- Position of the first visible byte. -/
  start : Nat
  /-- Visible columns. -/
  width : UInt32
  /-- Rows. -/
  height : UInt32
  /-- Bytes between the starts of consecutive rows. -/
  stride : UInt64
  /-- Bytes of a pixel. -/
  channels : Nat

/-- Position of a channel of a pixel behind the first visible byte. -/
def PlaneView.offset (view : PlaneView) (x y channel : Nat) : UInt64 :=
  .ofNat (y * view.stride.toNat + x * view.channels + channel)

/-- The byte of a channel of a visible pixel. -/
def PlaneView.pixel? (view : PlaneView) (x y channel : Nat) : Option UInt8 :=
  view.data[view.start + (view.offset x y channel).toNat]?

/-- The visible part of a frame. -/
structure FrameView where
  /-- Pixel layout. -/
  format : PixelFormat
  /-- Visible size at full resolution. -/
  size : Canvas
  /-- The planes in the format's order. -/
  planes : List PlaneView

namespace Frame

/-- The columns that a crop leaves of a frame: the first and how many. A crop keeps at least one
column, stays inside the frame, and does not cut through a chroma pixel. -/
def visibleColumns (frame : Frame) : Option Crop → Result (UInt32 × UInt32)
  | none => .ok (0, frame.size.width)
  | some crop =>
    if crop.width == 0 || frame.size.width.toNat < crop.x.toNat + crop.width.toNat then
      .error (.sizeMismatch (.cropOutside crop.x crop.width frame.size.width))
    else if frame.format.isChromaSubsampled && (crop.x % 2 != 0 || crop.width % 2 != 0) then
      .error (.sizeMismatch .oddCrop)
    else .ok (crop.x, crop.width)

/-- The visible part of the plane at position `index`; none if the plane ends before it. -/
def viewPlane? (format : PixelFormat) (first width : UInt32) (index : Nat) (plane : Plane) :
    Option PlaneView :=
  let start := (first / format.subsampling index).toNat * format.channels
  if start ≤ plane.data.size then
    some { data := plane.data
           start := start
           width := width / format.subsampling index
           height := plane.height
           stride := plane.stride
           channels := format.channels }
  else none

/-- The frame through a crop. Every plane must reach as far as the crop's first column. -/
def view (frame : Frame) (crop : Option Crop) : Outcome FrameView := do
  let (first, width) ← Outcome.ofResult (frame.visibleColumns crop)
  let planes ← Outcome.ofOption <| frame.planes.zipIdx.mapM fun (plane, index) ↦
    viewPlane? frame.format first width index plane
  return { format := frame.format, size := ⟨width, frame.size.height⟩, planes }

end Frame

end Panorama
