import Panorama.Canvas

/-!
# Pixel layouts

A frame is stored as one or three planes of bytes. The layout fixes how many planes there are, how
many bytes a pixel of a plane takes, and how much smaller than the frame the plane is.
-/

namespace Panorama

/-- The pixel layouts that can be composed. -/
inductive PixelFormat where
  /-- One luma plane. -/
  | gray8
  /-- Luma and two chroma planes of half resolution, limited range. -/
  | yuv420p
  /-- Luma and two chroma planes of half resolution, full range. -/
  | yuvj420p
  /-- One plane with red, green and blue side by side. -/
  | rgb24
  deriving DecidableEq, Repr

namespace PixelFormat

/-- The format's name in reports. -/
def text : PixelFormat → String
  | .gray8 => "Gray8"
  | .yuv420p => "Yuv420p"
  | .yuvj420p => "Yuvj420p"
  | .rgb24 => "Rgb24"

/-- Number of planes. -/
def planeCount : PixelFormat → Nat
  | .gray8 | .rgb24 => 1
  | .yuv420p | .yuvj420p => 3

/-- Bytes of one pixel, the same in every plane. -/
def channels : PixelFormat → Nat
  | .rgb24 => 3
  | _ => 1

/-- Whether the chroma planes have half the resolution. -/
def isChromaSubsampled : PixelFormat → Bool
  | .yuv420p | .yuvj420p => true
  | _ => false

/-- Frame pixels per pixel of a plane, along each axis. -/
def subsampling (format : PixelFormat) (plane : Nat) : UInt32 :=
  if 0 < plane && format.isChromaSubsampled then 2 else 1

/-- Dimensions of a plane of a frame. -/
def planeSize (format : PixelFormat) (plane : Nat) (canvas : Canvas) : Canvas :=
  ⟨canvas.width / format.subsampling plane, canvas.height / format.subsampling plane⟩

/-- The byte that means "no signal" in a plane: black, which is 128 for chroma. -/
def noSignal (format : PixelFormat) (plane : Nat) : UInt8 :=
  if 0 < plane && format.isChromaSubsampled then 128 else 0

end PixelFormat

end Panorama
