import Panorama.Error
import Panorama.Number.Exact

/-!
# Regions

A part of a canvas in coordinates that run from 0 to 1 along each axis, and the pixels it covers.
Both edges of a region are rounded on their own, so that two regions with a common edge meet at
the same pixel.
-/

namespace Panorama

/-- A part of a canvas in normalized coordinates. -/
structure Region where
  /-- Left edge. -/
  x : Float
  /-- Top edge. -/
  y : Float
  /-- Width as a fraction of the canvas. -/
  width : Float
  /-- Height as a fraction of the canvas. -/
  height : Float
  deriving DecidableEq

namespace Region

/-- The whole canvas. -/
def full : Region := ⟨0, 0, 1, 1⟩

/-- Whether a region has the coordinates of the whole canvas. -/
def isFull (region : Region) : Bool :=
  region.x == 0 && region.y == 0 && region.width == 1 && region.height == 1

/-- Sums such as `0.1 + 0.9` may exceed one by this much. -/
def slack : Float := 1e-9

/-- The first rule that a region breaks: finite, not empty, and inside the unit square. -/
def flaw? (region : Region) : Option RegionFlaw :=
  if !(region.x.isFinite && region.y.isFinite && region.width.isFinite && region.height.isFinite)
  then some .notFinite
  else if region.x < 0 || region.y < 0 || region.width ≤ 0 || region.height ≤ 0 then
    some .outOfOrder
  else if 1 + slack < region.x + region.width || 1 + slack < region.y + region.height then
    some .outside
  else none

/-- Refuse what is no region. -/
def validate (region : Region) : Result Unit :=
  match region.flaw? with
  | some flaw => .error (.invalid (.region flaw))
  | none => .ok ()

/-- A region with the given coordinates, if they make one. -/
def make (x y width height : Float) : Result Region := do
  let region : Region := ⟨x, y, width, height⟩
  region.validate
  return region

/-- The pixel nearest to where a region starts. -/
def startPixel (position : Float) (length : UInt32) : Nat :=
  Number.nearest (UInt32.size - 1) (position * length.toFloat).toModel.unpack

/-- The pixel nearest to where a region ends, at most the last one; a NaN ends there as well. -/
def endPixel (position : Float) (length : UInt32) : Nat :=
  let pixel := position * length.toFloat
  if pixel.isNaN then length.toNat else Number.nearest length.toNat pixel.toModel.unpack

/-- The pixels that a region covers on a canvas. -/
def toPixels (region : Region) (canvas : Canvas) : PixelRect :=
  let left := startPixel region.x canvas.width
  let top := startPixel region.y canvas.height
  let right := endPixel (region.x + region.width) canvas.width
  let bottom := endPixel (region.y + region.height) canvas.height
  { x := .ofNat left
    y := .ofNat top
    width := .ofNat (right - left)
    height := .ofNat (bottom - top) }

end Region

end Panorama
