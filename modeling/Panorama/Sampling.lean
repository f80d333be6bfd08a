import Panorama.Frame.View
import Panorama.Number.Arithmetic
import Panorama.Template.Basic

/-!
# Sampling between pixels

The value of a plane at a point that may lie between its pixels. The filters take the one or four
pixels around the point; a neighbor outside the plane wraps around or has a fill value, as the
edge policy says.
-/

namespace Panorama

/-- How a value between pixels is made. -/
inductive Interpolation where
  /-- The nearest pixel. -/
  | nearest
  /-- The four neighbors, each with the product of its nearness along both axes. -/
  | bilinear
  /-- The four neighbors, each with one minus the squared distance along both axes. -/
  | biquadratic
  deriving DecidableEq, Repr

/-- What a coordinate means on an axis. -/
inductive AxisPosition where
  /-- A pixel of the axis. -/
  | pixel (index : Nat)
  /-- A place that has the fill value. -/
  | outside
  deriving DecidableEq, Repr

/-- The place on an axis of `length` pixels that a coordinate means. No result means that the axis
wraps around but has no pixel. -/
def EdgeMode.resolve? (mode : EdgeMode) (length : UInt32) (position : Int) :
    Option AxisPosition :=
  if 0 ≤ position ∧ position < length.toNat then some (.pixel position.toNat)
  else
    match mode with
    | .fill => some .outside
    | .wrap =>
      if length.toNat = 0 then none else some (.pixel (position % length.toNat).toNat)

namespace PlaneView

variable {α : Type} [Arithmetic α]

/-- Whether a coordinate lies more than one sample outside an axis that is filled. -/
def isBeyond (mode : EdgeMode) (length : UInt32) (position : α) : Bool :=
  mode = .fill &&
    (Arithmetic.less position (Arithmetic.ofInt (-1)) ||
      Arithmetic.less (Arithmetic.ofInt length.toNat) position)

/-- The value at whole coordinates. No result means that the plane misses the byte, or that it
wraps around along an axis without pixels. -/
def neighbor? (plane : PlaneView) (channel : Nat) (edge : EdgePolicy) (fill : UInt8)
    (x y : Int) : Option α := do
  match ← edge.x.resolve? plane.width x, ← edge.y.resolve? plane.height y with
  | .pixel column, .pixel row =>
    (plane.pixel? column row channel).map fun byte ↦ Arithmetic.ofInt byte.toNat
  | _, _ => return Arithmetic.ofInt fill.toNat

/-- The pixel nearest to a point. -/
def nearest? (neighbor? : Int → Int → Option α) (x y : α) : Option α :=
  let half : α := Arithmetic.one / Arithmetic.ofInt 2
  neighbor? (Arithmetic.floor (x + half)) (Arithmetic.floor (y + half))

/-- The bilinear mean at a point: along both rows first, then between them. -/
def bilinear? (neighbor? : Int → Int → Option α) (x y : α) : Option α := do
  let left := Arithmetic.floor x
  let above := Arithmetic.floor y
  let acrossX := x - Arithmetic.ofInt left
  let acrossY := y - Arithmetic.ofInt above
  let topLeft ← neighbor? left above
  let topRight ← neighbor? (left + 1) above
  let bottomLeft ← neighbor? left (above + 1)
  let bottomRight ← neighbor? (left + 1) (above + 1)
  let top := topLeft * (Arithmetic.one - acrossX) + topRight * acrossX
  let bottom := bottomLeft * (Arithmetic.one - acrossX) + bottomRight * acrossX
  return top * (Arithmetic.one - acrossY) + bottom * acrossY

/-- The weight of a corner at a point: one minus the squared distance, along both axes. -/
def cornerWeight (x y cornerX cornerY : α) : α :=
  let distanceX := Arithmetic.abs (cornerX - x)
  let distanceY := Arithmetic.abs (cornerY - y)
  (Arithmetic.one - distanceX * distanceX) * (Arithmetic.one - distanceY * distanceY)

/-- The four corners around a point, as steps to the right and down. -/
def corners : List (Int × Int) := [(0, 0), (1, 0), (0, 1), (1, 1)]

/-- The mean of the corners around a point by their weights. -/
def biquadratic? (neighbor? : Int → Int → Option α) (x y : α) : Option α := do
  let left := Arithmetic.floor x
  let above := Arithmetic.floor y
  let (total, weights) ← corners.foldlM (fun (total, weights) (right, down) ↦ do
    let weight := cornerWeight x y (Arithmetic.ofInt left + Arithmetic.ofInt right)
      (Arithmetic.ofInt above + Arithmetic.ofInt down)
    let value ← neighbor? (left + right) (above + down)
    return (total + weight * value, weights + weight)) (Arithmetic.zero, Arithmetic.zero)
  return total / weights

/-- The value of a channel at a point. No result means that a pixel around it has no value. -/
def sample? (plane : PlaneView) (channel : Nat) (interpolation : Interpolation)
    (edge : EdgePolicy) (fill : UInt8) (x y : α) : Option α :=
  if isBeyond edge.x plane.width x || isBeyond edge.y plane.height y then
    some (Arithmetic.ofInt fill.toNat)
  else
    let neighbor? : Int → Int → Option α := plane.neighbor? channel edge fill
    match interpolation with
    | .nearest => nearest? neighbor? x y
    | .bilinear => bilinear? neighbor? x y
    | .biquadratic => biquadratic? neighbor? x y

end PlaneView

/-- The brightness of a frame at a point: its luma, or the mean of red, green and blue. Neighbors
outside the frame are black. -/
def FrameView.brightness? (view : FrameView) (interpolation : Interpolation) (edge : EdgePolicy)
    (x y : Float32) : Option Float32 := do
  let plane ← view.planes[0]?
  match view.format with
  | .rgb24 =>
    let values ← (List.range 3).mapM fun channel ↦
      plane.sample? channel interpolation edge 0 x y
    return Arithmetic.sum values / 3
  | _ => plane.sample? 0 interpolation edge 0 x y

end Panorama
