import Panorama.Frame.Basic
import Panorama.Number.Byte
import Panorama.Picture.Basic

/-!
# Color pictures of frames

Any frame can be shown as a picture of red, green and blue pixels. Luma and chroma are converted
with the coefficients of BT.601.
-/

namespace Panorama

namespace Frame

/-- Red, green and blue of a pixel with the given luma and chroma. Limited range is stretched
first. -/
def convert (fullRange : Bool) (luma u v : UInt8) : Color :=
  let luma := luma.toFloat32
  let u := u.toFloat32 - 128
  let v := v.toFloat32 - 128
  let (luma, u, v) : Float32 × Float32 × Float32 :=
    if fullRange then (luma, u, v)
    else ((luma - 16) * (255 / 219), u * (255 / 224), v * (255 / 224))
  ⟨Number.roundToByte (luma + 1.402 * v),
    Number.roundToByte (luma - 0.344136 * u - 0.714136 * v),
    Number.roundToByte (luma + 1.772 * u)⟩

/-- Red, green and blue of a pixel of a frame. -/
def color? (frame : Frame) (x y : Nat) : Option Color := do
  match frame.format with
  | .gray8 =>
    let value ← frame.pixel? 0 0 x y
    return ⟨value, value, value⟩
  | .rgb24 => return ⟨← frame.pixel? 0 0 x y, ← frame.pixel? 0 1 x y, ← frame.pixel? 0 2 x y⟩
  | .yuv420p | .yuvj420p =>
    let luma ← frame.pixel? 0 0 x y
    let u ← frame.pixel? 1 0 (x / 2) (y / 2)
    let v ← frame.pixel? 2 0 (x / 2) (y / 2)
    return convert (frame.format = .yuvj420p) luma u v

/-- The frame as a picture. -/
def picture? (frame : Frame) : Option Picture := do
  let row (y : Nat) : Option (List Color) :=
    (List.range frame.size.width.toNat).mapM fun x ↦ frame.color? x y
  let rows ← (List.range frame.size.height.toNat).mapM row
  return ⟨frame.size, rows.flatten⟩

end Frame

end Panorama
