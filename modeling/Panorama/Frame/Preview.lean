import Panorama.Frame.Basic
import Panorama.Number.Exact

/-!
# Previews

A preview is a frame resampled to another size with a triangular filter, plane by plane and channel
by channel: first the columns, in floats, then the rows, rounded to bytes at the end.
-/

namespace Panorama

namespace Resampling

/-- The samples that an output sample is a weighted mean of. -/
structure Window where
  /-- Index of the first one. -/
  first : Nat
  /-- Their weights, which sum to one up to rounding. -/
  weights : List Float32

/-- The triangle of height one over `-1, …, 1`. -/
def triangle (position : Float32) : Float32 :=
  if position.abs < 1 then 1 - position.abs else 0

/-- The window of output sample `index` when `old` samples become `new` ones. -/
def window (old new index : Nat) : Window :=
  let ratio := Float32.ofNat old / Float32.ofNat new
  let scale := if ratio < 1 then 1 else ratio
  let center := (Float32.ofNat index + 0.5) * ratio
  let left := Number.floor (center - scale).toModel.unpack
  let right := Number.ceil (center + scale).toModel.unpack
  let first := (min left (old - 1)).toNat
  let last := max (first + 1) (min right old).toNat
  let center := center - 0.5
  let weights := (List.range (last - first)).map fun offset ↦
    triangle ((Float32.ofNat (first + offset) - center) / scale)
  let total := weights.foldl (· + ·) 0
  ⟨first, weights.map (· / total)⟩

/-- The weighted mean of a window's samples, from left to right. -/
def Window.mean (window : Window) (sample : Nat → Float32) : Float32 :=
  (window.weights.zipIdx window.first).foldl
    (fun total (weight, index) ↦ total + sample index * weight) 0

/-- The byte nearest to a resampled value. -/
def toByte (value : Float32) : UInt8 :=
  .ofNat (Number.nearest 255 value.toModel.unpack)

/-- Resample rows of pixels with `channels` bytes each from one size to another. -/
def resample (rows : Array (Array UInt8)) (channels : Nat) (old new : Canvas) : List UInt8 :=
  let columns := old.width.toNat * channels
  let byte (y column : Nat) : Float32 := ((rows.getD y #[]).getD column 0).toFloat32
  let tall : Array (Array Float32) := (Array.range new.height.toNat).map fun y ↦
    let window := window old.height.toNat new.height.toNat y
    (Array.range columns).map fun column ↦ window.mean fun row ↦ byte row column
  let windows := (List.range new.width.toNat).map (window old.width.toNat new.width.toNat)
  tall.toList.flatMap fun row ↦ windows.flatMap fun window ↦
    (List.range channels).map fun channel ↦
      toByte (window.mean fun x ↦ row.getD (x * channels + channel) 0)

end Resampling

namespace Frame

/-- The packed bytes of a plane at another size. -/
def resizePlane (format : PixelFormat) (plane : Plane) (size : Canvas) :
    Option (List UInt8) := do
  let rows ← plane.rows? format.channels
  if plane.size = size then return rows.flatten
  else return Resampling.resample (rows.map List.toArray).toArray format.channels plane.size size

/-- The frame at another size, in the same format. -/
def preview (frame : Frame) (size : Canvas) : Outcome Frame := do
  Outcome.ofResult (frame.format.checkSize size)
  let target ← Outcome.ofResult (blank frame.format size)
  let planes ← Outcome.ofOption <| (frame.planes.zip target.planes).mapM fun (source, plane) ↦ do
    let bytes ← resizePlane frame.format source plane.size
    return { plane with data := bytes.toArray }
  return { target with planes }

end Frame

end Panorama
