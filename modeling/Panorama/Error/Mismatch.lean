import Panorama.Frame.Format

/-!
# Mismatches

Two things that should agree in size, number or format and do not.
-/

namespace Panorama

/-- Sizes as they appear in reports of templates that disagree. -/
def canvasListText (sizes : List Canvas) : String :=
  let one (size : Canvas) : String :=
    s!"Canvas \x7b width: {size.width.toNat}, height: {size.height.toNat} \x7d"
  "[" ++ ", ".intercalate (sizes.map one) ++ "]"

/-- Two things that should agree in size, number or format and do not. -/
inductive Mismatch where
  /-- A frame is given the wrong number of planes. -/
  | planeCount (format : PixelFormat) (count : Nat)
  /-- A plane has the wrong dimensions. -/
  | planeSize (plane : Nat) (size expected : Canvas)
  /-- The rows of a plane overlap. -/
  | shortStride (plane stride row : Nat)
  /-- A plane has too few bytes. -/
  | shortPlane (plane bytes needed : Nat)
  /-- Packed bytes are not as many as the frame has. -/
  | packedLength (format : PixelFormat) (size : Canvas) (expected bytes : Nat)
  /-- A crop reaches beyond the frame. -/
  | cropOutside (x width frameWidth : UInt32)
  /-- A crop cuts through a chroma pixel. -/
  | oddCrop
  /-- A template was made for other sources than the first template. -/
  | templateInputs (template : Nat) (inputs first : List Canvas)
  /-- A frame set does not have one frame per source. -/
  | frameCount (frames expected : Nat)
  /-- A frame has another format. -/
  | inputFormat (input : Nat) (format expected : PixelFormat)
  /-- A frame has another size. -/
  | inputSize (input : Nat) (size expected : Canvas)
  /-- A gain table does not have one row per template. -/
  | gainRows (rows templates : Nat)
  /-- A row of a gain table does not have one gain per source. -/
  | gainRow (row gains inputs : Nat)
  /-- A gain update is given the wrong number of frames. -/
  | gainFrames (frames inputs : Nat)
  /-- A region covers another number of pixels than its template has, or leaves the canvas. -/
  | placement (template : Nat) (size covered canvas : Canvas)
  /-- A submitted frame set does not have one frame per source. -/
  | submission (frames expected : Nat)
  /-- A template file was made for another number of sources. -/
  | templateFile (path : String) (inputs declared : Nat)
  deriving DecidableEq

/-- The wording of a mismatch. -/
def Mismatch.message : Mismatch → String
  | .planeCount format count => s!"{format.text} expects {format.planeCount} planes, got {count}"
  | .planeSize plane size expected => s!"plane {plane} is {size.text}, expected {expected.text}"
  | .shortStride plane stride row =>
    s!"plane {plane} stride {stride} is shorter than a row ({row} bytes)"
  | .shortPlane plane bytes needed => s!"plane {plane} holds {bytes} bytes, needs {needed}"
  | .packedLength format size expected bytes =>
    s!"packed {format.text} {size.text} frame needs {expected} bytes, got {bytes}"
  | .cropOutside x width frameWidth =>
    s!"crop {x.toNat}+{width.toNat} exceeds frame width {frameWidth.toNat}"
  | .oddCrop => "crop must be even-aligned for subsampled chroma"
  | .templateInputs template inputs first =>
    s!"template {template} declares inputs {canvasListText inputs}, " ++
      s!"template 0 declares {canvasListText first}"
  | .frameCount frames expected => s!"frame set has {frames} frames, templates expect {expected}"
  | .inputFormat input format expected =>
    s!"input {input} is {format.text}, expected {expected.text}"
  | .inputSize input size expected =>
    s!"input {input} is {size.text} after crop, template expects {expected.text}"
  | .gainRows rows templates =>
    s!"gain table covers {rows} templates, compositor has {templates}"
  | .gainRow row gains inputs => s!"gain row {row} has {gains} gains for {inputs} inputs"
  | .gainFrames frames inputs => s!"gain update got {frames} frames for {inputs} inputs"
  | .placement template size covered canvas =>
    s!"template {template} is {size.text} but its region covers {covered.text} of the " ++
      s!"{canvas.text} canvas"
  | .submission frames expected => s!"frame set has {frames} frames, pipeline expects {expected}"
  | .templateFile path inputs declared =>
    s!"template '{path}' maps {inputs} inputs, config declares {declared}"

end Panorama
