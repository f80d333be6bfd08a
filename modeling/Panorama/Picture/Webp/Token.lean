import Panorama.Picture.Basic
import Panorama.Picture.Bits

/-!
# Tokens of WebP files

The pixels of a picture as differences to their neighbours, and repeated differences as runs.
-/

namespace Panorama.Webp

/-- The difference of two colors, each channel modulo 256. -/
def subtract (color other : Color) : Color :=
  ⟨color.red - other.red, color.green - other.green, color.blue - other.blue⟩

/-- Red and blue as what they have beyond green. -/
def beyondGreen (color : Color) : Color :=
  ⟨color.red - color.green, color.green, color.blue - color.green⟩

/-- Every row but the first as differences to the row above it. -/
def belowDifferences : List (List Color) → List (List Color)
  | above :: row :: rest => List.zipWith subtract row above :: belowDifferences (row :: rest)
  | _ => []

/-- All pixels as differences: in the first row to the pixel on the left, and below it to the pixel
above. -/
def differences (rows : List (List Color)) : List Color :=
  match rows with
  | [] => []
  | first :: _ =>
    List.zipWith subtract first (⟨0, 0, 0⟩ :: first) ++ (belowDifferences rows).flatten

/-- A part of the pixels. -/
inductive Token where
  /-- A pixel. -/
  | pixel (color : Color)
  /-- The pixel in front, a number of times. -/
  | run (count : Nat)
  deriving DecidableEq, Repr

/-- Pixels that one run can stand for. -/
def longestRun : Nat := 4096

/-- The tokens of a color that stands a number of times. -/
def repeated (color : Color) (count : Nat) : List Token :=
  if _none : count = 0 then []
  else
    let again := min (count - 1) longestRun
    .pixel color :: (if again = 0 then [] else [.run again]) ++ repeated color (count - 1 - again)
termination_by count

/-- The tokens of pixels. -/
def tokens (pixels : List Color) : List Token :=
  (pixels.splitBy (· == ·)).flatMap fun same ↦
    match same with
    | [] => []
    | color :: _ => repeated color same.length

/-- Count up to four as a symbol of its own, and other counts by their two highest bits, with the
bits below them as they are. -/
def countSymbol (count : Nat) : Nat × BitField :=
  if count ≤ 4 then (count - 1, ⟨0, 0⟩)
  else
    let below := (count - 1).log2 - 1
    (2 * below + (count - 1) >>> below, ⟨(count - 1) % (1 <<< below), below⟩)

end Panorama.Webp
