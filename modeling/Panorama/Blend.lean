import Panorama.Template.Basic

/-!
# Blending

The value of an output pixel from the values of its contributions. A single contribution is taken
as it is, whatever its weight; an unmapped pixel has no value.
-/

namespace Panorama

/-- What an output pixel is made of. -/
inductive Blend where
  /-- Nothing. -/
  | unmapped
  /-- One contribution as it is. -/
  | single (sample : Sample)
  /-- The weighted sum of several. -/
  | mixture (samples : List Sample)
  deriving DecidableEq

namespace Blend

/-- The contribution with the largest weight, the first one on a tie. -/
def dominant (first : Sample) (others : List Sample) : Sample :=
  others.foldl (fun best sample ↦ if best.weight < sample.weight then sample else best) first

/-- What the contributions of a pixel make in a blend mode. -/
def of (mode : BlendMode) : List Sample → Blend
  | [] => .unmapped
  | [only] => .single only
  | first :: others =>
    match mode with
    | .hardSeam => .single (dominant first others)
    | .weighted => .mixture (first :: others)

/-- The value of a blend, from left to right, when every contribution has one. An unmapped pixel
has the value `blank`. -/
def evaluate? (blend : Blend) (blank : UInt8) (value? : Sample → Option Float32)
    (round : Float32 → UInt8) : Option UInt8 :=
  match blend with
  | .unmapped => some blank
  | .single sample => (value? sample).map round
  | .mixture samples => do
    let terms ← samples.mapM fun sample ↦ do return sample.weight * (← value? sample)
    return round (terms.foldl (· + ·) 0)

end Blend

end Panorama
