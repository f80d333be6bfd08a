import Panorama.Frame.Format
import Panorama.Sampling

/-!
# Names in configurations

The words by which configurations choose pixel layouts, blend modes and filters.
-/

namespace Panorama

/-- The name of a pixel layout. -/
def PixelFormat.name : PixelFormat → String
  | .gray8 => "gray8"
  | .yuv420p => "yuv420p"
  | .yuvj420p => "yuvj420p"
  | .rgb24 => "rgb24"

/-- The pixel layout with a name. -/
def PixelFormat.ofName? : String → Option PixelFormat
  | "gray8" => some .gray8
  | "yuv420p" => some .yuv420p
  | "yuvj420p" => some .yuvj420p
  | "rgb24" => some .rgb24
  | _ => none

/-- The name of a blend mode. -/
def BlendMode.name : BlendMode → String
  | .weighted => "weighted"
  | .hardSeam => "hard_seam"

/-- The blend mode with a name. -/
def BlendMode.ofName? : String → Option BlendMode
  | "weighted" => some .weighted
  | "hard_seam" => some .hardSeam
  | _ => none

/-- The name of a filter. -/
def Interpolation.name : Interpolation → String
  | .nearest => "nearest"
  | .bilinear => "bilinear"
  | .biquadratic => "biquadratic"

/-- The filter with a name. -/
def Interpolation.ofName? : String → Option Interpolation
  | "nearest" => some .nearest
  | "bilinear" => some .bilinear
  | "biquadratic" => some .biquadratic
  | _ => none

end Panorama
