/-!
# Rounding to a pixel value

Blended and converted samples are floats; a pixel is a byte.
-/

namespace Panorama.Number

/-- The byte of a sample: half a unit is added and the fraction dropped, after clamping to the
range of a byte. NaN gives 0. -/
def roundToByte (value : Float32) : UInt8 :=
  if value.isNaN || value ≤ 0 then 0
  else if 255 ≤ value then 255
  else (value + 0.5).toUInt8

end Panorama.Number
