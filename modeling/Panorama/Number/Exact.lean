/-!
# Machine floats seen exactly

A finite `Float32` or `Float` is an integer times a power of two. The functions here work on that
exact value: the largest integer below it, the integer nearest to it, and the same value rounded
into the other width. They use no floating-point operation, so what they return is decided by
integer arithmetic alone.
-/

namespace Panorama.Number

open Float.Model (UnpackedFloat Format)

/-- The largest integer that is not above the value. Infinities and NaN, which have none, give 0. -/
def floor : UnpackedFloat → Int
  | .finite sign mantissa exponent _ =>
    if 0 ≤ exponent then sign.apply (mantissa * Nat.pow 2 exponent.toNat : Nat)
    else sign.apply mantissa / (Nat.pow 2 (-exponent).toNat : Nat)
  | _ => 0

/-- The smallest integer that is not below the value. -/
def ceil (value : UnpackedFloat) : Int :=
  -floor value.neg

/-- The nearest of the integers `0, …, limit`, a half going upwards. What is below zero gives 0,
and so does NaN. -/
def nearest (limit : Nat) : UnpackedFloat → Nat
  | .finite .positive mantissa exponent _ =>
    if 0 ≤ exponent then min limit (mantissa * Nat.pow 2 exponent.toNat)
    else
      let scale := Nat.pow 2 (-exponent).toNat
      min limit ((2 * mantissa + scale) / (2 * scale))
  | .infinity .positive => limit
  | _ => 0

/-- The value rounded to the nearest one of another format, ties to the even mantissa. -/
def reround (format : Format) : UnpackedFloat → UnpackedFloat
  | .finite sign mantissa exponent _ => UnpackedFloat.round format sign mantissa exponent
  | value => value

/-- The double with the same value as a single; every single has one. -/
def widen (value : Float32) : Float :=
  .ofModel (.pack (reround .binary64 value.toModel.unpack))

/-- The single nearest to a double; doubles too large for a single become infinite. -/
def narrow (value : Float) : Float32 :=
  .ofModel (.pack (reround .binary32 value.toModel.unpack))

end Panorama.Number
