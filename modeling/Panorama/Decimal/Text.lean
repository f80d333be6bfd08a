import Panorama.Decimal.Shortest

/-!
# Numbers as text

Floats are written with their shortest decimal digits, of which a tie takes the upper ones, and
never with an exponent; an integral value has no fractional part. Words are also written in
hexadecimal of fixed width.
-/

namespace Panorama.Decimal

open Float.Model (UnpackedFloat)

/-- The digits of a point written out in full, with a decimal mark where it has a fraction. -/
def Point.text (point : Point) : String :=
  let digits := (toString point.digits).toList
  if 0 ≤ point.place then
    String.ofList (digits ++ List.replicate point.place.toNat '0')
  else
    let fraction := (-point.place).toNat
    if fraction < digits.length then
      let whole := digits.length - fraction
      String.ofList (digits.take whole ++ '.' :: digits.drop whole)
    else
      String.ofList ('0' :: '.' :: List.replicate (fraction - digits.length) '0' ++ digits)

/-- Text of a sign in front of a number. -/
def signText : UnpackedFloat.Sign → String
  | .negative => "-"
  | .positive => ""

/-- Text of a float of the format whose smallest full mantissa is `power`. -/
def floatText (power : Nat) : UnpackedFloat → String
  | .notANumber => "NaN"
  | .infinity sign => signText sign ++ "inf"
  | .zero sign => signText sign ++ "0"
  | .finite sign mantissa exponent _ => signText sign ++ (shortest .up power mantissa exponent).text

/-- The smallest full mantissa of a single. -/
def singleMantissa : Nat := 8388608

/-- The smallest full mantissa of a double. -/
def doubleMantissa : Nat := 4503599627370496

/-- Text of a single. -/
def singleText (value : Float32) : String :=
  floatText singleMantissa value.toModel.unpack

/-- Text of a double. -/
def doubleText (value : Float) : String :=
  floatText doubleMantissa value.toModel.unpack

/-- The lowest `width` hexadecimal digits of a number. -/
def hexText (width value : Nat) : String :=
  String.ofList <| (List.range width).reverse.map fun position ↦
    Nat.digitChar (value / Nat.pow 16 position % 16)

end Panorama.Decimal
