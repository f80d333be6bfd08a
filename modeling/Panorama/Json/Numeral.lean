/-!
# JSON numbers

A number is written as digits with an optional fraction and exponent. One that is an integer is
kept as such while it fits in 64 bits. Any other one becomes a double in a fixed way: the digits
form a 64-bit significand, further digits are dropped, and one multiplication or division by a
power of ten follows. The result is not always the double nearest to what is written.
-/

namespace Panorama.Json

/-- What a number can be read as. -/
inductive Numeral where
  /-- An integer from 0 to `2 ^ 64 - 1`. -/
  | natural (value : Nat)
  /-- The negative integer with a magnitude of at most `2 ^ 63`. -/
  | negative (magnitude : Nat)
  /-- A double. -/
  | real (value : Float)
  /-- A number that is too large for a double. -/
  | outOfRange

/-- The parts of a written number. -/
structure NumberText where
  /-- Whether there is a minus sign. -/
  negative : Bool
  /-- The digits in front of the decimal mark. -/
  whole : List Nat
  /-- The digits behind the decimal mark. -/
  fraction : List Nat
  /-- The exponent: whether it has a minus sign, and its magnitude. -/
  exponent : Option (Bool × Nat)

namespace NumberText

/-- Append digits to a significand as long as it has 64 bits. With it comes how many fitted. -/
def absorb (significand count : Nat) : List Nat → Nat × Nat
  | [] => (significand, count)
  | digit :: rest =>
    let longer := significand * 10 + digit
    if longer < UInt64.size then absorb longer (count + 1) rest else (significand, count)

/-- A power of ten that is a double. -/
def powerOfTen (power : Nat) : Float := Float.ofScientific 1 false power

/-- A double times a power of ten, in steps of at most 308 places; none if it becomes infinite. -/
def scale (value : Float) (place : Int) : Option Float :=
  if 308 < place then if value == 0 then some value else none
  else if place < -308 then
    if value == 0 then some value else scale (value / powerOfTen 308) (place + 308)
  else if 0 ≤ place then
    let scaled := value * powerOfTen place.toNat
    if scaled.isInf then none else some scaled
  else some (value / powerOfTen (-place).toNat)
termination_by (-place).toNat

/-- A significand times a power of ten with the sign of the number. -/
def signed (text : NumberText) (significand : Nat) (place : Int) : Numeral :=
  match scale (Float.ofNat significand) place with
  | none => .outOfRange
  | some value => .real (if text.negative then -value else value)

/-- An integer with the sign of the number. Zero with a minus sign is a double. -/
def integer (text : NumberText) (magnitude : Nat) : Numeral :=
  if !text.negative then .natural magnitude
  else if magnitude = 0 ∨ UInt64.size / 2 < magnitude then .real (-Float.ofNat magnitude)
  else .negative magnitude

/-- What a written number is read as. The exponent is a 32-bit word. -/
def numeral (text : NumberText) : Numeral :=
  let (significand, used) := absorb 0 0 text.whole
  let dropped : Int := text.whole.length - used
  let (significand, places) := absorb significand 0 text.fraction
  match text.fraction, text.exponent with
  | [], none => if dropped = 0 then text.integer significand else text.signed significand dropped
  | _, none => text.signed significand (dropped - places)
  | _, some (negative, magnitude) =>
    if magnitude < UInt32.size / 2 then
      let power : Int := if negative then -magnitude else magnitude
      text.signed significand (dropped - places + power)
    else if significand = 0 ∨ negative then text.signed 0 0
    else .outOfRange

end NumberText

end Panorama.Json
