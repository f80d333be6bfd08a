/-!
# Reading numbers

The two number readers of text files. `readCount?` reads a count of at most 64 bits and says which
rule a text breaks first; `readSingle?` reads a float written with decimal digits, or one of the
words for infinity and NaN. Signs are allowed in front of both.
-/

namespace Panorama.Decimal

/-- Why a text is no count. -/
inductive CountFlaw where
  /-- Nothing is written. -/
  | empty
  /-- A character is no digit. -/
  | notADigit
  /-- The number has more than 64 bits. -/
  | tooLarge
  deriving DecidableEq, Repr

/-- The wording of a flaw. -/
def CountFlaw.message : CountFlaw → String
  | .empty => "cannot parse integer from empty string"
  | .notADigit => "invalid digit found in string"
  | .tooLarge => "number too large to fit in target type"

/-- Value of a decimal digit. -/
def digit? (character : Char) : Option Nat :=
  if '0' ≤ character ∧ character ≤ '9' then some (character.toNat - '0'.toNat) else none

/-- Continue a count with more digits, stopping at the first character that breaks a rule. -/
def countFrom (total : Nat) : List Char → Except CountFlaw Nat
  | [] => .ok total
  | character :: rest =>
    match digit? character with
    | none => .error .notADigit
    | some digit =>
      if total * 10 + digit < UInt64.size then countFrom (total * 10 + digit) rest
      else .error .tooLarge

/-- Read a count, which may have a plus sign in front. -/
def readCount? (text : List Char) : Except CountFlaw Nat :=
  match text with
  | [] => .error .empty
  | ['+'] => .error .notADigit
  | '+' :: digits => countFrom 0 digits
  | digits => countFrom 0 digits

/-- The digits in front of a text, as one number, with how many they are and what follows. -/
def leadingDigits (total count : Nat) : List Char → Nat × Nat × List Char
  | [] => (total, count, [])
  | character :: rest =>
    match digit? character with
    | none => (total, count, character :: rest)
    | some digit => leadingDigits (total * 10 + digit) (count + 1) rest

/-- Read an exponent with its sign, up to the end of the text. -/
def readExponent? (text : List Char) : Option Int :=
  let (negative, digits) : Bool × List Char := match text with
    | '-' :: rest => (true, rest)
    | '+' :: rest => (false, rest)
    | rest => (false, rest)
  match leadingDigits 0 0 digits with
  | (_, 0, _) => none
  | (value, _, []) => some (if negative then -value else value)
  | _ => none

/-- A decimal number as its digits and the power of ten of the last one. -/
def readDecimal? (text : List Char) : Option (Nat × Int) :=
  let (whole, wholeCount, rest) := leadingDigits 0 0 text
  let (digits, fractionCount, rest) := match rest with
    | '.' :: fraction => leadingDigits whole 0 fraction
    | rest => (whole, 0, rest)
  if wholeCount + fractionCount = 0 then none
  else match rest with
    | [] => some (digits, -fractionCount)
    | mark :: exponent =>
      if mark = 'e' ∨ mark = 'E' then
        (readExponent? exponent).map fun power ↦ (digits, power - fractionCount)
      else none

/-- The single nearest to `digits * 10 ^ place`. -/
def nearestSingle (digits : Nat) (place : Int) : Float32 :=
  Float32.ofScientific digits (place < 0) place.natAbs

/-- Read a float without its sign. -/
def readMagnitude? (text : List Char) : Option Float32 :=
  let word := String.ofList (text.map Char.toLower)
  if word = "inf" ∨ word = "infinity" then some (1 / 0)
  else if word = "nan" then some (0 / 0)
  else (readDecimal? text).map fun (digits, place) ↦ nearestSingle digits place

/-- Read a float, rounded to the nearest single. -/
def readSingle? : List Char → Option Float32
  | '-' :: rest => (readMagnitude? rest).map fun value ↦ -value
  | '+' :: rest => readMagnitude? rest
  | text => readMagnitude? text

end Panorama.Decimal
