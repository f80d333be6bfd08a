import Panorama.Decimal.Text

/-!
# Writing JSON

The text of JSON values without blanks. Floats have their shortest digits, of which a tie takes the
even ones; very large and very small ones are written with an exponent, and an infinity or NaN is
written as null.
-/

namespace Panorama.Json.Writing

open Float.Model (UnpackedFloat)

/-- A character of a text, escaped where it has to be. -/
def character : Char → String
  | '"' => "\\\""
  | '\\' => "\\\\"
  | '\x08' => "\\b"
  | '\x0C' => "\\f"
  | '\n' => "\\n"
  | '\r' => "\\r"
  | '\t' => "\\t"
  | other => if other.toNat < 0x20 then "\\u" ++ Decimal.hexText 4 other.toNat else other.toString

/-- A text in quotes. -/
def text (content : String) : String :=
  "\"" ++ String.join (content.toList.map character) ++ "\""

/-- A natural number. -/
def natural (value : Nat) : String := toString value

/-- Something, or null. -/
def optional {α : Type} (write : α → String) : Option α → String
  | some value => write value
  | none => "null"

/-- An array of written values. -/
def array (items : List String) : String :=
  "[" ++ ",".intercalate items ++ "]"

/-- An object of written values. -/
def object (members : List (String × String)) : String :=
  let member : String × String → String := fun (key, value) ↦ text key ++ ":" ++ value
  "\x7b" ++ ",".intercalate (members.map member) ++ "\x7d"

/-- Where the decimal mark may stand without an exponent: the most digits in front of it, and the
most zeros between it and the first other digit. -/
structure Positional where
  maxWhole : Int
  maxZeros : Int

/-- A decimal as a JSON number. -/
def decimal (positional : Positional) (point : Decimal.Point) : String :=
  let digits := (toString point.digits).toList
  let whole : Int := digits.length + point.place
  if 0 ≤ point.place ∧ whole ≤ positional.maxWhole then point.text ++ ".0"
  else if -positional.maxZeros ≤ whole ∧ whole ≤ positional.maxWhole then point.text
  else
    let fraction := if digits.length = 1 then [] else '.' :: digits.drop 1
    String.ofList (digits.take 1 ++ fraction) ++ "e" ++ toString (whole - 1)

/-- A float of the format whose smallest full mantissa is `power`. -/
def float (positional : Positional) (power : Nat) : UnpackedFloat → String
  | .finite sign mantissa exponent _ =>
    Decimal.signText sign ++ decimal positional (Decimal.shortest .even power mantissa exponent)
  | .zero sign => Decimal.signText sign ++ "0.0"
  | _ => "null"

/-- A single. -/
def single (value : Float32) : String :=
  float ⟨13, 5⟩ Decimal.singleMantissa value.toModel.unpack

/-- A double. -/
def double (value : Float) : String :=
  float ⟨16, 4⟩ Decimal.doubleMantissa value.toModel.unpack

end Panorama.Json.Writing
