import Panorama.Decimal.Reading
import Panorama.Json.Numeral

/-!
# JSON tokens

The lexemes of JSON in a byte string. Bytes are handled as the characters with their numbers, of
which the grammar knows only those below 128; only the contents of texts are UTF-8. A text that
cannot be decoded is a token without a value, since a place that ignores it accepts it.
-/

namespace Panorama.Json

/-- A lexeme. -/
inductive Token where
  | openArray | closeArray | openObject | closeObject | comma | colon | null
  | bool (value : Bool)
  | number (value : Numeral)
  | text (value : Option String)

/-- A part of a written text. -/
inductive TextUnit where
  /-- A byte as it is. -/
  | byte (value : UInt8)
  /-- A UTF-16 unit in hexadecimal. -/
  | utf16 (value : Nat)
  deriving DecidableEq

namespace TextUnit

/-- Whether a UTF-16 unit is the first half of a pair. -/
def isLeading (unit : Nat) : Bool := 0xD800 ≤ unit && unit < 0xDC00

/-- Whether a UTF-16 unit is the second half of a pair. -/
def isTrailing (unit : Nat) : Bool := 0xDC00 ≤ unit && unit < 0xE000

/-- The bytes of a text. UTF-16 halves must come in pairs. -/
def toBytes? : List TextUnit → Option (List UInt8)
  | [] => some []
  | .byte value :: rest => (toBytes? rest).map (value :: ·)
  | .utf16 high :: .utf16 low :: rest =>
    if isLeading high then
      if isTrailing low then
        let code := (high - 0xD800) * 0x400 + (low - 0xDC00) + 0x10000
        (toBytes? rest).map (String.utf8EncodeChar (.ofNat code) ++ ·)
      else none
    else if isTrailing high then none
    else (toBytes? (.utf16 low :: rest)).map (String.utf8EncodeChar (.ofNat high) ++ ·)
  | .utf16 unit :: rest =>
    if isLeading unit || isTrailing unit then none
    else (toBytes? rest).map (String.utf8EncodeChar (.ofNat unit) ++ ·)

/-- The text of its parts, if they are UTF-8. -/
def decode? (units : List TextUnit) : Option String := do
  String.fromUTF8? ⟨(← toBytes? units).toArray⟩

end TextUnit

namespace Token

/-- Value of a hexadecimal digit. -/
def hexDigit? (character : Char) : Option Nat :=
  if '0' ≤ character ∧ character ≤ '9' then some (character.toNat - '0'.toNat)
  else if 'a' ≤ character ∧ character ≤ 'f' then some (character.toNat - 'a'.toNat + 10)
  else if 'A' ≤ character ∧ character ≤ 'F' then some (character.toNat - 'A'.toNat + 10)
  else none

/-- The unit of four hexadecimal digits. -/
def hexUnit? (first second third fourth : Char) : Option TextUnit := do
  let first ← hexDigit? first
  let second ← hexDigit? second
  let third ← hexDigit? third
  let fourth ← hexDigit? fourth
  return .utf16 (((first * 16 + second) * 16 + third) * 16 + fourth)

/-- The unit of an escape of one character. -/
def escape? : Char → Option TextUnit
  | '"' => some (.byte 0x22)
  | '\\' => some (.byte 0x5C)
  | '/' => some (.byte 0x2F)
  | 'b' => some (.byte 0x08)
  | 'f' => some (.byte 0x0C)
  | 'n' => some (.byte 0x0A)
  | 'r' => some (.byte 0x0D)
  | 't' => some (.byte 0x09)
  | _ => none

/-- Read a text up to its closing quote. Control characters must be escaped. -/
def readText? (units : List TextUnit) : List Char → Option (Token × List Char)
  | [] => none
  | '"' :: rest => some (.text (TextUnit.decode? units.reverse), rest)
  | '\\' :: 'u' :: first :: second :: third :: fourth :: rest =>
    match hexUnit? first second third fourth with
    | some unit => readText? (unit :: units) rest
    | none => none
  | '\\' :: mark :: rest =>
    match escape? mark with
    | some unit => readText? (unit :: units) rest
    | none => none
  | character :: rest =>
    if character.toNat < 0x20 then none
    else readText? (.byte (.ofNat character.toNat) :: units) rest

/-- The digits in front of a text, and what follows. -/
def spanDigits : List Char → List Nat × List Char
  | [] => ([], [])
  | character :: rest =>
    match Decimal.digit? character with
    | none => ([], character :: rest)
    | some digit =>
      let (digits, rest) := spanDigits rest
      (digit :: digits, rest)

/-- Read the fraction of a number. A decimal mark must have a digit behind it. -/
def readFraction? : List Char → Option (List Nat × List Char)
  | '.' :: rest =>
    match spanDigits rest with
    | ([], _) => none
    | fraction => some fraction
  | rest => some ([], rest)

/-- Read the exponent of a number. It must have a digit. -/
def readExponent? (text : List Char) : Option (Option (Bool × Nat) × List Char) :=
  match text with
  | mark :: rest =>
    if mark = 'e' ∨ mark = 'E' then
      let (negative, rest) : Bool × List Char := match rest with
        | '-' :: rest => (true, rest)
        | '+' :: rest => (false, rest)
        | rest => (false, rest)
      match Decimal.leadingDigits 0 0 rest with
      | (_, 0, _) => none
      | (magnitude, _, rest) => some (some (negative, magnitude), rest)
    else some (none, text)
  | [] => some (none, text)

/-- Read a number without its sign. Only the number zero starts with that digit. -/
def readNumber? (negative : Bool) (text : List Char) : Option (Token × List Char) := do
  let (whole, rest) := spanDigits text
  if whole.isEmpty || (whole.head? == some 0 && whole.length != 1) then none
  else
    let (fraction, rest) ← readFraction? rest
    let (exponent, rest) ← readExponent? rest
    return (.number (NumberText.numeral ⟨negative, whole, fraction, exponent⟩), rest)

/-- Read the token in front of a text that does not start with a blank. -/
def next? : List Char → Option (Token × List Char)
  | '[' :: rest => some (.openArray, rest)
  | ']' :: rest => some (.closeArray, rest)
  | '\x7b' :: rest => some (.openObject, rest)
  | '\x7d' :: rest => some (.closeObject, rest)
  | ',' :: rest => some (.comma, rest)
  | ':' :: rest => some (.colon, rest)
  | 'n' :: 'u' :: 'l' :: 'l' :: rest => some (.null, rest)
  | 't' :: 'r' :: 'u' :: 'e' :: rest => some (.bool true, rest)
  | 'f' :: 'a' :: 'l' :: 's' :: 'e' :: rest => some (.bool false, rest)
  | '"' :: rest => readText? [] rest
  | '-' :: rest => readNumber? true rest
  | written => readNumber? false written

/-- Whether a character may stand between tokens. -/
def isBlank (character : Char) : Bool :=
  character = ' ' || character = '\t' || character = '\n' || character = '\r'

/-- All tokens of a text with at most `steps` characters. -/
def scan (tokens : List Token) : Nat → List Char → Option (List Token)
  | _, [] => some tokens.reverse
  | 0, _ => none
  | steps + 1, character :: rest =>
    if isBlank character then scan tokens steps rest
    else
      match next? (character :: rest) with
      | some (token, rest) => scan (token :: tokens) steps rest
      | none => none

/-- All tokens of a byte string. -/
def ofBytes? (bytes : List UInt8) : Option (List Token) :=
  scan [] bytes.length (bytes.map fun byte ↦ .ofNat byte.toNat)

end Token

end Panorama.Json
