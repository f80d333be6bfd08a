/-!
# Lenient text

Bytes as text. Whatever is not UTF-8 is shown as the replacement character: one for every byte that
no character begins with, and one for the beginning of a character that does not go on.
-/

namespace Panorama.Text

/-- How a character goes on behind its first byte. Bytes behind the second one are from 128 to
191. -/
structure Continuation where
  /-- The least second byte. -/
  least : UInt8
  /-- The greatest second byte. -/
  greatest : UInt8
  /-- Bytes behind the first one. -/
  length : Nat

/-- How a character goes on that begins with a byte, if one does. -/
def continuation? (first : UInt8) : Option Continuation :=
  if first < 0x80 then some ⟨0x80, 0xBF, 0⟩
  else if first < 0xC2 then none
  else if first < 0xE0 then some ⟨0x80, 0xBF, 1⟩
  else if first < 0xF0 then
    some ⟨if first = 0xE0 then 0xA0 else 0x80, if first = 0xED then 0x9F else 0xBF, 2⟩
  else if first < 0xF5 then
    some ⟨if first = 0xF0 then 0x90 else 0x80, if first = 0xF4 then 0x8F else 0xBF, 3⟩
  else none

/-- The bytes at the beginning of others that go on as a character does. -/
def Continuation.matching (continuation : Continuation) (bytes : List UInt8) : List UInt8 :=
  match bytes.take continuation.length with
  | [] => []
  | second :: rest =>
    if continuation.least ≤ second ∧ second ≤ continuation.greatest then
      second :: rest.takeWhile fun byte ↦ 0x80 ≤ byte ∧ byte ≤ 0xBF
    else []

/-- The character that stands for what is not text. -/
def replacement : Char := '\uFFFD'

/-- The character that begins with a byte, and the number of bytes behind it that it takes. -/
def firstCharacter (first : UInt8) (rest : List UInt8) : Char × Nat :=
  match continuation? first with
  | none => (replacement, 0)
  | some continuation =>
    let bytes := continuation.matching rest
    let lead := first.toNat % (if bytes = [] then 128 else 64 >>> bytes.length)
    if bytes.length = continuation.length then
      (.ofNat (bytes.foldl (fun code byte ↦ 64 * code + byte.toNat % 64) lead), bytes.length)
    else (replacement, bytes.length)

/-- The characters of bytes. -/
def characters : List UInt8 → List Char
  | [] => []
  | first :: rest =>
    let (character, count) := firstCharacter first rest
    character :: characters (rest.drop count)
termination_by bytes => bytes.length
decreasing_by simp only [List.length_drop, List.length_cons]; omega

/-- Bytes as text. -/
def ofBytes (bytes : List UInt8) : String :=
  String.ofList (characters bytes)

end Panorama.Text
