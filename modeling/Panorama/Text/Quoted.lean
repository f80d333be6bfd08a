import Panorama.Text.Hidden

/-!
# Quoted text

A text between double quotes. Double quotes and backslashes in it stand behind a backslash, and
hidden characters are written by a letter or by their code points.
-/

namespace Panorama.Text

/-- What a character is written as in a quoted text. -/
def escape (character : Char) : String :=
  match character with
  | '\x00' => "\\0"
  | '\t' => "\\t"
  | '\r' => "\\r"
  | '\n' => "\\n"
  | '\\' => "\\\\"
  | '\x22' => "\\\x22"
  | _ =>
    if isHidden character then
      "\\u\x7b" ++ String.ofList (Nat.toDigits 16 character.toNat) ++ "\x7d"
    else character.toString

/-- A text in quotes. -/
def quote (text : String) : String :=
  "\x22" ++ String.join (text.toList.map escape) ++ "\x22"

end Panorama.Text
