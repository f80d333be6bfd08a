/-!
# Blank characters

The characters with the Unicode property White_Space, and the words between them.
-/

namespace Panorama.Text

/-- The property White_Space, by code point. -/
def isBlank (character : Char) : Bool :=
  let code := character.toNat
  (9 ≤ code && code ≤ 13) || code == 0x20 || code == 0x85 || code == 0xA0 || code == 0x1680 ||
    (0x2000 ≤ code && code ≤ 0x200A) || code == 0x2028 || code == 0x2029 || code == 0x202F ||
    code == 0x205F || code == 0x3000

/-- The words of a text from its end, where `word` holds the characters of the word that the
next character continues. -/
def wordsFrom (word : List Char) : List Char → List (List Char)
  | [] => if word.isEmpty then [] else [word.reverse]
  | character :: rest =>
    if isBlank character then
      if word.isEmpty then wordsFrom [] rest else word.reverse :: wordsFrom [] rest
    else wordsFrom (character :: word) rest

/-- The longest pieces of a text without a blank character, in order. -/
def words (text : String) : List (List Char) :=
  wordsFrom [] text.toList

end Panorama.Text
