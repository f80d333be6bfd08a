import Panorama.Number.LittleEndian
import Panorama.Picture.PrefixCode.Lengths
import Panorama.Picture.Webp.Token

/-!
# WebP files

A picture as a WebP file without loss. Its pixels are tokens, and a token is written with three
prefix codes: one for green and for runs, one for red and one for blue. All pixels are opaque.
-/

namespace Panorama.Webp

/-- Symbols of the code for green and for runs. -/
def greenSymbols : Nat := 280

/-- A code in the file with one symbol only, which needs no bits. -/
def singleCode (symbol : Nat) : List BitField :=
  if symbol ≤ 1 then [⟨1, 2⟩, ⟨0, 1⟩, ⟨symbol, 1⟩] else [⟨1, 2⟩, ⟨1, 1⟩, ⟨symbol, 8⟩]

/-- The longest code. -/
def longestCode : Nat := 15

/-- The longest code of a length of a code. -/
def longestLengthCode : Nat := 7

/-- The order in which the lengths of the codes of lengths stand in the file. -/
def lengthOrder : List Nat :=
  [17, 18, 0, 1, 2, 3, 4, 5, 16, 6, 7, 8, 9, 10, 11, 12, 13, 14, 15]

/-- How many symbols there are, if it is not the number for green and for runs. -/
def symbolCount (count : Nat) : List BitField :=
  if count = greenSymbols then [⟨0, 1⟩] else [⟨1, 1⟩, ⟨3, 3⟩, ⟨count - 2, 8⟩]

/-- How often each symbol occurs. -/
def frequenciesOf (size : Nat) (symbols : List Nat) : Array Nat :=
  symbols.foldl (fun frequencies symbol ↦ frequencies.modify symbol (· + 1))
    (Array.replicate size 0)

/-- The symbols that occur, in order. -/
def occurring (frequencies : Array Nat) : List Nat :=
  (List.range frequencies.size).filter fun symbol ↦ 0 < frequencies.getD symbol 0

/-- A code in the file: the lengths of its fields, written with a code of their own. -/
def codeFields (frequencies lengths : Array Nat) : List BitField :=
  match occurring frequencies with
  | [] => singleCode 0
  | [symbol] => singleCode symbol
  | _ =>
    let kinds := frequenciesOf (longestCode + 1) lengths.toList
    let kindLengths :=
      match occurring kinds with
      | [kind] => (Array.replicate kinds.size 0).setIfInBounds kind 1
      | _ => PrefixCode.lengths longestLengthCode kinds
    let kindCodes := PrefixCode.ofLengths longestLengthCode
      (PrefixCode.lengths longestLengthCode kinds)
    [⟨0, 1⟩, ⟨15, 4⟩] ++ lengthOrder.map (fun kind ↦ ⟨kindLengths.getD kind 0, 3⟩) ++
      symbolCount lengths.size ++
      lengths.toList.map fun length ↦ (kindCodes.getD length ⟨0, 0⟩).reverse

/-- The number of a symbol for a run among those for green. -/
def runSymbol (symbol : Nat) : Nat := 256 + symbol

/-- The symbol for green, or the one for a run. -/
def greenSymbol : Token → Nat
  | .pixel color => color.green.toNat
  | .run count => runSymbol (countSymbol count).1

/-- A channel of the pixels among tokens. -/
def channel (select : Color → UInt8) (tokens : List Token) : List Nat :=
  tokens.filterMap fun token ↦
    match token with
    | .pixel color => some (select color).toNat
    | .run _ => none

/-- What tokens are written with. -/
structure Codes where
  /-- The fields for green and for runs. -/
  green : Array BitField
  /-- The fields for red. -/
  red : Array BitField
  /-- The fields for blue. -/
  blue : Array BitField

/-- The fields of a token. -/
def Codes.fields (codes : Codes) (token : Token) : List BitField :=
  let green := codes.green.getD (greenSymbol token) ⟨0, 0⟩
  match token with
  | .pixel color =>
    [green, codes.red.getD color.red.toNat ⟨0, 0⟩, codes.blue.getD color.blue.toNat ⟨0, 0⟩]
  | .run count => [green, (countSymbol count).2]

/-- The fields of symbols, ready to be written from the lowest bit up. -/
def fieldsOf (lengths : Array Nat) : Array BitField :=
  (PrefixCode.ofLengths longestCode lengths).map BitField.reverse

/-- In front of the codes: the size, and that green was taken off red and blue and the pixel above
off every pixel. -/
def header (width height : Nat) : List BitField :=
  [⟨0x2F, 8⟩, ⟨width - 1, 14⟩, ⟨height - 1, 14⟩, ⟨0, 1⟩, ⟨0, 3⟩, ⟨5, 3⟩, ⟨57, 6⟩, ⟨0, 1⟩] ++
    singleCode 2 ++ (List.replicate 4 (singleCode 0)).flatten ++ [⟨0, 1⟩, ⟨0, 1⟩, ⟨0, 1⟩]

/-- All bits of a picture. -/
def frame (picture : Picture) : List UInt8 :=
  let tokens := tokens (differences (picture.rows.map (·.map beyondGreen)))
  let green := frequenciesOf greenSymbols (tokens.map greenSymbol)
  let red := frequenciesOf 256 (channel Color.red tokens)
  let blue := frequenciesOf 256 (channel Color.blue tokens)
  let lengths := PrefixCode.lengths longestCode
  let (greenLengths, redLengths, blueLengths) := (lengths green, lengths red, lengths blue)
  let codes : Codes := ⟨fieldsOf greenLengths, fieldsOf redLengths, fieldsOf blueLengths⟩
  let fields := header picture.width picture.height ++ codeFields green greenLengths ++
    codeFields red redLengths ++ codeFields blue blueLengths ++ singleCode 0 ++ singleCode 1
  (tokens.foldl (fun packing token ↦ (codes.fields token).foldl BitPacking.addLow packing)
    (fields.foldl BitPacking.addLow BitPacking.empty)).finishLow.toList

/-- The WebP file of a picture. Its content has an even number of bytes. -/
def encode (picture : Picture) : List UInt8 :=
  let frame := frame picture
  let padding := frame.length % 2
  "RIFF".toUTF8.toList ++ Number.LittleEndian.encode 4 (frame.length + padding + 12) ++
    "WEBPVP8L".toUTF8.toList ++ Number.LittleEndian.encode 4 frame.length ++ frame ++
    List.replicate padding 0

end Panorama.Webp
