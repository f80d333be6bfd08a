import Panorama.Picture.PrefixCode.Basic
import Panorama.Picture.PrefixCode.Tree

/-!
# Lengths of prefix codes

The fields of a prefix code are as long as their symbols are deep in the tree of the code, up to a
limit. If a symbol is deeper, then the numbers of fields of each length are chosen anew, and rare
symbols get the long ones.
-/

namespace Panorama.PrefixCode

/-- How many fields there are of each length from zero to a limit. A longer one is counted as one
of that length. -/
def countLengths (limit : Nat) (lengths : List Nat) : Array Nat :=
  lengths.foldl (fun counts length ↦ counts.modify (min length limit) (· + 1))
    (Array.replicate (limit + 1) 0)

/-- How many fields of the longest length would take as much room. -/
def room (limit : Nat) (counts : Array Nat) : Nat :=
  (List.range (limit + 1)).foldl (fun total length ↦
    if length = 0 then total else total + counts.getD length 0 <<< (limit - length)) 0

/-- Make room for one field of the longest length: of two fields, one had that length and the other
was shorter, and now they are both one longer than the shorter one was. -/
def makeRoom (limit : Nat) (counts : Array Nat) : Array Nat :=
  match (List.range limit).reverse.find? fun length ↦ 0 < counts.getD length 0 with
  | none => counts
  | some length =>
    ((counts.modify length (· - 1)).modify limit (· - 1)).modify (length + 1) (· + 2)

/-- Symbols and lengths that do not go beyond a limit. -/
def limitLengths (limit : Nat) (frequencies : Array Nat) (depths : List (Nat × Nat)) :
    List (Nat × Nat) :=
  if depths.all fun (_, depth) ↦ depth ≤ limit then depths
  else
    let counts := countLengths limit (depths.map (·.2))
    let counts := Nat.repeat (makeRoom limit) (room limit counts - 1 <<< limit) counts
    let lengths := (List.range (limit + 1)).reverse.flatMap fun length ↦
      List.replicate (counts.getD length 0) length
    let symbols := (List.range frequencies.size).filter fun symbol ↦
      0 < frequencies.getD symbol 0
    (symbols.mergeSort fun first second ↦
      frequencies.getD first 0 ≤ frequencies.getD second 0).zip lengths

/-- The length of the field of every symbol, which is zero for symbols that do not occur. If only
one symbol occurs, it needs no bits. -/
def lengths (limit : Nat) (frequencies : Array Nat) : Array Nat :=
  (limitLengths limit frequencies (depths frequencies)).foldl
    (fun lengths (symbol, length) ↦ lengths.setIfInBounds symbol length)
    (Array.replicate frequencies.size 0)

/-- The fields of symbols whose lengths are given. -/
def ofLengths (limit : Nat) (lengths : Array Nat) : Array BitField :=
  let symbols := (List.range' 1 limit).map fun length ↦
    (List.range lengths.size).filter fun symbol ↦ lengths.getD symbol 0 = length
  table lengths.size (assignFrom 1 0 (symbols.map List.length) symbols.flatten)

end Panorama.PrefixCode
