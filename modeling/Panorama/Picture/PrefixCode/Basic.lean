import Panorama.Picture.Bits

/-!
# Prefix codes

Symbols are written as bit fields of different lengths, and no field begins with another one. Which
fields they are follows from their lengths: shorter fields are lower, and fields of one length are
consecutive numbers.
-/

namespace Panorama.PrefixCode

variable {α : Type}

/-- The fields of `count` further symbols of one length, and the symbols behind them. -/
def assign (length code : Nat) : Nat → List α → List (α × BitField) × List α
  | count + 1, symbol :: rest =>
    let (fields, rest) := assign length (code + 1) count rest
    ((symbol, ⟨code, length⟩) :: fields, rest)
  | _, symbols => ([], symbols)

/-- The fields of symbols from a length on, given the number of symbols of each length. The first
number that is free is `code`. -/
def assignFrom (length code : Nat) : List Nat → List α → List (α × BitField)
  | [], _ => []
  | count :: counts, symbols =>
    let (fields, symbols) := assign length code count symbols
    fields ++ assignFrom (length + 1) (2 * (code + count)) counts symbols

/-- A table of fields by symbol. A symbol without a field has no bits. -/
def table (size : Nat) (fields : List (Nat × BitField)) : Array BitField :=
  fields.foldl (fun table (symbol, field) ↦ table.setIfInBounds symbol field)
    (Array.replicate size ⟨0, 0⟩)

end Panorama.PrefixCode
