/-!
# Frequencies of a block

A block is eight rows of eight samples. `Block.frequencies` is its two-dimensional cosine transform,
eight times as large, in whole numbers: first along the rows, where two more bits are kept, and
then along the columns. Factors are in units of `2 ^ -13`.
-/

namespace Panorama.Jpeg

/-- Eight rows of eight numbers. -/
abbrev Block := List (List Int)

/-- The cosine transform of eight numbers. The first and the fifth result are rounded by `even`, and
the others, which are `2 ^ 13` times as large, by `scaled`. -/
def transform (even scaled : Int → Int) : List Int → List Int
  | [s0, s1, s2, s3, s4, s5, s6, s7] =>
    let outerSum := (s0 + s7) + (s3 + s4)
    let innerSum := (s1 + s6) + (s2 + s5)
    let outerGap := (s0 + s7) - (s3 + s4)
    let innerGap := (s1 + s6) - (s2 + s5)
    let gaps := (outerGap + innerGap) * 4433
    let (d0, d1, d2, d3) := (s0 - s7, s1 - s6, s2 - s5, s3 - s4)
    let odd := (d0 + d1 + d2 + d3) * 9633
    let first := odd - (d0 + d2) * 3196
    let second := odd - (d1 + d3) * 16069
    let outer := (d0 + d3) * 7373
    let inner := (d1 + d2) * 20995
    [even (outerSum + innerSum), scaled (d0 * 12299 - outer + first),
      scaled (gaps + outerGap * 6270), scaled (d1 * 25172 - inner + second),
      even (outerSum - innerSum), scaled (d2 * 16819 - inner + first),
      scaled (gaps - innerGap * 15137), scaled (d3 * 2446 - outer + second)]
  | numbers => numbers

/-- A number of units of `2 ^ -bits`, rounded to the nearest whole number. -/
def descale (bits : Nat) (value : Int) : Int :=
  (value + 1 <<< (bits - 1)) >>> bits

namespace Block

/-- Rows become columns. -/
def transpose (block : Block) : Block :=
  (List.range 8).map fun column ↦ block.map fun row ↦ row.getD column 0

/-- Eight times the cosine transform of a block. -/
def frequencies (block : Block) : Block :=
  let columns := transpose (block.map (transform (· * 4) (descale 11)))
  transpose (columns.map (transform (descale 2) (descale 15)))

end Block

end Panorama.Jpeg
