import Panorama.Picture.Jpeg.Tables
import Panorama.Picture.PrefixCode.Basic

/-!
# Coding of blocks

The frequencies of a block as bit fields. A number is written as the code of its size in bits and
the bits themselves. The first frequency is written as the difference to that of the block before,
and the others with the number of zeros in front of them.
-/

namespace Panorama.Jpeg

/-- The code of every symbol. -/
def CodeTable.codes (table : CodeTable) : Array BitField :=
  PrefixCode.table 256 <| PrefixCode.assignFrom 1 0 (table.counts.map UInt8.toNat)
    (table.symbols.map UInt8.toNat)

/-- How many bits a number has without its sign. -/
def bitSize (value : Int) : Nat :=
  if value = 0 then 0 else value.natAbs.log2 + 1

/-- The bits of a number of known size. Below zero all bits are flipped. -/
def bitsOf (value : Int) : BitField :=
  let size := bitSize value
  ⟨(if value < 0 then value + (1 <<< size - 1) else value).toNat, size⟩

/-- What the frequencies of blocks of one kind are written with. -/
structure Coder where
  /-- The codes of the sizes of differences. -/
  means : Array BitField
  /-- The codes of runs and sizes. -/
  details : Array BitField

namespace Coder

/-- The code of a number of zeros, and of the size of the number behind them. -/
def detail (coder : Coder) (zeros size : Nat) : BitField :=
  coder.details.getD (16 * zeros + size) ⟨0, 0⟩

/-- The frequencies behind a number of zeros. Sixteen zeros have a code of their own, and so have
all zeros at the end. -/
def encodeDetails (coder : Coder) (zeros : Nat) : List Int → List BitField
  | [] => if zeros = 0 then [] else [coder.detail 0 0]
  | value :: rest =>
    if value = 0 then coder.encodeDetails (zeros + 1) rest
    else
      List.replicate (zeros / 16) (coder.detail 15 0) ++
        coder.detail (zeros % 16) (bitSize value) :: bitsOf value :: coder.encodeDetails 0 rest

/-- The frequencies of a block, where `before` is the first one of the block before. -/
def encode (coder : Coder) (before : Int) : List Int → List BitField
  | [] => []
  | mean :: details =>
    let difference := mean - before
    coder.means.getD (bitSize difference) ⟨0, 0⟩ :: bitsOf difference ::
      coder.encodeDetails 0 details

end Coder

end Panorama.Jpeg
