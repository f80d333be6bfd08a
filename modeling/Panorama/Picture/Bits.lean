/-!
# Bit fields

Numbers of a few bits each that stand one behind the other in bytes. In files of one kind a byte is
filled from its highest bit down, in files of the other kind from its lowest bit up.
-/

namespace Panorama

/-- A number of some bits. -/
structure BitField where
  /-- The number. -/
  value : Nat
  /-- How many bits it has. -/
  length : Nat
  deriving DecidableEq, Repr

/-- The bits in the opposite order. -/
def BitField.reverse (field : BitField) : BitField :=
  ⟨(List.range field.length).foldl (fun value place ↦ 2 * value + (field.value >>> place) % 2) 0,
    field.length⟩

/-- Bytes, and the bits behind them that do not fill a byte. -/
structure BitPacking where
  /-- The bytes that are full. -/
  bytes : Array UInt8
  /-- The bits of the next byte. -/
  pending : BitField
  deriving DecidableEq, Repr

namespace BitPacking

/-- No bits. -/
def empty : BitPacking := ⟨#[], ⟨0, 0⟩⟩

/-- Move the highest bits into bytes as long as they fill one. -/
def spillHigh (bytes : Array UInt8) (value length : Nat) : BitPacking :=
  if _short : length < 8 then ⟨bytes, ⟨value, length⟩⟩
  else
    let unit := 1 <<< (length - 8)
    spillHigh (bytes.push (.ofNat (value / unit))) (value % unit) (length - 8)
termination_by length
decreasing_by omega

/-- Move the lowest bits into bytes as long as they fill one. -/
def spillLow (bytes : Array UInt8) (value length : Nat) : BitPacking :=
  if _short : length < 8 then ⟨bytes, ⟨value, length⟩⟩
  else spillLow (bytes.push (.ofNat (value % 256))) (value / 256) (length - 8)
termination_by length
decreasing_by omega

/-- Add a field below the pending bits. -/
def addHigh (packing : BitPacking) (field : BitField) : BitPacking :=
  spillHigh packing.bytes (packing.pending.value <<< field.length + field.value)
    (packing.pending.length + field.length)

/-- Add a field above the pending bits. -/
def addLow (packing : BitPacking) (field : BitField) : BitPacking :=
  spillLow packing.bytes (packing.pending.value + field.value <<< packing.pending.length)
    (packing.pending.length + field.length)

/-- All bytes of a packing from the lowest bit up. The last one is filled with zeros. -/
def finishLow (packing : BitPacking) : Array UInt8 :=
  if packing.pending.length = 0 then packing.bytes
  else packing.bytes.push (.ofNat packing.pending.value)

end BitPacking

end Panorama
