import Panorama.Picture.Bits
import Std.Data.HashMap

/-!
# Phrases of GIF files

The numbers of a picture are written as phrases. A phrase is a number, or a known phrase with one
more number behind it. Whenever a phrase is written, it becomes known together with the number that
follows it, until there are too many of them.
-/

namespace Panorama.Gif

/-- The phrases that are known, and the bits of those that were written. -/
structure PhraseWriter where
  /-- Bits of a number of the picture. -/
  bits : Nat
  /-- The phrase that is a known one and a number behind it. -/
  known : Std.HashMap (Nat × Nat) Nat
  /-- The phrase that is free next. -/
  next : Nat
  /-- The phrase that the last numbers are. -/
  phrase? : Option Nat
  /-- The bits of the phrases in front of it. -/
  packing : BitPacking

namespace PhraseWriter

/-- Bits of the longest field. -/
def longestField : Nat := 12

/-- The field for forgetting all phrases that are not numbers. -/
def forgetting (bits : Nat) : Nat := 1 <<< bits

/-- The field for the end. -/
def ending (bits : Nat) : Nat := 1 <<< bits + 1

/-- The first phrase that is not a number. -/
def first (bits : Nat) : Nat := 1 <<< bits + 2

/-- Bits of a field when a phrase is free next: as many as it takes for those in front of it. -/
def fieldBits (next : Nat) : Nat := min longestField ((next - 1).log2 + 1)

/-- Write a field. -/
def write (writer : PhraseWriter) (value : Nat) : PhraseWriter :=
  { writer with packing := writer.packing.addLow ⟨value, fieldBits writer.next⟩ }

/-- Forget all phrases, and write so. -/
def forget (writer : PhraseWriter) : PhraseWriter :=
  { writer.write (forgetting writer.bits) with known := ∅, next := first writer.bits }

/-- In front of all numbers. -/
def start (bits : Nat) : PhraseWriter :=
  forget ⟨bits, ∅, first bits, none, .empty⟩

/-- Learn the phrase of a phrase and a number. If it has no field any more, forget all phrases. -/
def learn (writer : PhraseWriter) (phrase number : Nat) : PhraseWriter :=
  let writer := { writer with
    known := writer.known.insert (phrase, number) writer.next
    next := writer.next + 1 }
  if 1 <<< longestField < writer.next then writer.forget else writer

/-- Add a number. -/
def add (writer : PhraseWriter) (number : Nat) : PhraseWriter :=
  match writer.phrase? with
  | none => { writer with phrase? := some number }
  | some phrase =>
    match writer.known[(phrase, number)]? with
    | some longer => { writer with phrase? := some longer }
    | none => { (writer.write phrase).learn phrase number with phrase? := some number }

/-- All bytes. A reader learns a phrase in front of the end, too. -/
def finish (writer : PhraseWriter) : List UInt8 :=
  let writer :=
    match writer.phrase? with
    | none => writer
    | some phrase => { writer.write phrase with next := writer.next + 1 }
  (writer.write (ending writer.bits)).packing.finishLow.toList

/-- The bytes of numbers of some bits. -/
def encode (bits : Nat) (numbers : List Nat) : List UInt8 :=
  (numbers.foldl add (start bits)).finish

end PhraseWriter

end Panorama.Gif
