import Panorama.Number.LittleEndian
import Panorama.Picture.Basic

/-!
# TGA files

A picture as a TGA file: a header and packets of pixels. A packet of one kind stands for a pixel
that is repeated, one of the other kind holds pixels as they are. Packets do not end with rows.
-/

namespace Panorama.Tga

/-- Some pixels in the file. -/
inductive Packet where
  /-- One pixel, a number of times. -/
  | run (count : Nat) (color : Color)
  /-- Pixels as they are. -/
  | raw (pixels : List Color)
  deriving DecidableEq, Repr

namespace Packet

/-- Pixels that a packet can stand for. -/
def capacity : Nat := 128

/-- The pixels that a packet stands for. -/
def pixels : Packet → List Color
  | run count color => List.replicate count color
  | raw pixels => pixels

/-- A packet in the file: its kind in the highest bit of a byte, the number of its pixels less one
in the other bits, and its pixels. -/
def bytes : Packet → List UInt8
  | run count color => .ofNat (capacity + (count - 1)) :: color.reversedBytes
  | raw pixels => .ofNat (pixels.length - 1) :: pixels.flatMap Color.reversedBytes

end Packet

/-- The packet that pixels are still added to. -/
inductive Pending where
  /-- No pixel so far. -/
  | empty
  /-- One pixel, a number of times. -/
  | run (count : Nat) (color : Color)
  /-- Pixels as they are, from the last to the first. -/
  | raw (last : Color) (before : List Color)
  deriving DecidableEq, Repr

namespace Pending

/-- The packet that it has become, if it has a pixel. -/
def packet? : Pending → Option Packet
  | empty => none
  | run count color => some (.run count color)
  | raw last before => some (.raw (last :: before).reverse)

/-- Pixels so far. -/
def size : Pending → Nat
  | empty => 0
  | run count _ => count
  | raw _ before => before.length + 1

/-- Nothing is pending behind a packet that has no room for further pixels. -/
def settle (pending : Pending) : List Packet × Pending :=
  if pending.size < Packet.capacity then ([], pending) else (pending.packet?.toList, empty)

/-- Add a pixel. What is pending becomes a packet when the pixel ends a run, or when it repeats the
last one of pixels that are kept as they are. -/
def add (pending : Pending) (color : Color) : List Packet × Pending :=
  match pending with
  | empty => ([], run 1 color)
  | run count held =>
    if color = held then (run (count + 1) held).settle
    else (pending.packet?.toList, raw color [])
  | raw last before =>
    if color = last then (pending.packet?.toList, run 1 color)
    else (raw color (last :: before)).settle

end Pending

/-- The packets of pixels, from the last to the first, and what is pending behind them. -/
def collect (pixels : List Color) : List Packet × Pending :=
  pixels.foldl (fun (packets, pending) color ↦
    let (done, pending) := pending.add color
    (done ++ packets, pending)) ([], .empty)

/-- The packets of pixels. -/
def packets (pixels : List Color) : List Packet :=
  let (packets, pending) := collect pixels
  (pending.packet?.toList ++ packets).reverse

/-- The header of the file: no text, no palette, packets of pixels of 24 bits, the top row first. -/
def header (width height : Nat) : List UInt8 :=
  [0, 0, 10] ++ List.replicate 9 0 ++ Number.LittleEndian.encode 2 width ++
    Number.LittleEndian.encode 2 height ++ [24, 0x20]

/-- The TGA file of a picture. -/
def encode (picture : Picture) : List UInt8 :=
  header picture.width picture.height ++ (packets picture.pixels).flatMap Packet.bytes

end Panorama.Tga
