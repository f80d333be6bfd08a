import Panorama.Number.BigEndian
import Panorama.Picture.Basic

/-!
# QOI files

A picture as a QOI file: a header, packets and an end mark. A packet says how a pixel follows from
the pixel in front of it, or from those that came before; those are kept in a table in which the
color of a pixel decides on its slot.
-/

namespace Panorama.Qoi

/-- One or more pixels in the file. -/
inductive Packet where
  /-- The pixel in front, a number of times. -/
  | run (count : Nat)
  /-- The pixel in a slot of the table. -/
  | recent (slot : Nat)
  /-- The pixel in front with small changes to red, green and blue. -/
  | small (red green blue : UInt8)
  /-- The pixel in front with a change to green, and what red and blue change by beyond it. -/
  | luma (green red blue : UInt8)
  /-- A pixel of its own. -/
  | whole (color : Color)
  deriving DecidableEq, Repr

namespace Packet

/-- Pixels that one run can stand for. -/
def longestRun : Nat := 62

/-- A packet in the file. The highest bits say which kind it is of, and changes are stored with an
offset that makes them positive. -/
def bytes : Packet → List UInt8
  | run count => [.ofNat (0xC0 + (count - 1))]
  | recent slot => [.ofNat slot]
  | small red green blue => [0x40 + (red + 2) * 16 + (green + 2) * 4 + (blue + 2)]
  | luma green red blue => [0x80 + (green + 32), (red + 8) * 16 + (blue + 8)]
  | whole color => 0xFE :: color.bytes

end Packet

/-- The slot of a color in the table. All pixels are opaque. -/
def slotOf (color : Color) : Nat :=
  (3 * color.red.toNat + 5 * color.green.toNat + 7 * color.blue.toNat + 11 * 255) % 64

/-- How a pixel follows from the one in front of it. Changes are taken modulo 256. -/
def change (front color : Color) : Packet :=
  let red := color.red - front.red
  let green := color.green - front.green
  let blue := color.blue - front.blue
  if red + 2 < 4 ∧ green + 2 < 4 ∧ blue + 2 < 4 then .small red green blue
  else if green + 32 < 64 ∧ red - green + 8 < 16 ∧ blue - green + 8 < 16 then
    .luma green (red - green) (blue - green)
  else .whole color

/-- What is known behind some of the pixels. -/
structure State where
  /-- The pixels that came last, by slot. -/
  table : Array (Option Color)
  /-- The last pixel. -/
  last : Color
  /-- How often it was repeated since the last packet. -/
  repeats : Nat
  deriving DecidableEq, Repr

namespace State

/-- In front of all pixels, an empty table and black. -/
def start : State := ⟨Array.replicate 64 none, ⟨0, 0, 0⟩, 0⟩

/-- The pixel in a slot of the table. -/
def recent? (state : State) (slot : Nat) : Option Color :=
  (state.table[slot]?).join

/-- The packet for the repeated pixels, if there are any, in front of another pixel. A single one is
found in the table, once there was any other pixel than black. -/
def repeated (state : State) : List Packet :=
  if state.repeats = 0 then []
  else if state.repeats = 1 ∧ state.recent? (slotOf state.last) = some state.last then
    [.recent (slotOf state.last)]
  else [.run state.repeats]

/-- Repeat the last pixel. A run ends when it can be no longer. -/
def again (state : State) : List Packet × State :=
  if state.repeats + 1 < Packet.longestRun then
    ([], { state with repeats := state.repeats + 1 })
  else ([.run (state.repeats + 1)], { state with repeats := 0 })

/-- Go on with another pixel. -/
def move (state : State) (color : Color) : Packet × State :=
  let slot := slotOf color
  if state.recent? slot = some color then (.recent slot, { state with last := color, repeats := 0 })
  else (change state.last color, ⟨state.table.setIfInBounds slot (some color), color, 0⟩)

/-- Add a pixel. The packets are listed from the last to the first. -/
def add (state : State) (color : Color) : List Packet × State :=
  if color = state.last then state.again
  else
    let (packet, next) := state.move color
    (packet :: state.repeated, next)

end State

/-- The packets of pixels, from the last to the first, and what is known behind them. -/
def collect (pixels : List Color) : List Packet × State :=
  pixels.foldl (fun (packets, state) color ↦
    let (added, state) := state.add color
    (added ++ packets, state)) ([], .start)

/-- The packets of pixels. Pixels that are repeated up to the end are a run. -/
def packets (pixels : List Color) : List Packet :=
  let (packets, state) := collect pixels
  let rest := if state.repeats = 0 then [] else [.run state.repeats]
  (rest ++ packets).reverse

/-- The header of the file: three channels in the color space sRGB. -/
def header (width height : Nat) : List UInt8 :=
  "qoif".toUTF8.toList ++ Number.BigEndian.encode 4 width ++ Number.BigEndian.encode 4 height ++
    [3, 0]

/-- The end of the file. -/
def endMark : List UInt8 := [0, 0, 0, 0, 0, 0, 0, 1]

/-- The QOI file of a picture. -/
def encode (picture : Picture) : List UInt8 :=
  header picture.width picture.height ++ (packets picture.pixels).flatMap Packet.bytes ++ endMark

end Panorama.Qoi
