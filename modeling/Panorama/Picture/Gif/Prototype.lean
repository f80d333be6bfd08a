import Panorama.Picture.Basic

/-!
# Prototypes of colors

A picture with too many colors is written with 256 prototypes. They stand in a row and learn from
one pixel after the other: the prototype that wins the contest for a pixel moves towards its color,
and so do its neighbors in the row, ever less of them and by ever less. Prototypes that are the
nearest ones too often are held back.
-/

namespace Panorama.Gif

/-- A color that stands for others. -/
structure Prototype where
  /-- Red. -/
  red : Float
  /-- Green. -/
  green : Float
  /-- Blue. -/
  blue : Float
  /-- Opacity. All pixels are opaque, but some prototypes are not at first. -/
  alpha : Float
  /-- How often the prototype was the nearest one lately. -/
  share : Float
  /-- The distance by which it is ahead of others. -/
  lead : Float

namespace Prototype

/-- Number of prototypes. -/
def number : Nat := 256

/-- Grays from black to white. The darkest ones are not opaque. -/
def gray (place : Nat) : Prototype :=
  let level := place.toFloat
  ⟨level, level, level, if place < 16 then level * 16 else 255, 1 / number.toFloat, 0⟩

/-- How far a pixel is from a prototype. -/
def distance (prototype : Prototype) (color : Color) : Float :=
  (prototype.blue - color.blue.toFloat).abs + (prototype.red - color.red.toFloat).abs +
    (prototype.green - color.green.toFloat).abs + (prototype.alpha - 255).abs

/-- A part of the way to a pixel. -/
def toward (prototype : Prototype) (color : Color) (part : Float) : Prototype :=
  { prototype with
    blue := prototype.blue - part * (prototype.blue - color.blue.toFloat)
    green := prototype.green - part * (prototype.green - color.green.toFloat)
    red := prototype.red - part * (prototype.red - color.red.toFloat)
    alpha := prototype.alpha - part * (prototype.alpha - 255) }

/-- One more pixel has passed. -/
def age (prototype : Prototype) : Prototype :=
  let share := prototype.share - 1 / 1024 * prototype.share
  { prototype with share, lead := prototype.lead + share }

/-- The prototype was the nearest one to a pixel. -/
def reward (prototype : Prototype) : Prototype :=
  { prototype with share := prototype.share + 1 / 1024, lead := prototype.lead - 1 }

end Prototype

/-- The best places so far. -/
structure Contest where
  /-- The place of the nearest prototype. -/
  nearest : Nat
  /-- Its distance. -/
  distance : Float
  /-- The place of the prototype that is nearest if its lead is taken into account. -/
  winner : Nat
  /-- Its distance less its lead. -/
  rating : Float

/-- Compare with the prototype at a place. -/
def Contest.enter (contest : Contest) (place : Nat) (distance lead : Float) : Contest :=
  let contest :=
    if distance < contest.distance then { contest with nearest := place, distance }
    else contest
  if distance < contest.rating + lead then
    { contest with winner := place, rating := distance - lead }
  else contest

/-- The contest of prototypes for a pixel. -/
def contest (prototypes : Array Prototype) (color : Color) : Contest :=
  prototypes.zipIdx.foldl (fun contest (prototype, place) ↦
    contest.enter place (prototype.distance color) prototype.lead) ⟨0, 1e18, 0, 1e18⟩

/-- Move the winner and its neighbors. A neighbor moves by less the farther it is from the winner.
The first prototype is not moved as a neighbor. -/
def attract (prototypes : Array Prototype) (color : Color) (winner radius : Nat) (part : Float) :
    Array Prototype :=
  let square (number : Nat) : Float := number.toFloat * number.toFloat
  prototypes.mapIdx fun place prototype ↦
    let away := (place - winner) + (winner - place)
    if away = 0 then prototype.toward color part
    else if 0 < place ∧ away < radius then
      prototype.toward color (part * (square radius - square (away - 1)) / square radius)
    else prototype

/-- Prototypes in the middle of learning. -/
structure Learning where
  /-- The prototypes. -/
  prototypes : Array Prototype
  /-- The part of the way by which a winner moves, in units of `1 / 1024`. -/
  part : Nat
  /-- The distance up to which neighbors move, in units of `1 / 64`. -/
  radius : Nat

namespace Learning

/-- In front of all pixels. -/
def start : Learning := ⟨(Array.range Prototype.number).map Prototype.gray, 1024, 2048⟩

/-- Learn from a pixel. A radius of one moves no neighbors. -/
def see (learning : Learning) (color : Color) : Learning :=
  let outcome := contest learning.prototypes color
  let prototypes := (learning.prototypes.map Prototype.age).modify outcome.nearest Prototype.reward
  { learning with
    prototypes := attract prototypes color outcome.winner (learning.radius / 64)
      (learning.part.toFloat / 1024) }

/-- Move by less from now on. -/
def calm (learning : Learning) : Learning :=
  { learning with
    part := learning.part - learning.part / 30
    radius := learning.radius - learning.radius / 30 }

/-- The distance of pixels that are seen one after the other. It does not divide the number of
pixels, if it can be avoided. -/
def stride (count : Nat) : Nat :=
  ([499, 491, 478, 503].find? fun step ↦ count % step ≠ 0).getD 503

/-- Learn from all pixels. Between two calmings there are equally many pixels. -/
def all (pixels : Array Color) : Learning :=
  let count := pixels.size
  let period := max 1 (count / 128)
  (List.range count).foldl (fun learning turn ↦
    let learning :=
      match pixels[turn * stride count % count]? with
      | none => learning
      | some color => learning.see color
    if (turn + 1) % period = 0 then learning.calm else learning) start

end Learning

/-- A color of the palette of a picture with too many colors. -/
structure Swatch where
  /-- The color. -/
  color : Color
  /-- Opacity. -/
  alpha : UInt8

namespace Swatch

/-- The prototype in whole numbers. -/
def ofPrototype (prototype : Prototype) : Swatch :=
  ⟨⟨prototype.red.round.toUInt8, prototype.green.round.toUInt8, prototype.blue.round.toUInt8⟩,
    prototype.alpha.round.toUInt8⟩

/-- The least green from a place on changes places with it, the first one of several. -/
def settle (swatches : Array Swatch) (place : Nat) : Array Swatch :=
  let green (place : Nat) : UInt8 := (swatches[place]?.map (·.color.green)).getD 0
  let least := (List.range' place (swatches.size - place)).foldl
    (fun least other ↦ if green other < green least then other else least) place
  swatches.swapIfInBounds place least

/-- In the order of green. -/
def arrange (swatches : Array Swatch) : Array Swatch :=
  (List.range swatches.size).foldl settle swatches

/-- The sum of the squares of the differences to a pixel. -/
def distance (swatch : Swatch) (color : Color) : Nat :=
  let square (left right : UInt8) : Nat :=
    let gap := (left.toNat - right.toNat) + (right.toNat - left.toNat)
    gap * gap
  square swatch.color.green color.green + square swatch.color.red color.red +
    square swatch.color.blue color.blue + square swatch.alpha 255

/-- The places in the order in which they are tried for a pixel: from the middle of those with its
green upwards, and then downwards. -/
def order (swatches : Array Swatch) (color : Color) : List Nat :=
  let last := swatches.size - 1
  let below := swatches.countP fun swatch ↦ swatch.color.green < color.green
  let upTo := swatches.countP fun swatch ↦ swatch.color.green ≤ color.green
  let middle := (min below last + min upTo last) / 2
  List.range' middle (swatches.size - middle) ++ (List.range middle).reverse

/-- The place of the nearest color to a pixel, the first one of several. -/
def nearest (swatches : Array Swatch) (color : Color) : Nat :=
  let far (place : Nat) : Nat := (swatches[place]?.map (·.distance color)).getD 0
  match order swatches color with
  | [] => 0
  | first :: rest =>
    (rest.foldl (fun (best, smallest) place ↦
      if far place < smallest then (place, far place) else (best, smallest)) (first, far first)).1

/-- The palette for pixels. -/
def ofPixels (pixels : List Color) : Array Swatch :=
  arrange ((Learning.all pixels.toArray).prototypes.map ofPrototype)

end Swatch

end Panorama.Gif
