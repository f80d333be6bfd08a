import Panorama.Number.Arithmetic

/-!
# Brightness of overlaps

For every ordered pair of sources: at how many measured pixels they were seen together, and how
bright the first one was there in total.
-/

namespace Panorama

/-- Brightness statistics of `sources` sources over pairs that were seen together. -/
structure Overlap (α : Type) (sources : Nat) where
  /-- Pixels that show both sources of a pair. -/
  counts : Vector (Vector α sources) sources
  /-- Brightness of the first source of a pair, summed over these pixels. -/
  sums : Vector (Vector α sources) sources

namespace Overlap

variable {α : Type} [Arithmetic α] {sources : Nat}

/-- No pixel was measured. -/
def empty : Overlap α sources :=
  let zeros := Vector.replicate sources (Vector.replicate sources Arithmetic.zero)
  ⟨zeros, zeros⟩

/-- Count a pixel where the first source was seen with that brightness beside the second one. -/
def add (overlap : Overlap α sources) (first second : Fin sources) (brightness : α) :
    Overlap α sources where
  counts := overlap.counts.set first
    (overlap.counts[first].set second (overlap.counts[first][second] + Arithmetic.one))
  sums := overlap.sums.set first
    (overlap.sums[first].set second (overlap.sums[first][second] + brightness))

/-- Count the pairs that a contribution makes with later ones of the same pixel. Two contributions
of one source make no pair. -/
def addPairs (overlap : Overlap α sources) (first : Fin sources) (brightness : α)
    (later : List (Fin sources × α)) : Overlap α sources :=
  later.foldl (fun overlap (second, other) ↦
    if first = second then overlap
    else (overlap.add first second brightness).add second first other) overlap

/-- Count a pixel by the brightness of its contributions. -/
def observe (overlap : Overlap α sources) : List (Fin sources × α) → Overlap α sources
  | [] => overlap
  | (source, brightness) :: later =>
    (overlap.addPairs source brightness later).observe later

/-- At how many pixels two sources were seen together. -/
def count (overlap : Overlap α sources) (first second : Fin sources) : α :=
  overlap.counts[first][second]

/-- How bright the first source was on average where it was seen with the second one. -/
def mean (overlap : Overlap α sources) (first second : Fin sources) : α :=
  if Arithmetic.less Arithmetic.zero (overlap.count first second) then
    overlap.sums[first][second] / overlap.count first second
  else Arithmetic.zero

/-- Whether no pair was seen. -/
def isEmpty (overlap : Overlap α sources) : Bool :=
  (List.finRange sources).all fun first ↦ (List.finRange sources).all fun second ↦
    Arithmetic.same (overlap.count first second) Arithmetic.zero

end Overlap

end Panorama
