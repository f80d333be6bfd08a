import Panorama.Gain.Overlap

/-!
# Gains by least squares

Let sources `i` and `j` be seen together at `n i j` pixels with mean brightness `m i j` and `m j i`.
The gains `g` minimize the sum over all ordered pairs of

`n i j * ((g i * m i j - g j * m j i) ^ 2 / 10 ^ 2 + (1 - g i) ^ 2 / 0.1 ^ 2)`,

where every source counts once as seen with itself. This pulls the brightness of overlaps together
and keeps each gain near one. The minimum is where the derivatives vanish, which is a system of
linear equations, solved by elimination with row pivoting.
-/

namespace Panorama

/-- A linear equation: the coefficients of the unknowns and the right-hand side. -/
structure LinearEquation (α : Type) where
  coefficients : List α
  constant : α

namespace LinearEquation

variable {α : Type} [Arithmetic α]

/-- The position and size of the largest leading coefficient, the first one on a tie. -/
def pivotFrom (best : Nat) (size : α) (position : Nat) : List (LinearEquation α) → Nat
  | [] => best
  | equation :: rest =>
    let candidate := Arithmetic.abs (equation.coefficients.headD Arithmetic.zero)
    if Arithmetic.less size candidate then pivotFrom position candidate (position + 1) rest
    else pivotFrom best size (position + 1) rest

/-- Bring the equation with the largest leading coefficient to the front, in exchange for the
one that stands there. -/
def choosePivot : List (LinearEquation α) → Option (LinearEquation α × List (LinearEquation α))
  | [] => none
  | first :: rest =>
    let size := Arithmetic.abs (first.coefficients.headD Arithmetic.zero)
    match pivotFrom 0 size 1 rest with
    | 0 => some (first, rest)
    | position + 1 => rest[position]?.map fun pivot ↦ (pivot, rest.set position first)

/-- Subtract a multiple of the pivot equation, whose leading coefficient has the given inverse, so
that the leading unknown drops out. -/
def eliminate (pivot : LinearEquation α) (inverse : α) (equation : LinearEquation α) :
    LinearEquation α :=
  let factor := equation.coefficients.headD Arithmetic.zero * inverse
  { coefficients := List.zipWith (fun above own ↦ -above * factor + own)
      pivot.coefficients.tail equation.coefficients.tail
    constant := -pivot.constant * factor + equation.constant }

/-- Solve as many equations as there are unknowns. No result means that a leading coefficient
is zero. -/
def solve : Nat → List (LinearEquation α) → Option (List α)
  | 0, _ => some []
  | unknowns + 1, equations => do
    let (pivot, rest) ← choosePivot equations
    let diagonal ← pivot.coefficients.head?
    if Arithmetic.same diagonal Arithmetic.zero then none
    else
      let solution ← solve unknowns (rest.map (eliminate pivot (Arithmetic.one / diagonal)))
      let constant := (solution.zip pivot.coefficients.tail).foldr
        (fun (value, coefficient) constant ↦ -value * coefficient + constant) pivot.constant
      some (constant / diagonal :: solution)

end LinearEquation

namespace Overlap

variable {α : Type} [Arithmetic α] {sources : Nat}

/-- One over the squared noise of brightness, which is 10. -/
def noiseWeight : α :=
  Arithmetic.one / (Arithmetic.ofInt 10 * Arithmetic.ofInt 10)

/-- One over the squared deviation of gains from one, which is a tenth. -/
def priorWeight : α :=
  let deviation : α := Arithmetic.one / Arithmetic.ofInt 10
  Arithmetic.one / (deviation * deviation)

/-- The sources that were seen together with a source. -/
def partners (overlap : Overlap α sources) (source : Fin sources) : List (Fin sources) :=
  (List.finRange sources).filter fun other ↦
    other ≠ source && !Arithmetic.same (overlap.count source other) Arithmetic.zero

/-- The coefficient of a source's own gain in its equation. -/
def ownCoefficient (overlap : Overlap α sources) (source : Fin sources) : α :=
  (overlap.partners source).foldl (fun total other ↦
    let count := overlap.count source other
    let mean := overlap.mean source other
    total + (priorWeight * count + Arithmetic.ofInt 2 * noiseWeight * mean * mean * count))
    (Arithmetic.zero + priorWeight)

/-- The coefficient of another source's gain in a source's equation. -/
def crossCoefficient (overlap : Overlap α sources) (source other : Fin sources) : α :=
  let count := overlap.count source other
  if Arithmetic.same count Arithmetic.zero then Arithmetic.zero
  else
    Arithmetic.zero - Arithmetic.ofInt 2 * noiseWeight * overlap.mean source other *
      overlap.mean other source * count

/-- The right-hand side of a source's equation. -/
def constant (overlap : Overlap α sources) (source : Fin sources) : α :=
  (overlap.partners source).foldl
    (fun total other ↦ total + priorWeight * overlap.count source other)
    (Arithmetic.zero + priorWeight)

/-- The equation that the derivative by a source's gain gives. -/
def equation (overlap : Overlap α sources) (source : Fin sources) : LinearEquation α where
  coefficients := (List.finRange sources).map fun other ↦
    if other = source then overlap.ownCoefficient source
    else overlap.crossCoefficient source other
  constant := overlap.constant source

/-- The gains that minimize the sum. -/
def solution? (overlap : Overlap α sources) : Option (List α) :=
  LinearEquation.solve sources ((List.finRange sources).map overlap.equation)

end Overlap

/-- The gains of measured overlaps as singles; none if they cannot be solved for or one is not
finite. -/
def Overlap.gains? {sources : Nat} (overlap : Overlap Float sources) : Option (List Float32) := do
  let solution ← overlap.solution?
  if solution.all Float.isFinite then some (solution.map Number.narrow) else none

end Panorama
