import Mathlib
import Panorama.Proofs.Gain.Elimination
import Panorama.Proofs.Gain.Exposure
import Panorama.Proofs.Gain.Pairs

/-!
# Gains balance exposures

In exact arithmetic, the equations that are set up from measured overlaps always have a solution,
which is the one minimum of the cost of gains. The equations are those of `Exposure.matrix`, they
are regular because it is positive definite, and so elimination solves them. Read `gains_balance`
first.
-/

namespace Panorama.Overlap

open Matrix Exposure

variable {K : Type} [Field K] [LinearOrder K] [IsStrictOrderedRing K] [FloorRing K] {sources : Nat}

attribute [local instance] Arithmetic.exact
attribute [local instance (10)] Arithmetic.toAdd Arithmetic.toSub Arithmetic.toMul Arithmetic.toDiv
  Arithmetic.toNeg

/-- How much a pair counts: as often as it was seen, and once for a source with itself. -/
def weight (overlap : Overlap K sources) (left right : Fin sources) : K :=
  if left = right then 1 else overlap.count left right

/-- The coefficients of the equations that are set up. -/
def coefficientMatrix (overlap : Overlap K sources) : Matrix (Fin sources) (Fin sources) K :=
  fun row column ↦ (overlap.equation row).coefficients.getD column 0

/-! ### The equations -/

/-- The weight of the squared distance in brightness. -/
theorem noise_weight_eq : (noiseWeight : K) = 1 / 100 := by
  unfold noiseWeight
  simp only [Arithmetic.exact_one, Arithmetic.exact_of_int]
  norm_num

/-- The weight of the squared distance from one. -/
theorem prior_weight_eq : (priorWeight : K) = 100 := by
  unfold priorWeight
  simp only [Arithmetic.exact_one, Arithmetic.exact_of_int]
  norm_num

/-- A sum over the partners of a source among given sources is one over the given sources that
differ from it. -/
theorem filtered_fold (overlap : Overlap K sources) (source : Fin sources) (start : K)
    {term : Fin sources → K} (hterm : ∀ other, overlap.count source other = 0 → term other = 0)
    (items : List (Fin sources)) :
    (items.filter fun other ↦ other ≠ source &&
      !Arithmetic.same (overlap.count source other) Arithmetic.zero).foldl
        (fun total other ↦ total + term other) start
      = start + (items.map fun other ↦ if source = other then 0 else term other).sum := by
  induction items generalizing start with
  | nil => simp
  | cons other items ih =>
      rw [List.map_cons, List.sum_cons, ← add_assoc]
      by_cases hsame : source = other
      · rw [List.filter_cons_of_neg (by simp [hsame]), if_pos hsame, add_zero, ih]
      · by_cases hnone : overlap.count source other = 0
        · rw [List.filter_cons_of_neg (by simp [hnone]), if_neg hsame, hterm other hnone,
            add_zero, ih]
        · have hseen : Arithmetic.same (overlap.count source other) (0 : K) = false :=
            Bool.eq_false_iff.mpr (mt Arithmetic.exact_same.mp hnone)
          rw [List.filter_cons_of_pos (by simp [hseen, Ne.symm hsame]), List.foldl_cons,
            if_neg hsame, ih]

/-- A sum over the partners of a source is one over all other sources. -/
theorem partners_fold (overlap : Overlap K sources) (source : Fin sources) (start : K)
    {term : Fin sources → K} (hterm : ∀ other, overlap.count source other = 0 → term other = 0) :
    (overlap.partners source).foldl (fun total other ↦ total + term other) start
      = start + ∑ other, if source = other then 0 else term other := by
  rw [Fin.sum_univ_def]
  exact overlap.filtered_fold source start hterm _

/-- The coefficient of a source's own gain. -/
theorem own_coefficient_eq (overlap : Overlap K sources) (source : Fin sources) :
    overlap.ownCoefficient source = matrix overlap.weight overlap.mean source source := by
  have hfold : overlap.ownCoefficient source = 100 + ∑ other, if source = other then 0
      else overlap.count source other * (100 + overlap.mean source other ^ 2 / 50) := by
    unfold ownCoefficient
    simp only [Arithmetic.exact_zero, noise_weight_eq, prior_weight_eq, Arithmetic.exact_of_int,
      zero_add]
    rw [partners_fold overlap source 100 fun other hnone ↦ by
      rw [hnone, mul_zero, mul_zero, add_zero]]
    congr 1
    refine Finset.sum_congr rfl fun other _ ↦ ?_
    split
    · rfl
    · push_cast
      ring
  have hsplit (other : Fin sources) :
      overlap.weight source other * (100 + overlap.mean source other ^ 2 / 50)
        = (if source = other then 0
            else overlap.count source other * (100 + overlap.mean source other ^ 2 / 50))
          + if source = other then 100 + overlap.mean source other ^ 2 / 50 else 0 := by
    unfold weight
    split
    · rw [one_mul, zero_add]
    · rw [add_zero]
  rw [hfold, matrix, if_pos rfl, Finset.sum_congr rfl fun other _ ↦ hsplit other,
    Finset.sum_add_distrib, Finset.sum_ite_eq, if_pos (Finset.mem_univ source), weight, if_pos rfl]
  ring

/-- The coefficient of another source's gain. -/
theorem cross_coefficient_eq (overlap : Overlap K sources) {source other : Fin sources}
    (hpair : source ≠ other) :
    overlap.crossCoefficient source other = matrix overlap.weight overlap.mean source other := by
  unfold crossCoefficient matrix weight
  simp only [Arithmetic.exact_zero, noise_weight_eq, Arithmetic.exact_of_int]
  rw [if_neg hpair, if_neg hpair]
  split
  · rename_i hnone
    rw [Arithmetic.exact_same.mp hnone]
    ring
  · push_cast
    ring

/-- The coefficients are those of the matrix of the exposures. -/
theorem coefficients_eq (overlap : Overlap K sources) (source : Fin sources) :
    (overlap.equation source).coefficients
      = List.ofFn (matrix overlap.weight overlap.mean source) := by
  rw [List.ofFn_eq_map]
  refine List.map_congr_left fun other _ ↦ ?_
  split
  · rename_i hsame
    rw [hsame]
    exact overlap.own_coefficient_eq source
  · rename_i hpair
    exact overlap.cross_coefficient_eq (Ne.symm hpair)

/-- So is the matrix of all equations. -/
theorem coefficient_matrix_eq (overlap : Overlap K sources) :
    overlap.coefficientMatrix = matrix overlap.weight overlap.mean := by
  ext row column
  rw [coefficientMatrix, coefficients_eq]
  simp

/-- The right-hand side is that of the exposures. -/
theorem constant_eq (overlap : Overlap K sources) (source : Fin sources) :
    (overlap.equation source).constant = constants overlap.weight source := by
  have hsplit (other : Fin sources) : 100 * overlap.weight source other
      = (if source = other then 0 else 100 * overlap.count source other)
        + if source = other then 100 else 0 := by
    unfold weight
    split
    · rw [mul_one, zero_add]
    · rw [add_zero]
  show overlap.constant source = _
  unfold Overlap.constant
  simp only [Arithmetic.exact_zero, prior_weight_eq, zero_add]
  rw [partners_fold overlap source 100 fun other hnone ↦ by rw [hnone, mul_zero], constants,
    Finset.sum_congr rfl fun other _ ↦ hsplit other, Finset.sum_add_distrib, Finset.sum_ite_eq,
    if_pos (Finset.mem_univ source), add_comm]

/-! ### The solution -/

omit [LinearOrder K] [IsStrictOrderedRing K] [FloorRing K] in
/-- The left-hand side of an equation with given coefficients. -/
theorem combine_of_fn (coefficients values : Fin sources → K) :
    LinearEquation.combine (List.ofFn coefficients) (List.ofFn values)
      = coefficients ⬝ᵥ values := by
  induction sources with
  | zero => rfl
  | succ sources ih =>
      rw [List.ofFn_succ, List.ofFn_succ, LinearEquation.combine_cons, ih, dotProduct, dotProduct,
        Fin.sum_univ_succ]

/-- A list is that of a function on its positions. -/
theorem exists_of_fn {α : Type} {values : List α} {count : Nat} (h : values.length = count) :
    ∃ value : Fin count → α, List.ofFn value = values := by
  subst h
  exact ⟨values.get, List.ofFn_get values⟩

/-- What is measured with brightness that is not negative is a sound balance of exposures. -/
theorem sound_measured {pixels : List (List (Fin sources × K))}
    (hbright : ∀ pixel ∈ pixels, ∀ contribution ∈ pixel, 0 ≤ contribution.2) :
    Sound (measured pixels).weight (measured pixels).mean := by
  refine ⟨?_, ?_, ?_, ?_⟩
  · intro left right
    unfold weight
    rw [count_comm]
    exact if_congr eq_comm rfl rfl
  · intro left right
    unfold weight
    split
    · exact zero_le_one
    · rename_i hpair
      exact count_nonneg hpair
  · intro source
    exact if_pos rfl
  · intro left right hpair
    exact mean_nonneg hpair hbright

/-- A value solves the equation of a source where the derivative by its gain vanishes. -/
theorem holds_iff (overlap : Overlap K sources) (source : Fin sources)
    (gains : Fin sources → K) : (overlap.equation source).Holds (List.ofFn gains) ↔
      (matrix overlap.weight overlap.mean *ᵥ gains) source = constants overlap.weight source := by
  unfold LinearEquation.Holds
  rw [coefficients_eq, constant_eq, combine_of_fn]
  rfl

/-- The equations of a sound balance are regular. -/
theorem regular_of_sound {overlap : Overlap K sources} (h : Sound overlap.weight overlap.mean) :
    LinearEquation.Regular sources ((List.finRange sources).map overlap.equation) := by
  intro values hlength hzero
  obtain ⟨gains, rfl⟩ := exists_of_fn hlength
  have hvanishes : matrix overlap.weight overlap.mean *ᵥ gains = 0 := by
    funext source
    have hrow := hzero _ (List.mem_map_of_mem (List.mem_finRange source))
    rw [coefficients_eq, combine_of_fn] at hrow
    exact hrow
  have hgains : gains = 0 := by
    by_contra hgains
    have hpositive := h.form_pos hgains
    rw [hvanishes, dotProduct_zero] at hpositive
    exact lt_irrefl 0 hpositive
  rw [hgains]
  exact List.ofFn_const sources 0

/-- Elimination finds gains for which the derivatives of the cost vanish. -/
theorem exists_solution {overlap : Overlap K sources} (h : Sound overlap.weight overlap.mean) :
    ∃ gains : Fin sources → K, overlap.solution? = some (List.ofFn gains) ∧
      matrix overlap.weight overlap.mean *ᵥ gains = constants overlap.weight := by
  have hsquare : LinearEquation.Square sources
      ((List.finRange sources).map overlap.equation) := by
    refine ⟨by rw [List.length_map, List.length_finRange], fun equation hequation ↦ ?_⟩
    obtain ⟨source, _, rfl⟩ := List.mem_map.mp hequation
    rw [coefficients_eq, List.length_ofFn]
  obtain ⟨solution, hsolution, hholds⟩ :=
    LinearEquation.exists_solve hsquare (regular_of_sound h)
  obtain ⟨gains, rfl⟩ := exists_of_fn (LinearEquation.length_of_solve hsolution)
  refine ⟨gains, hsolution, funext fun source ↦ ?_⟩
  exact (overlap.holds_iff source gains).mp
    (hholds _ (List.mem_map_of_mem (List.mem_finRange source)))

/-- Gains balance exposures. From any pixels with any contributions whose brightness is not
negative, in exact arithmetic, the equations that are set up have a symmetric positive definite
matrix, and a solution is found. It is the only one of the least cost, and its gains are positive. A
source that shares no pixel with another one has a gain of one, and so have all sources if those
that share pixels are equally bright there on average. -/
theorem gains_balance {pixels : List (List (Fin sources × K))}
    (hbright : ∀ pixel ∈ pixels, ∀ contribution ∈ pixel, 0 ≤ contribution.2) :
    let overlap := measured pixels
    (overlap.coefficientMatrix.IsSymm ∧
      ∀ values ≠ 0, 0 < values ⬝ᵥ overlap.coefficientMatrix *ᵥ values) ∧
    ∃ gains : Fin sources → K, overlap.solution? = some (List.ofFn gains) ∧
      (∀ other ≠ gains,
        cost overlap.weight overlap.mean gains < cost overlap.weight overlap.mean other) ∧
      (∀ source, 0 < gains source) ∧
      (∀ source, (∀ pixel ∈ pixels, ∀ other ≠ source, ∀ first second,
        (source, first) ∈ pixel → (other, second) ∉ pixel) → gains source = 1) ∧
      ((∀ left right, left ≠ right → overlap.count left right ≠ 0 →
        overlap.mean left right = overlap.mean right left) → gains = 1) := by
  intro overlap
  have hsound : Sound overlap.weight overlap.mean := sound_measured hbright
  obtain ⟨gains, hsolution, hgains⟩ := exists_solution hsound
  rw [coefficient_matrix_eq]
  refine ⟨⟨hsound.matrix_symm, fun values hvalues ↦ hsound.form_pos hvalues⟩, gains, hsolution,
    fun other hother ↦ hsound.cost_lt hgains hother, hsound.gains_pos hgains, ?_, ?_⟩
  · intro source halone
    refine hsound.gain_alone hgains fun other hother ↦ ?_
    rw [weight, if_neg (Ne.symm hother)]
    exact count_eq_zero (Ne.symm hother) fun pixel hpixel ↦ halone pixel hpixel other hother
  · intro hequal
    refine hsound.gains_equal hgains fun left right hpair hweight ↦ hequal left right hpair ?_
    rwa [weight, if_neg hpair] at hweight

/-- A pixel that shows two sources, and one that shows a third source twice. -/
def spotPixels : List (List (Fin 3 × ℚ)) :=
  [[(0, 100), (1, 50)], [(2, 7), (2, 9)]]

/-- The brighter source is darkened and the other one brightened, as cheaply as possible, and the
third one stays as it is. -/
theorem spot_balanced : ∃ gains : Fin 3 → ℚ, List.ofFn gains = [7 / 9, 10 / 9, 1] ∧
    (measured spotPixels).solution? = some (List.ofFn gains) ∧
      ∀ other ≠ gains, cost (measured spotPixels).weight (measured spotPixels).mean gains
        < cost (measured spotPixels).weight (measured spotPixels).mean other := by
  have hbright : ∀ pixel ∈ spotPixels, ∀ contribution ∈ pixel, 0 ≤ contribution.2 := by
    decide +kernel
  have hsolution : (measured spotPixels).solution? = some [7 / 9, 10 / 9, 1] := by
    decide +kernel
  obtain ⟨_, gains, hgains, hleast, _⟩ := gains_balance hbright
  refine ⟨gains, ?_, hgains, hleast⟩
  rw [hgains] at hsolution
  exact Option.some.inj hsolution

end Panorama.Overlap
