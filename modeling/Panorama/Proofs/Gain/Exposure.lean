import Mathlib

/-!
# Balancing exposures

The theory of the least-squares problem that gains come from. Pairs of sources have symmetric
weights and mean brightness, and every source has a pair with itself. Half the derivatives of the
cost are linear in the gains, with a symmetric positive definite matrix, so that the cost has one
minimum, where they vanish. The matrix has no positive entry off its diagonal, and so the gains of
the minimum are positive: their absolute values would not cost more. Read `Sound.cost_lt` first.
-/

namespace Panorama.Exposure

open Matrix

section Definitions

variable {K : Type} [Field K] {sources : Nat}

/-- What gains cost: the weighted sum over all ordered pairs of the squared difference that they
leave in brightness, over the variance of brightness, and of the squared distance of the first gain
from one, over the variance of gains. -/
def cost (weight mean : Fin sources → Fin sources → K) (gains : Fin sources → K) : K :=
  ∑ left, ∑ right, weight left right *
    ((gains left * mean left right - gains right * mean right left) ^ 2 / 10 ^ 2
      + (1 - gains left) ^ 2 / (1 / 10) ^ 2)

/-- The coefficients of the gains in half the derivatives of the cost. -/
def matrix (weight mean : Fin sources → Fin sources → K) : Matrix (Fin sources) (Fin sources) K :=
  fun left right ↦
    (if left = right then ∑ other, weight left other * (100 + mean left other ^ 2 / 50) else 0)
      - weight left right * mean left right * mean right left / 50

/-- What is on the other side where the derivatives vanish. -/
def constants (weight : Fin sources → Fin sources → K) (left : Fin sources) : K :=
  ∑ right, 100 * weight left right

end Definitions

variable {K : Type} [Field K] [LinearOrder K] [IsStrictOrderedRing K] {sources : Nat}
  {weight mean : Fin sources → Fin sources → K} {gains other : Fin sources → K}

/-- Symmetric weights that are not negative, one for every source with itself, and mean brightness
that is not negative. -/
structure Sound (weight mean : Fin sources → Fin sources → K) : Prop where
  symm : ∀ left right, weight left right = weight right left
  nonneg : ∀ left right, 0 ≤ weight left right
  self : ∀ source, weight source source = 1
  bright : ∀ left right, left ≠ right → 0 ≤ mean left right

/-- A row of the matrix applied to gains. -/
theorem matrix_apply (weight mean : Fin sources → Fin sources → K) (gains : Fin sources → K)
    (left : Fin sources) : (matrix weight mean *ᵥ gains) left
      = ∑ right, weight left right * ((100 + mean left right ^ 2 / 50) * gains left
        - mean left right * mean right left / 50 * gains right) := by
  simp only [mulVec, dotProduct, matrix, sub_mul, ite_mul, zero_mul, Finset.sum_sub_distrib,
    Finset.sum_ite_eq, Finset.mem_univ, if_true, mul_sub, Finset.sum_mul]
  congr 1
  · exact Finset.sum_congr rfl fun right _ ↦ by ring
  · exact Finset.sum_congr rfl fun right _ ↦ by ring

/-- The matrix is symmetric. -/
theorem Sound.matrix_symm (h : Sound weight mean) : (matrix weight mean).IsSymm := by
  ext left right
  simp only [transpose_apply, matrix, h.symm right left]
  by_cases hsame : left = right
  · rw [hsame]
  · rw [if_neg hsame, if_neg (Ne.symm hsame)]
    ring

/-- The quadratic form of the matrix is a sum of squares. -/
theorem Sound.form_eq (h : Sound weight mean) (gains : Fin sources → K) :
    gains ⬝ᵥ matrix weight mean *ᵥ gains = ∑ left, ∑ right, weight left right *
      (100 * gains left ^ 2
        + (gains left * mean left right - gains right * mean right left) ^ 2 / 100) := by
  -- The square of the second brightness of a pair is that of the first one of the opposite pair.
  have hopposite : ∑ left, ∑ right, weight left right * (gains right * mean right left) ^ 2
      = ∑ left, ∑ right, weight left right * (gains left * mean left right) ^ 2 := by
    rw [Finset.sum_comm]
    exact Finset.sum_congr rfl fun right _ ↦ Finset.sum_congr rfl fun left _ ↦ by
      rw [h.symm left right]
  have hterm (left right : Fin sources) : weight left right * (100 * gains left ^ 2
        + (gains left * mean left right - gains right * mean right left) ^ 2 / 100)
      = gains left * (weight left right * ((100 + mean left right ^ 2 / 50) * gains left
          - mean left right * mean right left / 50 * gains right))
        + (weight left right * (gains right * mean right left) ^ 2
          - weight left right * (gains left * mean left right) ^ 2) / 100 := by
    ring
  simp only [hterm, Finset.sum_add_distrib, ← Finset.sum_div, Finset.sum_sub_distrib, hopposite,
    sub_self, zero_div, add_zero]
  simp only [dotProduct, matrix_apply, Finset.mul_sum]

/-- No pair makes the quadratic form smaller. -/
theorem Sound.term_nonneg (h : Sound weight mean) (gains : Fin sources → K)
    (left right : Fin sources) : 0 ≤ weight left right * (100 * gains left ^ 2
      + (gains left * mean left right - gains right * mean right left) ^ 2 / 100) :=
  mul_nonneg (h.nonneg left right) (by positivity)

/-- The matrix is positive definite. -/
theorem Sound.form_pos (h : Sound weight mean) (hgains : gains ≠ 0) :
    0 < gains ⬝ᵥ matrix weight mean *ᵥ gains := by
  obtain ⟨source, hsource⟩ := Function.ne_iff.mp hgains
  have hgain : gains source ≠ 0 := hsource
  rw [h.form_eq]
  refine Finset.sum_pos'
    (fun left _ ↦ Finset.sum_nonneg fun right _ ↦ h.term_nonneg gains left right)
    ⟨source, Finset.mem_univ source, ?_⟩
  refine Finset.sum_pos' (fun right _ ↦ h.term_nonneg gains source right)
    ⟨source, Finset.mem_univ source, ?_⟩
  rw [h.self, one_mul]
  positivity

/-- The cost is the quadratic form, less a linear part, up to a constant. -/
theorem Sound.cost_eq (h : Sound weight mean) (gains : Fin sources → K) :
    cost weight mean gains = gains ⬝ᵥ matrix weight mean *ᵥ gains
      - 2 * (constants weight ⬝ᵥ gains) + ∑ left, ∑ right, 100 * weight left right := by
  have hterm (left right : Fin sources) : weight left right *
        ((gains left * mean left right - gains right * mean right left) ^ 2 / 10 ^ 2
          + (1 - gains left) ^ 2 / (1 / 10) ^ 2)
      = weight left right * (100 * gains left ^ 2
          + (gains left * mean left right - gains right * mean right left) ^ 2 / 100)
        - 2 * (100 * weight left right * gains left) + 100 * weight left right := by
    ring
  unfold cost
  simp only [hterm, Finset.sum_add_distrib, Finset.sum_sub_distrib, ← h.form_eq, dotProduct,
    constants, Finset.sum_mul, Finset.mul_sum]

/-- Where the derivatives vanish, other gains cost more by the quadratic form of the difference. -/
theorem Sound.cost_sub (h : Sound weight mean)
    (hgains : matrix weight mean *ᵥ gains = constants weight) (other : Fin sources → K) :
    cost weight mean other - cost weight mean gains
      = (other - gains) ⬝ᵥ matrix weight mean *ᵥ (other - gains) := by
  have hcross : gains ⬝ᵥ matrix weight mean *ᵥ other = constants weight ⬝ᵥ other := by
    rw [dotProduct_mulVec, ← mulVec_transpose, h.matrix_symm, hgains]
  rw [h.cost_eq, h.cost_eq, mulVec_sub, sub_dotProduct, dotProduct_sub, dotProduct_sub, hcross,
    hgains, dotProduct_comm other (constants weight), dotProduct_comm gains (constants weight)]
  ring

/-- Only there the cost is least. -/
theorem Sound.cost_lt (h : Sound weight mean)
    (hgains : matrix weight mean *ᵥ gains = constants weight) (hother : other ≠ gains) :
    cost weight mean gains < cost weight mean other := by
  have hmore := h.form_pos (sub_ne_zero.mpr hother)
  rw [← h.cost_sub hgains] at hmore
  exact sub_pos.mp hmore

/-- Absolute values of gains do not cost more. -/
theorem Sound.cost_abs (h : Sound weight mean) (gains : Fin sources → K) :
    cost weight mean (fun source ↦ |gains source|) ≤ cost weight mean gains := by
  have hpair (left right : Fin sources) :
      (|gains left| * mean left right - |gains right| * mean right left) ^ 2
        ≤ (gains left * mean left right - gains right * mean right left) ^ 2 := by
    by_cases hsame : left = right
    · rw [hsame, sub_self, sub_self]
    · have hleft : |gains left| * mean left right = |gains left * mean left right| := by
        rw [abs_mul, abs_of_nonneg (h.bright left right hsame)]
      have hright : |gains right| * mean right left = |gains right * mean right left| := by
        rw [abs_mul, abs_of_nonneg (h.bright right left (Ne.symm hsame))]
      rw [hleft, hright]
      exact sq_le_sq.mpr (abs_abs_sub_abs_le _ _)
  have hprior (source : Fin sources) : (1 - |gains source|) ^ 2 ≤ (1 - gains source) ^ 2 := by
    have hdistance := abs_abs_sub_abs_le 1 (gains source)
    rw [abs_one] at hdistance
    exact sq_le_sq.mpr hdistance
  refine Finset.sum_le_sum fun left _ ↦ Finset.sum_le_sum fun right _ ↦ ?_
  refine mul_le_mul_of_nonneg_left ?_ (h.nonneg left right)
  exact add_le_add (div_le_div_of_nonneg_right (hpair left right) (by positivity))
    (div_le_div_of_nonneg_right (hprior left) (by positivity))

/-- The other side is positive. -/
theorem Sound.constants_pos (h : Sound weight mean) (source : Fin sources) :
    0 < constants weight source := by
  refine Finset.sum_pos' (fun right _ ↦ mul_nonneg (by norm_num) (h.nonneg source right))
    ⟨source, Finset.mem_univ source, ?_⟩
  rw [h.self]
  norm_num

/-- Where the derivatives vanish, the gains are positive. -/
theorem Sound.gains_pos (h : Sound weight mean)
    (hgains : matrix weight mean *ᵥ gains = constants weight) (source : Fin sources) :
    0 < gains source := by
  have habs : (fun source ↦ |gains source|) = gains := by
    by_contra hdifferent
    exact absurd (h.cost_lt hgains hdifferent) (not_lt.mpr (h.cost_abs gains))
  have hnonneg (other : Fin sources) : 0 ≤ gains other := by
    rw [← congrFun habs other]
    exact abs_nonneg _
  refine (hnonneg source).lt_of_ne' fun hzero ↦ ?_
  -- A gain of zero leaves only entries off the diagonal, none of which is positive.
  have hrow : (matrix weight mean *ᵥ gains) source ≤ 0 := by
    rw [matrix_apply]
    refine Finset.sum_nonpos fun right _ ↦ mul_nonpos_of_nonneg_of_nonpos (h.nonneg source right) ?_
    rw [hzero, mul_zero, zero_sub, neg_nonpos]
    by_cases hsame : source = right
    · rw [← hsame, hzero, mul_zero]
    · exact mul_nonneg (div_nonneg (mul_nonneg (h.bright source right hsame)
        (h.bright right source (Ne.symm hsame))) (by norm_num)) (hnonneg right)
  rw [hgains] at hrow
  exact absurd (h.constants_pos source) (not_lt.mpr hrow)

/-- A source that has no weight beside other ones keeps a gain of one. -/
theorem Sound.gain_alone (h : Sound weight mean)
    (hgains : matrix weight mean *ᵥ gains = constants weight) {source : Fin sources}
    (halone : ∀ right, right ≠ source → weight source right = 0) : gains source = 1 := by
  have hrow := congrFun hgains source
  rw [matrix_apply, constants, Finset.sum_eq_single source, Finset.sum_eq_single source, h.self]
    at hrow
  · linarith
  · intro right _ hright
    rw [halone right hright, mul_zero]
  · exact fun hmissing ↦ absurd (Finset.mem_univ source) hmissing
  · intro right _ hright
    rw [halone right hright, zero_mul]
  · exact fun hmissing ↦ absurd (Finset.mem_univ source) hmissing

/-- If paired sources are equally bright, every gain is one. -/
theorem Sound.gains_equal (h : Sound weight mean)
    (hgains : matrix weight mean *ᵥ gains = constants weight)
    (hequal : ∀ left right, left ≠ right → weight left right ≠ 0 →
      mean left right = mean right left) : gains = 1 := by
  have hones : matrix weight mean *ᵥ (1 : Fin sources → K) = constants weight := by
    funext left
    rw [matrix_apply, constants]
    refine Finset.sum_congr rfl fun right _ ↦ ?_
    have hmeans : weight left right * mean right left = weight left right * mean left right := by
      by_cases hsame : left = right
      · rw [hsame]
      · by_cases hnone : weight left right = 0
        · rw [hnone, zero_mul, zero_mul]
        · rw [hequal left right hsame hnone]
    simp only [Pi.one_apply, mul_one]
    linear_combination (-(mean left right) / 50) * hmeans
  by_contra hdifferent
  exact lt_asymm (h.cost_lt hgains (Ne.symm hdifferent)) (h.cost_lt hones hdifferent)

end Panorama.Exposure
