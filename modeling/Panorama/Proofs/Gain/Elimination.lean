import Mathlib
import Panorama.Gain.LeastSquares
import Panorama.Proofs.Gain.Measuring
import Panorama.Proofs.Number.Fields

/-!
# Elimination

In exact arithmetic, elimination with row pivoting solves every system that has as many equations as
unknowns and, with zeros as right-hand sides, no other solution than zeros. The induction is on the
number of unknowns: what is left when an unknown drops out is such a system again, since its
solutions extend to those of the whole system. Read `exists_solve` first.
-/

namespace Panorama.LinearEquation

/-! ### Equations -/

/-- An equation that has an unknown has a first coefficient. -/
theorem exists_cons {α : Type} {equation : LinearEquation α} {unknowns : Nat}
    (h : equation.coefficients.length = unknowns + 1) :
    ∃ leading coefficients constant, equation = ⟨leading :: coefficients, constant⟩ ∧
      coefficients.length = unknowns := by
  obtain ⟨coefficients, constant⟩ := equation
  cases coefficients with
  | nil => cases h
  | cons leading coefficients =>
      exact ⟨leading, coefficients, constant, rfl, Nat.succ.inj h⟩

/-- As many equations as unknowns, with a coefficient for each. -/
structure Square {α : Type} (unknowns : Nat) (equations : List (LinearEquation α)) : Prop where
  count : equations.length = unknowns
  width : ∀ equation ∈ equations, equation.coefficients.length = unknowns

/-- The order of the equations does not matter for that. -/
theorem Square.perm {α : Type} {unknowns : Nat} {equations others : List (LinearEquation α)}
    (h : Square unknowns equations) (hperm : equations.Perm others) : Square unknowns others :=
  ⟨hperm.length_eq.symm.trans h.count, fun equation hequation ↦
    h.width equation (hperm.mem_iff.mpr hequation)⟩

section Fields

variable {K : Type} [Field K]

/-- The left-hand side of an equation. -/
def combine (coefficients values : List K) : K :=
  (List.zipWith (· * ·) coefficients values).sum

/-- The values solve the equation. -/
def Holds (equation : LinearEquation K) (values : List K) : Prop :=
  combine equation.coefficients values = equation.constant

/-- The first unknown adds its own term. -/
theorem combine_cons (coefficient value : K) (coefficients values : List K) :
    combine (coefficient :: coefficients) (value :: values)
      = coefficient * value + combine coefficients values :=
  List.sum_cons

/-- With zeros for the unknowns, nothing is left. -/
theorem combine_zeros (coefficients : List K) (count : Nat) :
    combine coefficients (List.replicate count 0) = 0 := by
  induction coefficients generalizing count with
  | nil => rfl
  | cons coefficient coefficients ih =>
      cases count with
      | zero => rfl
      | succ count => rw [List.replicate_succ, combine_cons, ih, mul_zero, add_zero]

/-- Subtracting a multiple of an equation subtracts that of its left-hand side. -/
theorem combine_eliminated {above own : List K} (factor : K) (hlength : above.length = own.length)
    (values : List K) :
    combine (List.zipWith (fun above own ↦ -above * factor + own) above own) values
      = combine own values - factor * combine above values := by
  induction above generalizing own values with
  | nil =>
      cases own with
      | nil => simp [combine]
      | cons _ _ => cases hlength
  | cons first above ih =>
      cases own with
      | nil => cases hlength
      | cons second own =>
          cases values with
          | nil => simp [combine]
          | cons value values =>
              rw [List.zipWith_cons_cons, combine_cons, combine_cons, combine_cons,
                ih (Nat.succ.inj hlength)]
              ring

/-- Back substitution subtracts the terms of the later unknowns. -/
theorem back_substituted (above solution : List K) (constant : K) :
    (solution.zip above).foldr
        (fun (value, coefficient) constant ↦ -value * coefficient + constant) constant
      = constant - combine above solution := by
  induction solution generalizing above with
  | nil => simp [combine]
  | cons value solution ih =>
      cases above with
      | nil => simp [combine]
      | cons coefficient above =>
          rw [List.zip_cons_cons, List.foldr_cons, ih above, combine_cons]
          ring

/-- The value of the leading unknown that the pivot equation gives solves it. -/
theorem holds_pivot {diagonal constant : K} {above : List K} (hdiagonal : diagonal ≠ 0)
    (values : List K) :
    Holds ⟨diagonal :: above, constant⟩
      ((constant - combine above values) / diagonal :: values) := by
  show combine (diagonal :: above) _ = constant
  rw [combine_cons, mul_div_cancel₀ _ hdiagonal]
  ring

/-- With zeros as right-hand sides, only zeros solve the equations. -/
def Regular (unknowns : Nat) (equations : List (LinearEquation K)) : Prop :=
  ∀ values : List K, values.length = unknowns →
    (∀ equation ∈ equations, combine equation.coefficients values = 0) →
      values = List.replicate unknowns 0

/-- Nor does the order matter for regular systems. -/
theorem Regular.perm {unknowns : Nat} {equations others : List (LinearEquation K)}
    (h : Regular unknowns equations) (hperm : equations.Perm others) : Regular unknowns others :=
  fun values hlength hzero ↦ h values hlength fun equation hequation ↦
    hzero equation (hperm.mem_iff.mp hequation)

end Fields

variable {K : Type} [Field K] [LinearOrder K] [IsStrictOrderedRing K] [FloorRing K]
  {unknowns : Nat} {equations rest : List (LinearEquation K)}

attribute [local instance] Arithmetic.exact
attribute [local instance (10)] Arithmetic.toAdd Arithmetic.toSub Arithmetic.toMul Arithmetic.toDiv
  Arithmetic.toNeg

/-! ### The pivot -/

/-- The size of the leading coefficient. -/
def leadingSize (equation : LinearEquation K) : K :=
  |equation.coefficients.headD 0|

/-- The largest leading coefficient is the best one so far, or that of an equation at its
position. -/
theorem pivot_from_spec (best : Nat) (size : K) (position : Nat)
    (equations : List (LinearEquation K)) :
    (pivotFrom best size position equations = best ∧
      ∀ equation ∈ equations, equation.leadingSize ≤ size) ∨
    ∃ offset largest, pivotFrom best size position equations = position + offset ∧
      equations[offset]? = some largest ∧ size ≤ largest.leadingSize ∧
        ∀ equation ∈ equations, equation.leadingSize ≤ largest.leadingSize := by
  induction equations generalizing best size position with
  | nil => exact .inl ⟨rfl, nofun⟩
  | cons equation equations ih =>
      unfold pivotFrom
      dsimp only
      rw [Arithmetic.exact_abs, Arithmetic.exact_zero]
      split
      · rename_i hless
        have hlarger : size < equation.leadingSize := Arithmetic.exact_less.mp hless
        rcases ih position equation.leadingSize (position + 1) with
          ⟨hresult, hothers⟩ | ⟨offset, largest, hresult, hlargest, hsize, hothers⟩
        · refine .inr ⟨0, equation, hresult, rfl, hlarger.le, ?_⟩
          exact List.forall_mem_cons.mpr ⟨le_rfl, hothers⟩
        · refine .inr ⟨offset + 1, largest, hresult.trans (by omega), hlargest,
            hlarger.le.trans hsize, ?_⟩
          exact List.forall_mem_cons.mpr ⟨hsize, hothers⟩
      · rename_i hless
        have hsmaller : equation.leadingSize ≤ size :=
          not_lt.mp (mt Arithmetic.exact_less.mpr hless)
        rcases ih best size (position + 1) with
          ⟨hresult, hothers⟩ | ⟨offset, largest, hresult, hlargest, hsize, hothers⟩
        · exact .inl ⟨hresult, List.forall_mem_cons.mpr ⟨hsmaller, hothers⟩⟩
        · refine .inr ⟨offset + 1, largest, by omega, hlargest, hsize, ?_⟩
          exact List.forall_mem_cons.mpr ⟨hsmaller.trans hsize, hothers⟩

/-- Exchanging the first item of a list with a later one keeps the items. -/
theorem exchange_perm {α : Type} {items : List α} {first item : α} {offset : Nat}
    (h : items[offset]? = some item) :
    (item :: items.set offset first).Perm (first :: items) := by
  obtain ⟨hoffset, rfl⟩ := List.getElem?_eq_some_iff.mp h
  have hset := (List.set_perm_cons_eraseIdx hoffset first).cons items[offset]
  have herased := (List.getElem_cons_eraseIdx_perm hoffset).cons first
  exact (hset.trans (.swap ..)).trans herased

/-- Choosing a pivot keeps the equations, and no leading coefficient is larger than that of the
pivot. -/
theorem exists_pivot (first : LinearEquation K) (rest : List (LinearEquation K)) :
    ∃ pivot others, choosePivot (first :: rest) = some (pivot, others) ∧
      (pivot :: others).Perm (first :: rest) ∧
        ∀ equation ∈ first :: rest, equation.leadingSize ≤ pivot.leadingSize := by
  have hsize : Arithmetic.abs (first.coefficients.headD Arithmetic.zero) = first.leadingSize := by
    rw [Arithmetic.exact_abs, Arithmetic.exact_zero, leadingSize]
  unfold choosePivot
  dsimp only
  rw [hsize]
  rcases pivot_from_spec 0 first.leadingSize 1 rest with
    ⟨hresult, hothers⟩ | ⟨offset, largest, hresult, hlargest, hlarger, hothers⟩
  · rw [hresult]
    exact ⟨first, rest, rfl, .refl _, List.forall_mem_cons.mpr ⟨le_rfl, hothers⟩⟩
  · rw [hresult, Nat.add_comm]
    dsimp only
    rw [hlargest]
    exact ⟨largest, _, rfl, exchange_perm hlargest, List.forall_mem_cons.mpr ⟨hlarger, hothers⟩⟩

/-! ### Dropping an unknown -/

/-- With this value, another equation is solved as what is left of it is. -/
theorem holds_iff_eliminated {diagonal pivotConstant leading constant : K}
    {above own values : List K} (hlength : above.length = own.length) :
    Holds ⟨leading :: own, constant⟩ ((pivotConstant - combine above values) / diagonal :: values)
      ↔ Holds (eliminate ⟨diagonal :: above, pivotConstant⟩ (1 / diagonal)
        ⟨leading :: own, constant⟩) values := by
  show combine (leading :: own) _ = constant ↔
    combine (List.zipWith (fun above own ↦ -above * (leading * (1 / diagonal)) + own) above own)
        values
      = -pivotConstant * (leading * (1 / diagonal)) + constant
  rw [combine_cons, combine_eliminated _ hlength]
  have hterm : leading * ((pivotConstant - combine above values) / diagonal)
      = leading * (1 / diagonal) * pivotConstant
        - leading * (1 / diagonal) * combine above values := by
    ring
  rw [hterm]
  constructor
  · intro h
    linarith
  · intro h
    linarith

/-! ### Regular systems -/

/-- A regular system has a pivot that is not zero. -/
theorem Regular.pivot_ne_zero {diagonal pivotConstant : K} {above : List K}
    (hregular : Regular (unknowns + 1) equations) (hsquare : Square (unknowns + 1) equations)
    (hlargest : ∀ equation ∈ equations,
      equation.leadingSize ≤ leadingSize ⟨diagonal :: above, pivotConstant⟩) : diagonal ≠ 0 := by
  rintro rfl
  -- Otherwise the leading unknown is in no equation, and may be one.
  have hvalues := hregular (1 :: List.replicate unknowns 0) (by simp) fun equation hequation ↦ by
    obtain ⟨own, coefficients, constant, rfl, _⟩ := exists_cons (hsquare.width equation hequation)
    have hown : |own| ≤ |(0 : K)| := hlargest _ hequation
    rw [abs_zero, abs_nonpos_iff] at hown
    rw [combine_cons, combine_zeros, hown, zero_mul, add_zero]
  rw [List.replicate_succ, List.cons.injEq] at hvalues
  exact one_ne_zero hvalues.1

/-- What is left when an unknown drops out is regular. -/
theorem Regular.eliminate {diagonal pivotConstant : K} {above : List K}
    (hregular : Regular (unknowns + 1) (⟨diagonal :: above, pivotConstant⟩ :: rest))
    (hsquare : Square (unknowns + 1) (⟨diagonal :: above, pivotConstant⟩ :: rest))
    (hdiagonal : diagonal ≠ 0) :
    Regular unknowns
      (rest.map (LinearEquation.eliminate ⟨diagonal :: above, pivotConstant⟩ (1 / diagonal))) := by
  intro values hlength hzero
  obtain ⟨habove, hothers⟩ := List.forall_mem_cons.mp hsquare.width
  have hvalues := hregular ((0 - combine above values) / diagonal :: values)
    (congrArg Nat.succ hlength) <| List.forall_mem_cons.mpr ⟨holds_pivot hdiagonal values, ?_⟩
  · rw [List.replicate_succ, List.cons.injEq] at hvalues
    exact hvalues.2
  · intro equation hequation
    obtain ⟨own, coefficients, constant, rfl, hwidth⟩ := exists_cons (hothers equation hequation)
    have hleft := hzero _ (List.mem_map_of_mem hequation)
    have hholds : Holds ⟨own :: coefficients, 0⟩
        ((0 - combine above values) / diagonal :: values) := by
      rw [holds_iff_eliminated ((Nat.succ.inj habove).trans hwidth.symm)]
      show _ = -0 * (own * (1 / diagonal)) + 0
      rw [neg_zero, zero_mul, add_zero]
      exact hleft
    exact hholds

/-- What is left has one equation and one coefficient less. -/
theorem Square.eliminate {diagonal pivotConstant : K} {above : List K}
    (hsquare : Square (unknowns + 1) (⟨diagonal :: above, pivotConstant⟩ :: rest)) :
    Square unknowns
      (rest.map (LinearEquation.eliminate ⟨diagonal :: above, pivotConstant⟩ (1 / diagonal))) := by
  obtain ⟨habove, hothers⟩ := List.forall_mem_cons.mp hsquare.width
  refine ⟨?_, ?_⟩
  · rw [List.length_map]
    exact Nat.succ.inj hsquare.count
  · intro equation hequation
    obtain ⟨other, hother, rfl⟩ := List.mem_map.mp hequation
    obtain ⟨own, coefficients, constant, rfl, hwidth⟩ := exists_cons (hothers other hother)
    show (List.zipWith _ above coefficients).length = unknowns
    rw [List.length_zipWith, Nat.succ.inj habove, hwidth, Nat.min_self]

/-- What elimination does with a pivot that is not zero. -/
theorem solve_succ {diagonal constant : K} {above solution : List K}
    (hpivot : choosePivot equations = some (⟨diagonal :: above, constant⟩, rest))
    (hdiagonal : diagonal ≠ 0)
    (hsolution : solve unknowns
      (rest.map (LinearEquation.eliminate ⟨diagonal :: above, constant⟩ (1 / diagonal)))
        = some solution) :
    solve (unknowns + 1) equations
      = some ((constant - combine above solution) / diagonal :: solution) := by
  rw [← back_substituted]
  unfold solve
  rw [hpivot]
  simp only [Option.bind_eq_bind, Option.bind_some, List.head?_cons, Arithmetic.exact_zero,
    Arithmetic.exact_one, hsolution]
  rw [if_neg (mt Arithmetic.exact_same.mp hdiagonal)]
  rfl

/-- Elimination solves a regular system. -/
theorem exists_solve (hsquare : Square unknowns equations) (hregular : Regular unknowns equations) :
    ∃ solution, solve unknowns equations = some solution ∧
      ∀ equation ∈ equations, equation.Holds solution := by
  induction unknowns generalizing equations with
  | zero =>
      refine ⟨[], rfl, ?_⟩
      rw [List.length_eq_zero_iff.mp hsquare.count]
      exact nofun
  | succ unknowns ih =>
      obtain ⟨first, others, rfl⟩ := List.exists_cons_of_length_eq_add_one hsquare.count
      obtain ⟨pivot, rest, hpivot, hperm, hlargest⟩ := exists_pivot first others
      have hsquare := hsquare.perm hperm.symm
      have hregular := hregular.perm hperm.symm
      obtain ⟨diagonal, above, constant, rfl, habove⟩ :=
        exists_cons (hsquare.width pivot List.mem_cons_self)
      have hdiagonal := hregular.pivot_ne_zero hsquare fun equation hequation ↦
        hlargest equation (hperm.mem_iff.mp hequation)
      obtain ⟨solution, hsolution, hholds⟩ :=
        ih hsquare.eliminate (hregular.eliminate hsquare hdiagonal)
      refine ⟨(constant - combine above solution) / diagonal :: solution, ?_, ?_⟩
      · exact solve_succ hpivot hdiagonal hsolution
      · intro equation hequation
        rcases List.mem_cons.mp (hperm.mem_iff.mpr hequation) with rfl | hrest
        · exact holds_pivot hdiagonal solution
        · obtain ⟨own, coefficients, constant, rfl, hwidth⟩ :=
            exists_cons (hsquare.width equation (List.mem_cons_of_mem _ hrest))
          exact (holds_iff_eliminated (habove.trans hwidth.symm)).mpr
            (hholds _ (List.mem_map_of_mem hrest))

end Panorama.LinearEquation
