import Panorama.Blend
import Panorama.Proofs.Failing
import Panorama.Proofs.Number.Order

/-!
# What contributions blend to

The dominant contribution is the first one that none is heavier than. A blend has a value if all
contributions have one.
-/

namespace Panorama.Blend

open Number (singleKey single_lt_iff)

/-- No contribution is heavier than this one. -/
def isHeaviest (entry : List Sample) (sample : Sample) : Bool :=
  entry.all fun other ↦ !(sample.weight < other.weight)

/-- The first contribution that none is heavier than. -/
def heaviest? (entry : List Sample) : Option Sample :=
  entry.find? (isHeaviest entry)

/-- The dominant contribution is one of the given ones. -/
theorem dominant_mem (first : Sample) (others : List Sample) :
    dominant first others ∈ first :: others := by
  induction others generalizing first with
  | nil => exact List.mem_singleton_self first
  | cons sample others ih =>
      show dominant (if first.weight < sample.weight then sample else first) others ∈ _
      split
      · exact List.mem_cons_of_mem _ (ih sample)
      · rcases List.mem_cons.mp (ih first) with hfirst | hother
        · rw [hfirst]
          exact List.mem_cons_self
        · exact List.mem_cons_of_mem _ (List.mem_cons_of_mem _ hother)

/-- Running through further contributions, the dominant one is at least as heavy as all of them,
and what stands in front of it is lighter. -/
theorem dominant_split (first : Sample) (others : List Sample)
    (hfinite : ∀ sample ∈ first :: others, sample.weight.isFinite) :
    ∃ front back, first :: others = front ++ dominant first others :: back ∧
      (∀ sample ∈ front, singleKey sample.weight < singleKey (dominant first others).weight) ∧
        ∀ sample ∈ first :: others,
          singleKey sample.weight ≤ singleKey (dominant first others).weight := by
  induction others using List.reverseRecOn with
  | nil => exact ⟨[], [], rfl, by simp, by simp [dominant]⟩
  | append_singleton others last ih =>
      obtain ⟨front, back, hsplit, hfront, hall⟩ := ih fun sample hsample ↦
        hfinite sample (List.mem_append_left [last] hsample)
      have hlast : last.weight.isFinite := hfinite last (by simp)
      have hbest : (dominant first others).weight.isFinite :=
        hfinite _ (List.mem_append_left [last] (dominant_mem first others))
      have hdominant : dominant first (others ++ [last])
          = if (dominant first others).weight < last.weight then last
            else dominant first others := by
        rw [dominant, List.foldl_append]
        rfl
      -- A heavier last contribution wins, and then all the others stand in front of it.
      by_cases hheavier : (dominant first others).weight < last.weight
      · rw [if_pos hheavier] at hdominant
        rw [single_lt_iff hbest hlast] at hheavier
        refine ⟨first :: others, [], by rw [hdominant]; rfl, ?_⟩
        rw [hdominant]
        refine ⟨fun sample hsample ↦ (hall sample hsample).trans_lt hheavier,
          fun sample hsample ↦ ?_⟩
        rcases List.mem_append.mp (show sample ∈ (first :: others) ++ [last] from hsample) with
          hbefore | hsame
        · exact ((hall sample hbefore).trans_lt hheavier).le
        · rw [List.mem_singleton.mp hsame]
      · rw [if_neg hheavier] at hdominant
        rw [single_lt_iff hbest hlast, not_lt] at hheavier
        refine ⟨front, back ++ [last], ?_, ?_⟩
        · rw [hdominant, ← List.cons_append, hsplit, List.append_assoc]
          rfl
        · rw [hdominant]
          refine ⟨hfront, fun sample hsample ↦ ?_⟩
          rcases List.mem_append.mp (show sample ∈ (first :: others) ++ [last] from hsample) with
            hbefore | hsame
          · exact hall sample hbefore
          · rw [List.mem_singleton.mp hsame]
            exact hheavier

/-- The dominant one of finite contributions is the first that none is heavier than. -/
theorem heaviest_eq_dominant (first : Sample) (others : List Sample)
    (hfinite : ∀ sample ∈ first :: others, sample.weight.isFinite) :
    heaviest? (first :: others) = some (dominant first others) := by
  obtain ⟨front, back, hsplit, hfront, hall⟩ := dominant_split first others hfinite
  have hbest := hfinite _ (dominant_mem first others)
  have hnone : front.find? (isHeaviest (first :: others)) = none := by
    refine List.find?_eq_none.mpr fun sample hsample hheaviest ↦ ?_
    have hmem : sample ∈ first :: others := hsplit ▸ List.mem_append_left _ hsample
    have hlight := List.all_eq_true.mp hheaviest _ (dominant_mem first others)
    rw [Bool.not_eq_true', decide_eq_false_iff_not, single_lt_iff (hfinite _ hmem) hbest] at hlight
    exact hlight (hfront sample hsample)
  have hdominant : isHeaviest (first :: others) (dominant first others) = true := by
    refine List.all_eq_true.mpr fun other hother ↦ ?_
    rw [Bool.not_eq_true', decide_eq_false_iff_not, single_lt_iff hbest (hfinite _ hother), not_lt]
    exact hall other hother
  rw [heaviest?, show List.find? (isHeaviest (first :: others)) (first :: others)
    = List.find? (isHeaviest (first :: others)) (front ++ dominant first others :: back) from
      congrArg _ hsplit, List.find?_append, hnone, List.find?_cons_of_pos hdominant]
  rfl

/-! ### Values -/

variable {value? : Sample → Option Float32} {round : Float32 → UInt8} {blank : UInt8}

/-- What the contributions of a pixel come to: nothing for none, the value of a single one whatever
its weight, and for several the weighted sum in their order or the value of the first heaviest. -/
def combine? (mode : BlendMode) (blank : UInt8) (value? : Sample → Option Float32)
    (round : Float32 → UInt8) (entry : List Sample) : Option UInt8 :=
  match entry, mode with
  | [], _ => some blank
  | [only], _ => (value? only).map round
  | several, .hardSeam => do return round (← value? (← heaviest? several))
  | several, .weighted => do
    let values ← several.mapM value?
    let terms := List.zipWith (fun sample value ↦ sample.weight * value) several values
    return round (terms.foldl (· + ·) 0)

/-- The weighted values of contributions are their weights times their values. -/
theorem weighted_values (entry : List Sample) :
    (entry.mapM fun sample ↦ do return sample.weight * (← value? sample))
      = (entry.mapM value?).map
          (List.zipWith (fun sample value ↦ sample.weight * value) entry) := by
  induction entry with
  | nil => rfl
  | cons sample entry ih =>
      rw [List.mapM_cons, List.mapM_cons, ih]
      cases value? sample with
      | none => rfl
      | some value => cases entry.mapM value? <;> rfl

/-- The value of a blend is what finite contributions come to. -/
theorem evaluate_eq_combine (mode : BlendMode) (entry : List Sample)
    (hfinite : ∀ sample ∈ entry, sample.weight.isFinite) :
    (of mode entry).evaluate? blank value? round = combine? mode blank value? round entry := by
  cases entry with
  | nil => rfl
  | cons first others =>
      cases others with
      | nil => rfl
      | cons second others =>
          cases mode with
          | hardSeam =>
              unfold combine?
              dsimp only [of, evaluate?]
              rw [heaviest_eq_dominant first (second :: others) hfinite]
              simp only [Option.bind_eq_bind, Option.bind_some]
              cases value? (dominant first (second :: others)) <;> rfl
          | weighted =>
              unfold combine?
              dsimp only [of, evaluate?]
              rw [weighted_values]
              cases (first :: second :: others).mapM value? <;> rfl

/-- A blend has a value if its contributions have one. -/
theorem exists_evaluate (mode : BlendMode) (entry : List Sample)
    (h : ∀ sample ∈ entry, ∃ value, value? sample = some value) :
    ∃ byte, (of mode entry).evaluate? blank value? round = some byte := by
  cases entry with
  | nil => exact ⟨_, rfl⟩
  | cons first others =>
      have hsingle (sample : Sample) (hsample : sample ∈ first :: others) :
          ∃ byte, (Blend.single sample).evaluate? blank value? round = some byte := by
        obtain ⟨value, hvalue⟩ := h sample hsample
        exact ⟨_, congrArg (Option.map round) hvalue⟩
      cases others with
      | nil => exact hsingle first List.mem_cons_self
      | cons second others =>
          cases mode with
          | hardSeam => exact hsingle _ (dominant_mem first (second :: others))
          | weighted =>
              obtain ⟨values, hvalues⟩ := Failing.exists_map_eq_some h
              dsimp only [of, evaluate?]
              rw [weighted_values, hvalues]
              exact ⟨_, rfl⟩

end Panorama.Blend
