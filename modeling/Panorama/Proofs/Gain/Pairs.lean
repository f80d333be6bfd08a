import Mathlib
import Panorama.Gain.Overlap
import Panorama.Proofs.Number.Fields

/-!
# Pairs of sources

What the statistics of overlaps come to in exact arithmetic: two sources are counted together once
for every contribution of the one and of the other to a pixel. So the counts are symmetric, and they
are zero for sources that share no pixel. Counts and sums change in the same way, with different
weights of a contribution (`read_observe`).
-/

namespace Panorama.Overlap

/-! ### Contributions -/

section Portions

variable {K : Type} [Field K] {sources : Nat} {weight : K → K} {pixel : List (Fin sources × K)}
  {source : Fin sources}

/-- What the contributions of a source to a pixel weigh in total. -/
def portion (weight : K → K) (pixel : List (Fin sources × K)) (source : Fin sources) : K :=
  (pixel.map fun contribution ↦
    if contribution.1 = source then weight contribution.2 else 0).sum

/-- A contribution weighs for its own source. -/
theorem portion_cons (weight : K → K) (source : Fin sources) (brightness : K)
    (later : List (Fin sources × K)) (other : Fin sources) :
    portion weight ((source, brightness) :: later) other
      = (if source = other then weight brightness else 0) + portion weight later other :=
  List.sum_cons

/-- A source that does not contribute to a pixel weighs nothing in it. -/
theorem portion_eq_zero (h : ∀ brightness, (source, brightness) ∉ pixel) :
    portion weight pixel source = 0 := by
  refine List.sum_eq_zero fun value hvalue ↦ ?_
  obtain ⟨⟨other, brightness⟩, hcontribution, rfl⟩ := List.mem_map.mp hvalue
  refine if_neg fun hsame ↦ h brightness ?_
  rwa [← hsame]

/-- What a source weighs in a pixel is not negative if none of its contributions is. -/
theorem portion_nonneg [LinearOrder K] [IsStrictOrderedRing K]
    (h : ∀ contribution ∈ pixel, 0 ≤ weight contribution.2) : 0 ≤ portion weight pixel source := by
  refine List.sum_nonneg fun value hvalue ↦ ?_
  obtain ⟨contribution, hcontribution, rfl⟩ := List.mem_map.mp hvalue
  split
  · exact h contribution hcontribution
  · exact le_rfl

/-- The brightness of the first source of a pair, summed over its pixels. -/
def total (overlap : Overlap K sources) (first second : Fin sources) : K :=
  (overlap.sums.get first).get second

/-- An entry of a square that one entry was added to. -/
theorem entry_set (entries : Vector (Vector K sources) sources) (first second : Fin sources)
    (added : K) (left right : Fin sources) :
    ((entries.set first ((entries.get first).set second ((entries.get first).get second + added)
      second.isLt) first.isLt).get left).get right
      = (entries.get left).get right + if first = left ∧ second = right then added else 0 := by
  by_cases hfirst : first = left
  · subst hfirst
    by_cases hsecond : second = right
    · subst hsecond
      simp [Vector.get_eq_getElem]
    · simp [hsecond, Vector.get_eq_getElem, Vector.getElem_set_ne, Fin.val_ne_of_ne hsecond]
  · simp [hfirst, Vector.get_eq_getElem, Vector.getElem_set_ne, Fin.val_ne_of_ne hfirst]

end Portions

variable {K : Type} [Field K] [LinearOrder K] [IsStrictOrderedRing K] [FloorRing K] {sources : Nat}

attribute [local instance] Arithmetic.exact
attribute [local instance (10)] Arithmetic.toAdd Arithmetic.toSub Arithmetic.toMul Arithmetic.toDiv
  Arithmetic.toNeg

/-- The statistics of several pixels. -/
def measured (pixels : List (List (Fin sources × K))) : Overlap K sources :=
  pixels.foldl observe empty

/-! ### Counting -/

/-- Counting a pair counts one pixel for it. -/
theorem count_add (overlap : Overlap K sources) (first second : Fin sources) (brightness : K)
    (left right : Fin sources) : (overlap.add first second brightness).count left right
      = overlap.count left right + if first = left ∧ second = right then 1 else 0 := by
  unfold count add
  rw [Arithmetic.exact_one]
  exact entry_set ..

/-- Counting a pair sums the brightness of its first source. -/
theorem total_add (overlap : Overlap K sources) (first second : Fin sources) (brightness : K)
    (left right : Fin sources) : (overlap.add first second brightness).total left right
      = overlap.total left right + if first = left ∧ second = right then brightness else 0 := by
  unfold total add
  exact entry_set ..

section Reading

variable {read : Overlap K sources → Fin sources → Fin sources → K} {weight : K → K}
  (hadd : ∀ (overlap : Overlap K sources) (first second : Fin sources) (brightness : K)
    (left right : Fin sources), read (overlap.add first second brightness) left right
      = read overlap left right + if first = left ∧ second = right then weight brightness else 0)

include hadd

/-- What is read of a pair changes with the later contributions of the other source. -/
theorem read_add_pairs (overlap : Overlap K sources) (first : Fin sources) (brightness : K)
    (later : List (Fin sources × K)) {left right : Fin sources} (hpair : left ≠ right) :
    read (overlap.addPairs first brightness later) left right = read overlap left right
      + ((if first = left then weight brightness * portion (fun _ ↦ 1) later right else 0)
        + if first = right then portion weight later left else 0) := by
  induction later generalizing overlap with
  | nil => simp [addPairs, portion]
  | cons contribution later ih =>
      obtain ⟨second, other⟩ := contribution
      show read ((if first = second then overlap
        else (overlap.add first second brightness).add second first other).addPairs first brightness
          later) left right = _
      rw [ih, portion_cons, portion_cons]
      by_cases hsame : first = second
      · -- The contribution makes no pair, and the source is not both of another one.
        subst hsame
        rw [if_pos rfl]
        by_cases hleft : first = left
        · subst hleft
          simp [hpair]
        · simp [hleft]
      · rw [if_neg hsame, hadd, hadd]
        by_cases hleft : first = left
        · subst hleft
          by_cases hright : second = right
          · simp [hright, hpair, Ne.symm hpair]
            ring
          · simp [hright, hpair, Ne.symm hsame]
        · by_cases hright : first = right
          · subst hright
            by_cases hother : second = left
            · simp [hother, hleft, hpair]
              ring
            · simp [hother, hleft]
          · simp [hleft, hright]

/-- A pixel adds what the contributions of the first source weigh, once for every contribution of
the second one. -/
theorem read_observe (overlap : Overlap K sources) (pixel : List (Fin sources × K))
    {left right : Fin sources} (hpair : left ≠ right) :
    read (overlap.observe pixel) left right = read overlap left right
      + portion weight pixel left * portion (fun _ ↦ 1) pixel right := by
  induction pixel generalizing overlap with
  | nil => simp [observe, portion]
  | cons contribution later ih =>
      obtain ⟨source, brightness⟩ := contribution
      show read ((overlap.addPairs source brightness later).observe later) left right = _
      rw [ih, read_add_pairs hadd _ _ _ _ hpair, portion_cons, portion_cons]
      by_cases hleft : source = left
      · have hright : source ≠ right := fun hright ↦ hpair (hleft.symm.trans hright)
        rw [if_pos hleft, if_neg hright, if_pos hleft, if_neg hright]
        ring
      · by_cases hright : source = right
        · rw [if_neg hleft, if_pos hright, if_neg hleft, if_pos hright]
          ring
        · rw [if_neg hleft, if_neg hright, if_neg hleft, if_neg hright]
          ring

/-- So several pixels add up. -/
theorem read_observed (overlap : Overlap K sources) (pixels : List (List (Fin sources × K)))
    {left right : Fin sources} (hpair : left ≠ right) :
    read (pixels.foldl observe overlap) left right = read overlap left right
      + (pixels.map fun pixel ↦
        portion weight pixel left * portion (fun _ ↦ 1) pixel right).sum := by
  induction pixels generalizing overlap with
  | nil => simp
  | cons pixel pixels ih =>
      rw [List.foldl_cons, ih, read_observe hadd _ _ hpair, List.map_cons, List.sum_cons, add_assoc]

end Reading

/-! ### The statistics of pixels -/

section Measured

variable {pixels : List (List (Fin sources × K))} {left right : Fin sources}

/-- Two sources are counted together once for every contribution of the one and of the other. -/
theorem count_measured (pixels : List (List (Fin sources × K))) (hpair : left ≠ right) :
    (measured pixels).count left right = (pixels.map fun pixel ↦
      portion (fun _ ↦ 1) pixel left * portion (fun _ ↦ 1) pixel right).sum := by
  rw [measured, read_observed count_add _ _ hpair]
  simp [count, empty]

/-- The brightness of a source beside another one is summed once for every contribution of the
other one. -/
theorem total_measured (pixels : List (List (Fin sources × K))) (hpair : left ≠ right) :
    (measured pixels).total left right = (pixels.map fun pixel ↦
      portion (·) pixel left * portion (fun _ ↦ 1) pixel right).sum := by
  rw [measured, read_observed total_add _ _ hpair]
  simp [total, empty]

/-- Pixels count for both orders of a pair. -/
theorem count_comm (pixels : List (List (Fin sources × K))) (left right : Fin sources) :
    (measured pixels).count left right = (measured pixels).count right left := by
  by_cases hpair : left = right
  · rw [hpair]
  · rw [count_measured pixels hpair, count_measured pixels (Ne.symm hpair)]
    exact congrArg List.sum (List.map_congr_left fun pixel _ ↦ mul_comm ..)

/-- No pair is counted a negative number of times. -/
theorem count_nonneg (hpair : left ≠ right) : 0 ≤ (measured pixels).count left right := by
  rw [count_measured pixels hpair]
  refine List.sum_nonneg fun value hvalue ↦ ?_
  obtain ⟨pixel, _, rfl⟩ := List.mem_map.mp hvalue
  exact mul_nonneg (portion_nonneg fun _ _ ↦ zero_le_one) (portion_nonneg fun _ _ ↦ zero_le_one)

/-- Sources that share no pixel are not counted together. -/
theorem count_eq_zero (hpair : left ≠ right) (h : ∀ pixel ∈ pixels, ∀ first second,
      (left, first) ∈ pixel → (right, second) ∉ pixel) :
    (measured pixels).count left right = 0 := by
  rw [count_measured pixels hpair]
  refine List.sum_eq_zero fun value hvalue ↦ ?_
  obtain ⟨pixel, hpixel, rfl⟩ := List.mem_map.mp hvalue
  by_cases hleft : ∃ first, (left, first) ∈ pixel
  · obtain ⟨first, hfirst⟩ := hleft
    rw [portion_eq_zero fun second ↦ h pixel hpixel first second hfirst, mul_zero]
  · rw [portion_eq_zero (not_exists.mp hleft), zero_mul]

/-- The mean brightness in exact arithmetic. -/
theorem mean_eq (overlap : Overlap K sources) (left right : Fin sources) :
    overlap.mean left right = if 0 < overlap.count left right then
      overlap.total left right / overlap.count left right else 0 := by
  unfold mean
  rw [Arithmetic.exact_zero]
  by_cases hcount : 0 < overlap.count left right
  · rw [if_pos (Arithmetic.exact_less.mpr hcount), if_pos hcount]
    rfl
  · rw [if_neg (mt Arithmetic.exact_less.mp hcount), if_neg hcount]

/-- Mean brightness is not negative if no brightness is. -/
theorem mean_nonneg (hpair : left ≠ right)
    (hbright : ∀ pixel ∈ pixels, ∀ contribution ∈ pixel, 0 ≤ contribution.2) :
    0 ≤ (measured pixels).mean left right := by
  rw [mean_eq]
  split
  · rename_i hcount
    refine div_nonneg ?_ hcount.le
    rw [total_measured pixels hpair]
    refine List.sum_nonneg fun value hvalue ↦ ?_
    obtain ⟨pixel, hpixel, rfl⟩ := List.mem_map.mp hvalue
    exact mul_nonneg (portion_nonneg (hbright pixel hpixel)) (portion_nonneg fun _ _ ↦ zero_le_one)
  · exact le_rfl

end Measured

end Panorama.Overlap
