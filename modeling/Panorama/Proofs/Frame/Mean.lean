import Panorama.Proofs.Frame.Source
import Panorama.Proofs.Number.Fields

/-!
# Samples are means

In exact arithmetic a sample is a mean of at most four bytes: of pixels that are at most one step
away from the point along each axis, and of the fill where a neighbor is outside. So it is nowhere
outside the range of these bytes, and the weights that the biquadratic filter divides by are never
too small for it. This holds of every plane that is full, as the planes of views are unless they are
empty (`IsFull.of_shows`). Read `IsFull.sample_mean` first.
-/

namespace Panorama

variable {K : Type} [Field K] [LinearOrder K] [IsStrictOrderedRing K] [FloorRing K]

attribute [local instance] Arithmetic.exact
attribute [local instance (10)] Arithmetic.toAdd Arithmetic.toSub Arithmetic.toMul Arithmetic.toDiv
  Arithmetic.toNeg

/-! ### Next to a position -/

/-- A whole coordinate next to a position on an axis. -/
def Beside (place : Int) (position : K) : Prop := place - 1 ≤ position ∧ position < place + 1

/-- The integer below a position is next to it. -/
theorem beside_floor (position : K) : Beside ⌊position⌋ position :=
  ⟨by linarith [Int.floor_le position], Int.lt_floor_add_one position⟩

/-- So is the integer after that. -/
theorem beside_next (position : K) : Beside (⌊position⌋ + 1) position := by
  have hlow := Int.floor_le position
  have hhigh := Int.lt_floor_add_one position
  unfold Beside
  push_cast
  constructor <;> linarith

/-- The two integers around a position are one step apart. -/
theorem beside_step (position : K) {step : Int} (h : step = 0 ∨ step = 1) :
    Beside (⌊position⌋ + step) position := by
  rcases h with rfl | rfl
  · rw [add_zero]
    exact beside_floor position
  · exact beside_next position

/-- So is the nearest integer. -/
theorem beside_nearest (position : K) : Beside ⌊position + 1 / 2⌋ position := by
  have hlow := Int.floor_le (position + 1 / 2)
  have hhigh := Int.lt_floor_add_one (position + 1 / 2)
  constructor <;> linarith

namespace EdgeMode

/-- A pixel of an axis is at most one step away from a position, after some turns around the axis
if that wraps around. -/
def Near (mode : EdgeMode) (length : UInt32) (position : K) (index : Nat) : Prop :=
  index < length.toNat ∧
    ∃ turns : Int, (mode = .fill → turns = 0) ∧ |index + turns * length.toNat - position| ≤ 1

/-- A position on an axis that is filled is before the first pixel, or not before the last one. -/
def Leaves (mode : EdgeMode) (length : UInt32) (position : K) : Prop :=
  mode = .fill ∧ (position < 0 ∨ (length.toNat : K) - 1 ≤ position)

/-- A whole coordinate next to a position means a pixel near it, or the outside if the position
leaves the axis. -/
theorem resolve_beside (mode : EdgeMode) {length : UInt32} (hlength : 0 < length.toNat)
    {place : Int} {position : K} (h : Beside place position) :
    (∃ index, mode.resolve? length place = some (.pixel index) ∧ mode.Near length position index) ∨
      mode.resolve? length place = some .outside ∧ mode.Leaves length position := by
  obtain ⟨hlow, hhigh⟩ := h
  have hnear : |place - position| ≤ 1 := abs_le.mpr ⟨by linarith, by linarith⟩
  unfold resolve?
  by_cases hinside : 0 ≤ place ∧ place < length.toNat
  · refine .inl ⟨place.toNat, if_pos hinside, by omega, 0, fun _ ↦ rfl, ?_⟩
    rwa [Int.cast_zero, zero_mul, add_zero, ← Int.cast_natCast, Int.toNat_of_nonneg hinside.1]
  · rw [if_neg hinside]
    cases mode with
    | fill =>
        refine .inr ⟨rfl, rfl, ?_⟩
        rcases lt_or_ge place 0 with hbefore | hafter
        · have hbefore : ((place + 1 : Int) : K) ≤ (0 : Int) := Int.cast_le.mpr hbefore
          push_cast at hbefore
          exact .inl (by linarith)
        · have hbehind : ((length.toNat : Int) : K) ≤ place := Int.cast_le.mpr (by omega)
          push_cast at hbehind
          exact .inr (by linarith)
    | wrap =>
        obtain ⟨rest, hrest⟩ := Int.eq_ofNat_of_zero_le
          (Int.emod_nonneg place (show (length.toNat : Int) ≠ 0 by omega))
        have hbelow := Int.emod_lt_of_pos place (Int.natCast_pos.mpr hlength)
        have hplace : rest + place / length.toNat * length.toNat = place := by
          rw [← hrest]
          exact Int.emod_add_ediv_mul place length.toNat
        have hsame : (rest : K) + (place / length.toNat : Int) * length.toNat = place := by
          exact_mod_cast congrArg (Int.cast : Int → K) hplace
        rw [hrest, Int.toNat_natCast, if_neg hlength.ne']
        exact .inl ⟨rest, rfl, by omega, place / length.toNat, nofun, hsame ▸ hnear⟩

end EdgeMode

/-! ### Means -/

/-- A value is the mean of at most four bytes of a kind, each with a weight. -/
structure IsMean (Kind : UInt8 → Prop) (parts : List (K × UInt8)) (value : K) : Prop where
  few : parts.length ≤ 4
  bytes : ∀ part ∈ parts, Kind part.2
  weights : ∀ part ∈ parts, 0 ≤ part.1
  whole : (parts.map Prod.fst).sum = 1
  value : (parts.map fun part ↦ part.1 * (part.2.toNat : K)).sum = value

namespace IsMean

variable {Kind : UInt8 → Prop} {parts : List (K × UInt8)} {value : K} {byte : UInt8}

omit [IsStrictOrderedRing K] in
/-- A byte is the mean of itself. -/
theorem single (h : Kind byte) : IsMean Kind [((1 : K), byte)] byte.toNat where
  few := by simp
  bytes := by simpa using h
  weights := by simp
  whole := by simp
  value := by simp

/-- A mean is between the smallest and the largest of its bytes. -/
theorem between (h : IsMean Kind parts value) :
    ∃ low ∈ parts, ∃ high ∈ parts, (∀ part ∈ parts, low.2 ≤ part.2 ∧ part.2 ≤ high.2) ∧
      (low.2.toNat : K) ≤ value ∧ value ≤ high.2.toNat := by
  have hsome : parts.toFinset.Nonempty := by
    rw [List.toFinset_nonempty_iff]
    rintro rfl
    exact zero_ne_one h.whole
  obtain ⟨low, hlow, hleast⟩ := parts.toFinset.exists_min_image (fun part ↦ part.2.toNat) hsome
  obtain ⟨high, hhigh, hmost⟩ := parts.toFinset.exists_max_image (fun part ↦ part.2.toNat) hsome
  simp only [List.mem_toFinset] at hlow hleast hhigh hmost
  have hconstant (bound : K) : (parts.map fun part ↦ part.1 * bound).sum = bound := by
    rw [List.sum_map_mul_right, h.whole, one_mul]
  refine ⟨low, hlow, high, hhigh, fun part hpart ↦ ⟨hleast part hpart, hmost part hpart⟩, ?_, ?_⟩
  · rw [← hconstant low.2.toNat, ← h.value]
    exact List.sum_le_sum fun part hpart ↦
      mul_le_mul_of_nonneg_left (Nat.cast_le.mpr (hleast part hpart)) (h.weights part hpart)
  · rw [← hconstant high.2.toNat, ← h.value]
    exact List.sum_le_sum fun part hpart ↦
      mul_le_mul_of_nonneg_left (Nat.cast_le.mpr (hmost part hpart)) (h.weights part hpart)

/-- So it is in the range of a byte. -/
theorem in_range (h : IsMean Kind parts value) : 0 ≤ value ∧ value ≤ 255 := by
  obtain ⟨low, -, high, -, -, hleast, hmost⟩ := h.between
  have hbyte : (high.2.toNat : K) ≤ (255 : Nat) :=
    Nat.cast_le.mpr (Nat.le_of_lt_succ high.2.toNat_lt)
  push_cast at hbyte
  exact ⟨(Nat.cast_nonneg _).trans hleast, hmost.trans hbyte⟩

end IsMean

namespace PlaneView

variable {plane : PlaneView} {channel : Nat} {Kind : UInt8 → Prop}
  {neighbor? : Int → Int → Option K} {x y : K}

/-! ### Neighbors -/

/-- The bytes that a sample at a point may be made of: those of pixels near the point along both
axes, and the fill if the point leaves an axis. -/
inductive Surrounds (plane : PlaneView) (channel : Nat) (edge : EdgePolicy) (fill : UInt8)
    (x y : K) : UInt8 → Prop where
  | pixel {column row : Nat} {byte : UInt8} (hcolumn : edge.x.Near plane.width x column)
    (hrow : edge.y.Near plane.height y row) (hpixel : plane.pixel? column row channel = some byte) :
    Surrounds plane channel edge fill x y byte
  | filled (h : edge.x.Leaves plane.width x ∨ edge.y.Leaves plane.height y) :
    Surrounds plane channel edge fill x y fill

/-- Whole coordinates next to a point have a byte of a kind. -/
def HasBytes (neighbor? : Int → Int → Option K) (Kind : UInt8 → Prop) (x y : K) : Prop :=
  ∀ column row, Beside column x → Beside row y →
    ∃ byte : UInt8, neighbor? column row = some (byte.toNat : K) ∧ Kind byte

/-- Whole coordinates next to a point have a byte that surrounds it. -/
theorem IsFull.has_bytes (h : plane.IsFull channel) (edge : EdgePolicy) (fill : UInt8) (x y : K) :
    HasBytes (plane.neighbor? channel edge fill) (plane.Surrounds channel edge fill x y) x y := by
  have hcast (byte : UInt8) : some (Arithmetic.ofInt byte.toNat : K) = some (byte.toNat : K) :=
    congrArg some (Int.cast_natCast byte.toNat)
  intro column row hcolumn hrow
  unfold PlaneView.neighbor?
  rcases edge.x.resolve_beside h.width hcolumn with ⟨left, hleft, hnear⟩ | ⟨hleft, hleaves⟩
  · rcases edge.y.resolve_beside h.height hrow with ⟨top, htop, hclose⟩ | ⟨htop, hleaves⟩
    · obtain ⟨byte, hbyte⟩ := h.pixel left top hnear.1 hclose.1
      rw [hleft, htop]
      simp only [Option.bind_eq_bind, Option.bind_some, hbyte, Option.map_some]
      exact ⟨byte, hcast byte, .pixel hnear hclose hbyte⟩
    · rw [hleft, htop]
      exact ⟨fill, hcast fill, .filled (.inr hleaves)⟩
  · obtain ⟨top, htop, -⟩ := edge.y.exists_resolve h.height row
    rw [hleft, htop]
    exact ⟨fill, hcast fill, .filled (.inl hleaves)⟩

/-! ### Filters -/

/-- The nearest pixel is a mean of one byte. -/
theorem HasBytes.nearest_mean (h : HasBytes neighbor? Kind x y) :
    ∃ value parts, nearest? neighbor? x y = some value ∧ IsMean Kind parts value := by
  obtain ⟨byte, hbyte, hkind⟩ := h _ _ (beside_nearest x) (beside_nearest y)
  refine ⟨_, _, ?_, .single hkind⟩
  unfold nearest?
  simp only [Arithmetic.exact_one, Arithmetic.exact_of_int, Int.cast_ofNat]
  exact hbyte

/-- The bilinear mean is a mean of four bytes. -/
theorem HasBytes.bilinear_mean (h : HasBytes neighbor? Kind x y) :
    ∃ value parts, bilinear? neighbor? x y = some value ∧ IsMean Kind parts value := by
  obtain ⟨topLeft, htopLeft, hfirst⟩ := h _ _ (beside_floor x) (beside_floor y)
  obtain ⟨topRight, htopRight, hsecond⟩ := h _ _ (beside_next x) (beside_floor y)
  obtain ⟨bottomLeft, hbottomLeft, hthird⟩ := h _ _ (beside_floor x) (beside_next y)
  obtain ⟨bottomRight, hbottomRight, hfourth⟩ := h _ _ (beside_next x) (beside_next y)
  have hleft : 0 ≤ 1 - Int.fract x := sub_nonneg.mpr (Int.fract_lt_one x).le
  have habove : 0 ≤ 1 - Int.fract y := sub_nonneg.mpr (Int.fract_lt_one y).le
  have hright := Int.fract_nonneg x
  have hbelow := Int.fract_nonneg y
  refine ⟨(topLeft.toNat * (1 - Int.fract x) + topRight.toNat * Int.fract x) * (1 - Int.fract y)
      + (bottomLeft.toNat * (1 - Int.fract x) + bottomRight.toNat * Int.fract x) * Int.fract y,
    [((1 - Int.fract x) * (1 - Int.fract y), topLeft), (Int.fract x * (1 - Int.fract y), topRight),
      ((1 - Int.fract x) * Int.fract y, bottomLeft), (Int.fract x * Int.fract y, bottomRight)],
    ?_, ?_, ?_, ?_, ?_, ?_⟩
  · unfold bilinear?
    simp only [Arithmetic.exact_floor, Arithmetic.exact_of_int, Arithmetic.exact_one, htopLeft,
      htopRight, hbottomLeft, hbottomRight, Option.bind_eq_bind, Option.bind_some,
      Int.self_sub_floor]
    rfl
  · simp
  · simp [hfirst, hsecond, hthird, hfourth]
  · simp [mul_nonneg, hleft, habove, hright, hbelow]
  · simp only [List.map_cons, List.map_nil, List.sum_cons, List.sum_nil]
    ring
  · simp only [List.map_cons, List.map_nil, List.sum_cons, List.sum_nil]
    ring

/-- The weight of a corner around a point. -/
def weightAt (x y : K) (corner : Int × Int) : K :=
  cornerWeight x y (Arithmetic.ofInt (Arithmetic.floor x) + Arithmetic.ofInt corner.1)
    (Arithmetic.ofInt (Arithmetic.floor y) + Arithmetic.ofInt corner.2)

/-- What the biquadratic filter divides by: all weights together. -/
def divisor (x y : K) : K := (corners.map (weightAt x y)).sum

/-- How near a corner is to a position along an axis: one minus the squared distance. -/
def nearness (position : K) (step : Int) : K := 1 - (⌊position⌋ + step - position) ^ 2

/-- The weight of a corner is the product of its nearness along both axes. -/
theorem weight_at_eq (x y : K) (corner : Int × Int) :
    weightAt x y corner = nearness x corner.1 * nearness y corner.2 := by
  unfold weightAt cornerWeight nearness
  simp only [Arithmetic.exact_floor, Arithmetic.exact_one, Arithmetic.exact_abs,
    Arithmetic.exact_of_int, abs_mul_abs_self, sq]

/-- A corner of a point has no negative nearness to it. -/
theorem nearness_nonneg (position : K) {step : Int} (h : step = 0 ∨ step = 1) :
    0 ≤ nearness position step := by
  have hlow := Int.floor_le position
  have hhigh := (Int.lt_floor_add_one position).le
  unfold nearness
  rw [sub_nonneg, sq_le_one_iff_abs_le_one, abs_le]
  rcases h with rfl | rfl <;> push_cast <;> constructor <;> linarith

/-- The two corners of an axis have at least the nearness one together. It is more than one between
them, where neither distance is one. -/
theorem one_le_nearness (position : K) : 1 ≤ nearness position 0 + nearness position 1 := by
  have hsum : nearness position 0 + nearness position 1
      = 1 + 2 * (Int.fract position * (1 - Int.fract position)) := by
    unfold nearness
    rw [← Int.self_sub_floor position]
    push_cast
    ring
  have hnonnegative := mul_nonneg (Int.fract_nonneg position)
    (sub_nonneg.mpr (Int.fract_lt_one position).le)
  linarith

/-- The corners are at most one step to the right and down. -/
theorem steps_of_corner : ∀ corner ∈ corners,
    (corner.1 = 0 ∨ corner.1 = 1) ∧ (corner.2 = 0 ∨ corner.2 = 1) := by
  decide

/-- Corners have no negative weight. -/
theorem weight_at_nonneg (x y : K) {corner : Int × Int} (h : corner ∈ corners) :
    0 ≤ weightAt x y corner := by
  obtain ⟨hright, hdown⟩ := steps_of_corner corner h
  rw [weight_at_eq]
  exact mul_nonneg (nearness_nonneg x hright) (nearness_nonneg y hdown)

/-- The biquadratic filter divides by one at least. -/
theorem one_le_divisor (x y : K) : 1 ≤ divisor x y := by
  have hproduct : divisor x y
      = (nearness x 0 + nearness x 1) * (nearness y 0 + nearness y 1) := by
    simp only [divisor, corners, weight_at_eq, List.map_cons, List.map_nil, List.sum_cons,
      List.sum_nil]
    ring
  rw [hproduct]
  exact one_le_mul_of_one_le_of_one_le (one_le_nearness x) (one_le_nearness y)

omit [LinearOrder K] [IsStrictOrderedRing K] [FloorRing K] in
/-- Adding up weighted values and weights side by side gives both sums. -/
theorem fold_weighted (weight value : Int × Int → K) {step : K × K → Int × Int → Option (K × K)}
    (items : List (Int × Int)) (h : ∀ sums, ∀ corner ∈ items, step sums corner
      = some (sums.1 + weight corner * value corner, sums.2 + weight corner)) (sums : K × K) :
    items.foldlM step sums
      = some (sums.1 + (items.map fun corner ↦ weight corner * value corner).sum,
          sums.2 + (items.map weight).sum) := by
  induction items generalizing sums with
  | nil => simp
  | cons corner items ih =>
      rw [List.foldlM_cons, h sums corner List.mem_cons_self]
      simp only [Option.bind_eq_bind, Option.bind_some]
      rw [ih fun sums corner hcorner ↦ h sums corner (List.mem_cons_of_mem _ hcorner)]
      simp only [List.map_cons, List.sum_cons, add_assoc]

/-- The biquadratic mean is the sum of weighted corners over the divisor. -/
theorem biquadratic_eq {byte : Int × Int → UInt8} (h : ∀ corner ∈ corners,
    neighbor? (⌊x⌋ + corner.1) (⌊y⌋ + corner.2) = some ((byte corner).toNat : K)) :
    biquadratic? neighbor? x y
      = some ((corners.map fun corner ↦ weightAt x y corner * (byte corner).toNat).sum
          / divisor x y) := by
  unfold biquadratic?
  dsimp only
  rw [fold_weighted (weightAt x y) (fun corner ↦ (byte corner).toNat) corners
    fun sums corner hcorner ↦ ?_]
  · simp only [Option.bind_eq_bind, Option.bind_some, Option.pure_def, Arithmetic.exact_zero,
      zero_add, divisor]
  · simp only [Arithmetic.exact_floor, h corner hcorner, Option.bind_eq_bind, Option.bind_some,
      Option.pure_def]
    rfl

/-- All corners around a point have a byte. -/
theorem HasBytes.corner_bytes (h : HasBytes neighbor? Kind x y) : ∃ byte : Int × Int → UInt8,
    (∀ corner ∈ corners,
      neighbor? (⌊x⌋ + corner.1) (⌊y⌋ + corner.2) = some ((byte corner).toNat : K)) ∧
    ∀ corner ∈ corners, Kind (byte corner) := by
  have hcorners : ∀ corner ∈ corners, ∃ byte : UInt8,
      neighbor? (⌊x⌋ + corner.1) (⌊y⌋ + corner.2) = some (byte.toNat : K) ∧ Kind byte := by
    intro corner hcorner
    obtain ⟨hright, hdown⟩ := steps_of_corner corner hcorner
    exact h _ _ (beside_step x hright) (beside_step y hdown)
  choose! byte hbyte hkind using hcorners
  exact ⟨byte, hbyte, hkind⟩

/-- The sum of weighted corners over the divisor is a mean of their four bytes. -/
theorem biquadratic_mean (x y : K) {byte : Int × Int → UInt8}
    (h : ∀ corner ∈ corners, Kind (byte corner)) :
    IsMean Kind (corners.map fun corner ↦ (weightAt x y corner / divisor x y, byte corner))
      ((corners.map fun corner ↦ weightAt x y corner * (byte corner).toNat).sum
        / divisor x y) := by
  have hpositive : 0 < divisor x y := zero_lt_one.trans_le (one_le_divisor x y)
  constructor
  · simp [corners]
  · simpa only [List.forall_mem_map] using h
  · simpa only [List.forall_mem_map] using fun corner hcorner ↦
      div_nonneg (weight_at_nonneg x y hcorner) hpositive.le
  · simp only [List.map_map, Function.comp_def, div_eq_mul_inv, List.sum_map_mul_right]
    exact mul_inv_cancel₀ hpositive.ne'
  · simp only [List.map_map, Function.comp_def, div_eq_mul_inv,
      mul_right_comm _ (divisor x y)⁻¹, List.sum_map_mul_right]

/-! ### Samples -/

/-- A point beyond an axis that is filled leaves the axis. -/
theorem leaves_of_beyond {mode : EdgeMode} {length : UInt32} {position : K}
    (h : isBeyond mode length position) : mode.Leaves length position := by
  unfold isBeyond at h
  simp only [Bool.and_eq_true, Bool.or_eq_true, decide_eq_true_eq, Arithmetic.exact_less,
    Arithmetic.exact_of_int] at h
  obtain ⟨hfill, hbeyond⟩ := h
  push_cast at hbeyond
  refine ⟨hfill, hbeyond.imp (fun hbefore ↦ ?_) fun hbehind ↦ ?_⟩ <;> linarith

/-- Inside, a sample of the biquadratic filter is what that makes of the neighbors. -/
theorem biquadratic_inside (edge : EdgePolicy) (fill : UInt8)
    (hx : isBeyond edge.x plane.width x = false) (hy : isBeyond edge.y plane.height y = false) :
    plane.sample? channel .biquadratic edge fill x y
      = biquadratic? (plane.neighbor? channel edge fill) x y := by
  unfold sample?
  rw [hx, hy, Bool.or_false, if_neg Bool.false_ne_true]

/-- A sample is a mean of bytes that surround its point. -/
theorem IsFull.exists_mean (h : plane.IsFull channel) (interpolation : Interpolation)
    (edge : EdgePolicy) (fill : UInt8) (x y : K) :
    ∃ value parts, plane.sample? channel interpolation edge fill x y = some value ∧
      IsMean (plane.Surrounds channel edge fill x y) parts value := by
  have hbytes := h.has_bytes edge fill x y
  unfold sample?
  split
  · rename_i hbeyond
    have hleaves := (Bool.or_eq_true _ _).mp hbeyond
    exact ⟨_, _, congrArg some (Int.cast_natCast _),
      .single (.filled (hleaves.imp leaves_of_beyond leaves_of_beyond))⟩
  · cases interpolation with
    | nearest => exact hbytes.nearest_mean
    | bilinear => exact hbytes.bilinear_mean
    | biquadratic =>
        obtain ⟨byte, hbyte, hkind⟩ := hbytes.corner_bytes
        exact ⟨_, _, biquadratic_eq hbyte, biquadratic_mean x y hkind⟩

/-- In exact arithmetic, a sample of a plane is a mean of at most four bytes with weights that are
not negative and add up to one. Each byte is that of a pixel which is at most one step away from the
point along both axes, or is the fill where the point leaves an axis. So the sample is between the
smallest and the largest of them. The biquadratic filter divides the weighted corners by the sum of
their weights, which is at least one. -/
theorem IsFull.sample_mean (h : plane.IsFull channel) (interpolation : Interpolation)
    (edge : EdgePolicy) (fill : UInt8) (x y : K) :
    (∃ (value : K) (parts : List (K × UInt8)),
      plane.sample? channel interpolation edge fill x y = some value ∧
      IsMean (plane.Surrounds channel edge fill x y) parts value ∧
      (∃ low ∈ parts, ∃ high ∈ parts, (∀ part ∈ parts, low.2 ≤ part.2 ∧ part.2 ≤ high.2) ∧
        (low.2.toNat : K) ≤ value ∧ value ≤ high.2.toNat) ∧
      0 ≤ value ∧ value ≤ 255) ∧
    1 ≤ divisor x y ∧
    (isBeyond edge.x plane.width x = false → isBeyond edge.y plane.height y = false →
      ∃ byte : Int × Int → UInt8,
        (∀ corner ∈ corners, plane.neighbor? channel edge fill (⌊x⌋ + corner.1) (⌊y⌋ + corner.2)
          = some ((byte corner).toNat : K)) ∧
        plane.sample? channel .biquadratic edge fill x y
          = some ((corners.map fun corner ↦ weightAt x y corner * (byte corner).toNat).sum
              / divisor x y)) := by
  obtain ⟨value, parts, hsample, hmean⟩ := h.exists_mean interpolation edge fill x y
  refine ⟨⟨value, parts, hsample, hmean, hmean.between, hmean.in_range⟩, one_le_divisor x y,
    fun hx hy ↦ ?_⟩
  obtain ⟨byte, hbyte, -⟩ := (h.has_bytes edge fill x y).corner_bytes
  refine ⟨byte, hbyte, ?_⟩
  rw [biquadratic_inside edge fill hx hy]
  exact biquadratic_eq hbyte

/-- A row of two pixels. -/
def pair : PlaneView := ⟨#[10, 30], 0, 2, 1, 2, 1⟩

/-- A quarter of a step behind the last pixel of the row, the fill has a part in the mean. -/
theorem pair_sampled : pair.IsFull 0 ∧
    pair.sample? 0 .biquadratic ⟨.fill, .wrap⟩ 7 (5 / 4 : ℚ) 0 = some (499 / 22) ∧
    (∃ parts, IsMean (pair.Surrounds 0 ⟨.fill, .wrap⟩ 7 (5 / 4 : ℚ) 0) parts (499 / 22 : ℚ)) ∧
    1 ≤ divisor (5 / 4 : ℚ) 0 := by
  have hfull : pair.IsFull 0 := by
    refine ⟨by decide, by decide, fun x y hx hy ↦ ?_⟩
    obtain rfl : y = 0 := Nat.lt_one_iff.mp hy
    rcases Nat.le_one_iff_eq_zero_or_eq_one.mp (Nat.le_of_lt_succ hx) with rfl | rfl
    · exact ⟨10, rfl⟩
    · exact ⟨30, rfl⟩
  have hvalue : pair.sample? 0 .biquadratic ⟨.fill, .wrap⟩ 7 (5 / 4 : ℚ) 0 = some (499 / 22) := by
    decide +kernel
  obtain ⟨⟨value, parts, hsample, hmean, -⟩, hdivisor, -⟩ :=
    hfull.sample_mean .biquadratic ⟨.fill, .wrap⟩ 7 (5 / 4 : ℚ) 0
  cases hsample.symm.trans hvalue
  exact ⟨hfull, hvalue, ⟨parts, hmean⟩, hdivisor⟩

end PlaneView

end Panorama
