import Panorama.Proofs.Gain.Cadence
import Panorama.Proofs.Gain.Measuring
import Panorama.Proofs.Number.Special

/-!
# Gains stay sane

Whatever a compensator takes in, and whether an update is accepted, refused or not completed, its
table holds finite positive gains, and those of an adaptive template are within the bounds of its
policy. The solution of the overlaps may become infinite as a single, but it is never NaN, so that
clamping brings it back. `GainCompensator.Sane` is the invariant. Read `gains_stay_sane` first.
-/

namespace Panorama

open Number

/-! ### Bounds -/

/-- A gain that a mode may come to: finite and positive, and within the bounds of a policy. -/
structure GainMode.Allows (mode : GainMode) (gain : Float32) : Prop where
  finite : gain.isFinite
  positive : 0 < gain
  bounds : ∀ policy, mode = .adaptive policy → policy.minGain ≤ gain ∧ gain ≤ policy.maxGain

namespace AdaptivePolicy

variable {policy : AdaptivePolicy}

/-- The bounds of a policy that passes its check are finite, positive, and enclose one, and its
share of the way is finite and positive. -/
structure Sane (policy : AdaptivePolicy) : Prop where
  low : policy.minGain.isFinite
  high : policy.maxGain.isFinite
  positive : 0 < policy.minGain
  belowOne : policy.minGain ≤ 1
  aboveOne : 1 ≤ policy.maxGain
  share : policy.smoothing.isFinite
  moves : 0 < policy.smoothing

/-- A policy that passes its check is sane. -/
theorem sane_of_validate (h : policy.validate = .ok ()) : policy.Sane := by
  obtain ⟨_, _, ⟨hmoves, hshare⟩, hbounds⟩ := validate_eq_ok_iff.mp h
  simp only [hasBounds, Bool.and_eq_true, Bool.not_eq_true', decide_eq_false_iff_not] at hbounds
  obtain ⟨⟨⟨⟨hlow, hhigh⟩, hpositive⟩, hbelow⟩, habove⟩ := hbounds
  have hzero : (0 : Float32).isFinite := by decide +kernel
  have hone : (1 : Float32).isFinite := by decide +kernel
  rw [single_le_iff hlow hzero, not_le, ← single_lt_iff hzero hlow] at hpositive
  rw [single_lt_iff hone hlow, not_lt, ← single_le_iff hlow hone] at hbelow
  rw [single_lt_iff hhigh hone, not_lt, ← single_le_iff hone hhigh] at habove
  exact ⟨hlow, hhigh, hpositive, hbelow, habove, finite_of_share hmoves hshare, hmoves⟩

end AdaptivePolicy

namespace GainCompensator

/-- Clamping a number between finite bounds gives a finite number between them, also for an
infinity. -/
theorem clamp_between {low high value result : Float32} (hlow : low.isFinite)
    (hhigh : high.isFinite) (hvalue : IsNumber value.toModel.unpack)
    (h : clamp? low high value = some result) :
    result.isFinite ∧ low ≤ result ∧ result ≤ high := by
  unfold clamp? at h
  by_cases hordered : low ≤ high
  · rw [if_pos hordered] at h
    have hrefl {bound : Float32} (hbound : bound.isFinite) : bound ≤ bound := by
      rw [single_le_iff hbound hbound]
    dsimp only at h
    split at h
    · -- Below the lower bound, nothing is above the upper one.
      have hnot : ¬high < low := by
        rw [single_lt_iff hhigh hlow, not_lt, ← single_le_iff hlow hhigh]
        exact hordered
      rw [if_neg hnot] at h
      cases h
      exact ⟨hlow, hrefl hlow, hordered⟩
    · rename_i hbelow
      split at h
      · cases h
        exact ⟨hhigh, hordered, hrefl hhigh⟩
      · rename_i habove
        cases h
        have hfinite : value.isFinite := by
          refine finite_of_between hlow hhigh hvalue ?_ ?_
          · intro hless
            exact hbelow (decide_eq_true hless)
          · intro hless
            exact habove (decide_eq_true hless)
        refine ⟨hfinite, ?_, ?_⟩
        · rw [single_le_iff hlow hfinite, ← not_lt, ← single_lt_iff hfinite hlow]
          exact hbelow
        · rw [single_le_iff hfinite hhigh, ← not_lt, ← single_lt_iff hhigh hfinite]
          exact habove
  · rw [if_neg hordered] at h
    cases h

/-- A single that is at least a positive one is positive. -/
theorem positive_of_le {low value : Float32} (hlow : low.isFinite) (hvalue : value.isFinite)
    (hpositive : 0 < low) (hle : low ≤ value) : 0 < value := by
  have hzero : (0 : Float32).isFinite := by decide +kernel
  rw [single_lt_iff hzero hlow] at hpositive
  rw [single_le_iff hlow hvalue] at hle
  rw [single_lt_iff hzero hvalue]
  exact hpositive.trans_le hle

/-- The gains of measured overlaps are numbers or infinities. -/
theorem gains_number {sources : Nat} {overlap : Overlap Float sources} {gains : List Float32}
    (h : overlap.gains? = some gains) : ∀ gain ∈ gains, IsNumber gain.toModel.unpack := by
  unfold Overlap.gains? at h
  obtain ⟨solution, _, hgains⟩ := Option.bind_eq_some_iff.mp h
  split at hgains
  · rename_i hfinite
    cases hgains
    intro gain hgain
    obtain ⟨value, hvalue, rfl⟩ := List.mem_map.mp hgain
    exact narrow_number (List.all_eq_true.mp hfinite value hvalue)
  · cases hgains

variable {compensator : GainCompensator} {frames : List FrameView} {given : List Template}
  {template : Template} {policy : AdaptivePolicy} {held solved row : List Float32}

/-- Moving finite gains towards other ones, which may be infinite, gives gains that the policy
allows. -/
theorem approach_allowed (hpolicy : policy.Sane) (hheld : ∀ gain ∈ held, gain.isFinite)
    (hsolved : ∀ gain ∈ solved, IsNumber gain.toModel.unpack)
    (h : approach? policy held solved = some row) :
    ∀ gain ∈ row, (GainMode.adaptive policy).Allows gain := by
  intro gain hgain
  obtain ⟨index, hindex⟩ := List.getElem?_of_mem hgain
  obtain ⟨⟨start, target⟩, hpair, hclamp⟩ :=
    Failing.exists_of_forall₂ (Failing.map_eq_some_iff.mp h).flip hindex
  obtain ⟨hstart, htarget⟩ := List.of_mem_zip (List.mem_of_getElem? hpair)
  have hnumber := step_number (hheld start hstart) hpolicy.share hpolicy.moves
    (hsolved target htarget)
  obtain ⟨hfinite, hlow, hhigh⟩ := clamp_between hpolicy.low hpolicy.high hnumber hclamp
  refine ⟨hfinite, positive_of_le hpolicy.low hfinite hpolicy.positive hlow, ?_⟩
  rintro _ ⟨⟩
  exact ⟨hlow, hhigh⟩

/-- A solution that has overflowed leads to the upper bound. -/
example : approach? .standard [1] [.ofBits 0x7F800000] = some [2] := by decide +kernel

/-- A recomputation keeps the gains, or moves them to ones that the policy allows. -/
theorem recompute_allowed (hpolicy : policy.Sane)
    (hheld : ∀ gain ∈ held, (GainMode.adaptive policy).Allows gain)
    (h : compensator.recompute? policy template frames held = some row) :
    ∀ gain ∈ row, (GainMode.adaptive policy).Allows gain := by
  unfold recompute? at h
  obtain ⟨overlap, _, hresult⟩ := Option.bind_eq_some_iff.mp h
  split at hresult
  · cases hresult
    exact hheld
  · cases hgains : overlap.gains? with
    | none =>
        rw [hgains] at hresult
        cases hresult
        exact hheld
    | some solved =>
        rw [hgains] at hresult
        exact approach_allowed hpolicy (fun gain hgain ↦ (hheld gain hgain).finite)
          (gains_number hgains) hresult

/-- A mode that passes its check gives gains that it allows. -/
theorem next_row_allowed {tracked : TrackedGain} {inputs : Nat}
    (hmode : tracked.mode.validate inputs = .ok ())
    (hheld : ∀ gain ∈ held, tracked.mode.Allows gain)
    (h : compensator.nextRow? frames template tracked held = some row) :
    ∀ gain ∈ row, tracked.mode.Allows gain := by
  obtain ⟨mode, recomputed⟩ := tracked
  cases mode with
  | disabled =>
      cases h
      exact hheld
  | fixed gains =>
      cases h
      intro gain hgain
      obtain ⟨hfinite, hpositive⟩ := (GainMode.fixed_eq_ok_iff.mp hmode).2 gain hgain
      exact ⟨hfinite, hpositive, nofun⟩
  | scheduled schedule =>
      intro gain hgain
      obtain ⟨_, _, hgains⟩ := GainSchedule.validate_eq_ok_iff.mp hmode
      obtain ⟨hfinite, hpositive⟩ := hgains row (List.mem_of_getElem? h) gain hgain
      exact ⟨hfinite, hpositive, nofun⟩
  | adaptive policy =>
      unfold nextRow? at h
      dsimp only at h
      split at h
      · exact recompute_allowed (AdaptivePolicy.sane_of_validate hmode) hheld h
      · cases h
        exact hheld

/-! ### Updates -/

/-- Every row of a table has gains that its mode allows. -/
def AllowedBy (modes : List GainMode) (table : GainTable) : Prop :=
  ∀ index mode row, modes[index]? = some mode → table.row? index = some row →
    ∀ gain ∈ row, mode.Allows gain

/-- A row that its mode allows can take the place of another one. -/
theorem AllowedBy.set {modes : List GainMode} {table next : GainTable} {index : Nat}
    {mode : GainMode} (h : AllowedBy modes table) (hmode : modes[index]? = some mode)
    (hrow : ∀ gain ∈ row, mode.Allows gain) (hset : table.set? index row = some next) :
    AllowedBy modes next := by
  obtain ⟨hupdated, hothers⟩ := GainTable.row_of_set hset
  intro position other gains hposition hgains
  by_cases hsame : position = index
  · rw [hsame, hmode] at hposition
    rw [hsame, hupdated] at hgains
    cases hposition
    cases hgains
    exact hrow
  · rw [hothers position hsame] at hgains
    exact h position other gains hposition hgains

/-- Updating the templates from a position on keeps the gains allowed and the modes. -/
theorem update_from_allowed (compensator : GainCompensator) (frames : List FrameView)
    {modes : List GainMode} {inputs index : Nat} {table : GainTable}
    {items : List (TrackedGain × Template)}
    (hmodes : ∀ mode ∈ modes, mode.validate inputs = .ok ())
    (hitems : modes.drop index = items.map fun item ↦ item.1.mode) (h : AllowedBy modes table) :
    AllowedBy modes (compensator.updateFrom frames index table items).table ∧
      (compensator.updateFrom frames index table items).states.map TrackedGain.mode
        = items.map fun item ↦ item.1.mode := by
  induction items generalizing index table with
  | nil => exact ⟨h, rfl⟩
  | cons item items ih =>
      obtain ⟨tracked, template⟩ := item
      have hadvanced := (advance_sound tracked compensator.framesObserved).1
      unfold updateFrom
      cases hupdate : compensator.updateRow? frames index tracked template table with
      | none =>
          refine ⟨h, ?_⟩
          simp [hadvanced]
      | some next =>
          obtain ⟨held, row, hheld, hrow, hset⟩ := update_row_eq_some_iff.mp hupdate
          have hmode : modes[index]? = some tracked.mode := by
            have hfirst := congrArg (·[0]?) hitems
            simpa using hfirst
          have hnext : AllowedBy modes next := by
            refine h.set hmode ?_ hset
            exact next_row_allowed (hmodes _ (List.mem_of_getElem? hmode))
              (h index _ held hmode hheld) hrow
          have hrest : modes.drop (index + 1) = items.map fun item ↦ item.1.mode := by
            rw [← List.tail_drop, hitems]
            rfl
          obtain ⟨hallowed, hstates⟩ := ih hrest hnext
          exact ⟨hallowed, congrArg₂ List.cons hadvanced hstates⟩

/-- A compensator with given modes, whose gains they allow. -/
structure Sane (compensator : GainCompensator) (modes : List GainMode) : Prop where
  followed : compensator.states.map TrackedGain.mode = modes
  allowed : AllowedBy modes compensator.table

/-- A compensator starts with gains of one, which every mode allows. -/
theorem sane_of_make {modes : List GainMode} {inputs : Nat} {interpolation : Interpolation}
    (h : make modes inputs interpolation = .ok compensator) : compensator.Sane modes := by
  obtain ⟨hmodes, table, htable, rfl⟩ := make_eq_ok_iff.mp h
  refine ⟨?_, ?_⟩
  · simp [Function.comp_def]
  · intro index mode row hmode hrow gain hgain
    rw [GainTable.unity_is_unity htable row (List.mem_of_getElem? hrow) gain hgain]
    refine ⟨by decide +kernel, by decide +kernel, ?_⟩
    rintro policy rfl
    have hpolicy := AdaptivePolicy.sane_of_validate
      (hmodes (.adaptive policy) (List.mem_of_getElem? hmode))
    exact ⟨hpolicy.belowOne, hpolicy.aboveOne⟩

/-- Every update keeps the modes and allowed gains, also one that is refused or not completed. -/
theorem Sane.update {modes : List GainMode} {inputs : Nat} (h : compensator.Sane modes)
    (hmodes : ∀ mode ∈ modes, mode.validate inputs = .ok ()) (frames : List FrameView)
    (given : List Template) : (compensator.update frames given).2.Sane modes := by
  have hupdates := compensator.updates frames given
  generalize compensator.update frames given = result at hupdates ⊢
  cases hupdates with
  | miscounted _ | misled _ => exact h
  | complete _ hgiven hprogress _ | broken hgiven hprogress _ =>
      have hfirst : (compensator.states.zip given).map Prod.fst = compensator.states :=
        List.map_fst_zip hgiven.ge
      have hitems : modes.drop 0
          = (compensator.states.zip given).map fun item ↦ item.1.mode :=
        calc
          modes.drop 0 = compensator.states.map TrackedGain.mode := h.followed.symm
          _ = ((compensator.states.zip given).map Prod.fst).map TrackedGain.mode := by rw [hfirst]
          _ = _ := List.map_map
      obtain ⟨hallowed, hstates⟩ := update_from_allowed compensator frames hmodes hitems
        h.allowed
      rw [hprogress] at hallowed hstates
      exact ⟨hstates.trans (hitems.symm.trans (List.drop_zero ..)), hallowed⟩

/-- So does every run of updates. -/
theorem Sane.observe {modes : List GainMode} {inputs : Nat} (h : compensator.Sane modes)
    (hmodes : ∀ mode ∈ modes, mode.validate inputs = .ok ()) (updates : List GainUpdate) :
    (compensator.observe updates).Sane modes := by
  induction updates generalizing compensator with
  | nil => exact h
  | cons update updates ih => exact ih (h.update hmodes update.frames update.templates)

/-- Gains stay sane. After any updates of a compensator, accepted, refused or not completed, there
is a row for every mode, with one gain per source. Its gains are finite and positive, and those of a
policy are within the bounds of the policy. -/
theorem gains_stay_sane {modes : List GainMode} {inputs : Nat} {interpolation : Interpolation}
    (hmake : make modes inputs interpolation = .ok compensator) (updates : List GainUpdate) :
    (compensator.observe updates).table.rows.length = modes.length ∧
      ∀ index mode, modes[index]? = some mode →
        ∃ row, (compensator.observe updates).table.row? index = some row ∧ row.length = inputs ∧
          ∀ gain ∈ row, gain.isFinite ∧ 0 < gain ∧ ∀ policy, mode = .adaptive policy →
            policy.minGain ≤ gain ∧ gain ≤ policy.maxGain := by
  obtain ⟨hmodes, _⟩ := make_eq_ok_iff.mp hmake
  have hsane := (sane_of_make hmake).observe hmodes updates
  obtain ⟨hshaped, hinputs⟩ := (shaped_of_make hmake).observe updates
  have hcount : (compensator.observe updates).templates = modes.length := by
    rw [← hsane.followed, List.length_map]
    rfl
  refine ⟨hshaped.rows.trans hcount, fun index mode hmode ↦ ?_⟩
  obtain ⟨hindex, _⟩ := List.getElem?_eq_some_iff.mp hmode
  obtain ⟨row, hrow, hlength⟩ := hshaped.row (hcount.symm ▸ hindex)
  refine ⟨row, hrow, hlength.trans (hinputs.trans (inputs_of_make hmake)), fun gain hgain ↦ ?_⟩
  have hallowed := hsane.allowed index mode row hmode hrow gain hgain
  exact ⟨hallowed.finite, hallowed.positive, hallowed.bounds⟩

/-- The policy that goes all the way to the solution within its bounds. -/
def spotFollowing : AdaptivePolicy := { AdaptivePolicy.standard with smoothing := 1 }

/-- A compensator that adapts the gains of one template and fixes those of another one. -/
def spotFollower : GainCompensator :=
  ⟨2, .bilinear, [⟨.adaptive spotFollowing, 0⟩, ⟨.fixed [2, 3], 0⟩], ⟨[[1, 1], [1, 1]]⟩, 0⟩

/-- An update with a bright source beside a dark one, and one without frames. -/
def spotContrast : List GainUpdate :=
  [⟨[.grayPixel 250, .grayPixel 1], [.sharedSpot, .blankSpot]⟩, ⟨[], []⟩]

/-- The solution would darken the bright source to less than a half. Its gain is the lower bound of
the policy, and stays it after the refused update. -/
theorem spot_stays_sane : ∃ row : List Float32,
    (spotFollower.observe spotContrast).table.row? 0 = some row ∧ row.head? = some 0.5 ∧
      ∀ gain ∈ row, gain.isFinite ∧ 0.5 ≤ gain ∧ gain ≤ 2 := by
  have hmake : make [.adaptive spotFollowing, .fixed [2, 3]] 2 .bilinear = .ok spotFollower := by
    decide +kernel
  have hfirst : ((spotFollower.observe spotContrast).table.row? 0).bind List.head?
      = some 0.5 := by
    decide +kernel
  obtain ⟨_, hrows⟩ := gains_stay_sane hmake spotContrast
  obtain ⟨row, hrow, _, hgains⟩ := hrows 0 (.adaptive spotFollowing) rfl
  refine ⟨row, hrow, ?_, fun gain hgain ↦ ?_⟩
  · rw [hrow] at hfirst
    exact hfirst
  · obtain ⟨hfinite, _, hbounds⟩ := hgains gain hgain
    exact ⟨hfinite, hbounds spotFollowing rfl⟩

end GainCompensator

end Panorama
