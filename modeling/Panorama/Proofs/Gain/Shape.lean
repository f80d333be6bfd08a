import Panorama.Gain.Compensator
import Panorama.Proofs.Failing

/-!
# The shape of gain tables

A compensator starts with a table that has one row per template and one gain per source, and no
update changes the shape: a row is replaced by one of the same length or not at all.
-/

namespace Panorama

namespace GainTable

variable {table next : GainTable} {templates sources index : Nat} {gains : List Float32}

/-- A table with one row per template and one gain per source. -/
structure HasShape (table : GainTable) (templates sources : Nat) : Prop where
  rows : table.rows.length = templates
  gains : ∀ row ∈ table.rows, row.length = sources

/-- The table in which every gain is one can be made if buffers hold a row and all of them. -/
theorem unity_eq_some_iff : unity? templates sources = some table ↔
    Memory.holds sources gainBytes ∧ Memory.holds templates rowBytes ∧
      table = ⟨List.replicate templates (List.replicate sources 1)⟩ := by
  unfold unity?
  rw [Option.ite_none_right_eq_some, Bool.and_eq_true, Option.some.injEq, and_assoc,
    eq_comm (a := table)]

/-- The table in which every gain is one has its shape. -/
theorem shape_of_unity (h : unity? templates sources = some table) :
    table.HasShape templates sources := by
  obtain ⟨_, _, rfl⟩ := unity_eq_some_iff.mp h
  refine ⟨List.length_replicate, fun row hrow ↦ ?_⟩
  rw [List.eq_of_mem_replicate hrow, List.length_replicate]

/-- Every gain of a table is one. -/
def IsUnity (table : GainTable) : Prop := ∀ row ∈ table.rows, ∀ gain ∈ row, gain = 1

/-- Every gain of the table of ones is one. -/
theorem unity_is_unity (h : unity? templates sources = some table) : table.IsUnity := by
  obtain ⟨_, _, rfl⟩ := unity_eq_some_iff.mp h
  intro row hrow gain hgain
  rw [List.eq_of_mem_replicate hrow] at hgain
  exact List.eq_of_mem_replicate hgain

/-- A row that there is can be replaced by one of the same length. -/
theorem set_eq_some_iff : table.set? index gains = some next ↔
    ∃ row, table.row? index = some row ∧ row.length = gains.length ∧
      next = ⟨table.rows.set index gains⟩ := by
  unfold GainTable.set?
  simp only [Option.bind_eq_bind, Option.bind_eq_some_iff]
  refine exists_congr fun row ↦ and_congr_right fun _ ↦ ?_
  split
  · rename_i hlength
    rw [Option.some.injEq, eq_comm]
    exact (and_iff_right hlength).symm
  · rename_i hlength
    exact ⟨nofun, fun hparts ↦ absurd hparts.1 hlength⟩

/-- Replacing a row keeps the shape. -/
theorem HasShape.set (h : table.HasShape templates sources)
    (hset : table.set? index gains = some next) : next.HasShape templates sources := by
  obtain ⟨row, hrow, hlength, rfl⟩ := set_eq_some_iff.mp hset
  refine ⟨(List.length_set ..).trans h.rows, fun other hother ↦ ?_⟩
  rcases List.mem_or_eq_of_mem_set hother with hkept | rfl
  · exact h.gains other hkept
  · rw [← hlength]
    exact h.gains row (List.mem_of_getElem? hrow)

end GainTable

namespace GainCompensator

variable {compensator : GainCompensator} {frames : List FrameView} {given : List Template}

/-- The table has one row per template and one gain per source. -/
def Shaped (compensator : GainCompensator) : Prop :=
  compensator.table.HasShape compensator.templates compensator.inputs

/-- A compensator is made of modes that pass their checks. It has had no updates yet, and a table in
which every gain is one. -/
theorem make_eq_ok_iff {modes : List GainMode} {inputs : Nat} {interpolation : Interpolation} :
    make modes inputs interpolation = .ok compensator ↔
      (∀ mode ∈ modes, mode.validate inputs = .ok ()) ∧
        ∃ table, GainTable.unity? modes.length inputs = some table ∧
          compensator = ⟨inputs, interpolation, modes.map fun mode ↦ ⟨mode, 0⟩, table, 0⟩ := by
  rw [← Failing.for_eq_ok_iff]
  unfold make
  cases hmodes : modes.forM fun mode ↦ mode.validate inputs with
  | error flaw => exact iff_of_false nofun fun h ↦ nomatch h.1
  | ok _ =>
      constructor
      · intro h
        obtain ⟨table, htable, hresult⟩ := Failing.bind_eq_ok_iff.mp h
        cases hresult
        exact ⟨rfl, table, Failing.of_option_eq_ok_iff.mp htable, rfl⟩
      · rintro ⟨_, table, htable, rfl⟩
        exact Failing.bind_eq_ok_iff.mpr ⟨table, Failing.of_option_eq_ok_iff.mpr htable, rfl⟩

/-- A compensator starts with a table of its shape. -/
theorem shaped_of_make {modes : List GainMode} {inputs : Nat} {interpolation : Interpolation}
    (h : make modes inputs interpolation = .ok compensator) : compensator.Shaped := by
  obtain ⟨_, table, htable, rfl⟩ := make_eq_ok_iff.mp h
  have hshape := GainTable.shape_of_unity htable
  rwa [Shaped, templates, List.length_map]

/-- A compensator has the number of sources it was made for. -/
theorem inputs_of_make {modes : List GainMode} {inputs : Nat} {interpolation : Interpolation}
    (h : make modes inputs interpolation = .ok compensator) : compensator.inputs = inputs := by
  obtain ⟨_, _, _, rfl⟩ := make_eq_ok_iff.mp h
  rfl

/-- Every template has a row with one gain per source. -/
theorem Shaped.row (h : compensator.Shaped) {index : Nat} (hindex : index < compensator.templates) :
    ∃ row, compensator.table.row? index = some row ∧ row.length = compensator.inputs := by
  rw [← h.rows] at hindex
  exact ⟨_, List.getElem?_eq_getElem hindex, h.gains _ (List.getElem_mem hindex)⟩

/-- A template is updated if it has a row and the row that its mode gives can take its place. -/
theorem update_row_eq_some_iff {index : Nat} {tracked : TrackedGain} {template : Template}
    {table next : GainTable} :
    compensator.updateRow? frames index tracked template table = some next ↔
      ∃ held row, table.row? index = some held ∧
        compensator.nextRow? frames template tracked held = some row ∧
          table.set? index row = some next := by
  unfold updateRow?
  simp only [Option.bind_eq_bind, Option.bind_eq_some_iff]
  constructor
  · intro hparts
    obtain ⟨held, hheld, row, hrow, hset⟩ := hparts
    exact ⟨held, row, hheld, hrow, hset⟩
  · intro hparts
    obtain ⟨held, row, hheld, hrow, hset⟩ := hparts
    exact ⟨held, hheld, row, hrow, hset⟩

/-- Updating the templates one by one keeps the shape of the table and the number of modes. -/
theorem update_from_shaped (compensator : GainCompensator) (frames : List FrameView) (index : Nat)
    {rows sources : Nat} {table : GainTable} (h : table.HasShape rows sources)
    (items : List (TrackedGain × Template)) :
    (compensator.updateFrom frames index table items).table.HasShape rows sources ∧
      (compensator.updateFrom frames index table items).states.length = items.length := by
  induction items generalizing index table with
  | nil => exact ⟨h, rfl⟩
  | cons item items ih =>
      obtain ⟨tracked, template⟩ := item
      unfold updateFrom
      cases hupdate : compensator.updateRow? frames index tracked template table with
      | none =>
          refine ⟨h, ?_⟩
          rw [List.length_cons, List.length_cons, List.length_map]
      | some next =>
          obtain ⟨_, _, _, _, hset⟩ := update_row_eq_some_iff.mp hupdate
          obtain ⟨htable, hstates⟩ := ih (index + 1) (h.set hset)
          exact ⟨htable, congrArg (· + 1) hstates⟩

/-- A complete update advances the recomputations of every template. -/
theorem update_from_states {compensator : GainCompensator} {index : Nat} {table : GainTable}
    {items : List (TrackedGain × Template)}
    (h : (compensator.updateFrom frames index table items).isComplete) :
    (compensator.updateFrom frames index table items).states
      = items.map fun item ↦ item.1.advance compensator.framesObserved := by
  induction items generalizing index table with
  | nil => rfl
  | cons item items ih =>
      obtain ⟨tracked, template⟩ := item
      unfold updateFrom at h ⊢
      cases hupdate : compensator.updateRow? frames index tracked template table with
      | none =>
          rw [hupdate] at h
          cases h
      | some next =>
          rw [hupdate] at h
          exact congrArg (tracked.advance compensator.framesObserved :: ·) (ih h)

/-- How an update can end, and what is left of it. Refusals come before anything has changed. -/
inductive Updates (compensator : GainCompensator) (frames : List FrameView)
    (given : List Template) : Outcome Unit × GainCompensator → Prop where
  /-- There is not one frame per source. -/
  | miscounted (h : frames.length ≠ compensator.inputs) :
      Updates compensator frames given (.error (.refused (.sizeMismatch
        (.gainFrames frames.length compensator.inputs))), compensator)
  /-- There are other templates. -/
  | misled (h : given.length ≠ compensator.states.length) :
      Updates compensator frames given (.error (.refused (.invalid
        (.gainTemplates given.length compensator.states.length))), compensator)
  /-- All templates are updated. -/
  | complete (hframes : frames.length = compensator.inputs)
      (hgiven : given.length = compensator.states.length) {progress : Progress}
      (hprogress : compensator.updateFrom frames 0 compensator.table
        (compensator.states.zip given) = progress) (h : progress.isComplete) :
      Updates compensator frames given (.ok (), { compensator with
        states := progress.states
        table := progress.table
        framesObserved := compensator.framesObserved + 1 })
  /-- A precondition is broken at a template. -/
  | broken (hgiven : given.length = compensator.states.length) {progress : Progress}
      (hprogress : compensator.updateFrom frames 0 compensator.table
        (compensator.states.zip given) = progress) (h : ¬progress.isComplete) :
      Updates compensator frames given (.error .fault, { compensator with
        states := progress.states
        table := progress.table })

/-- Every update ends in one of these ways. -/
theorem updates (compensator : GainCompensator) (frames : List FrameView) (given : List Template) :
    Updates compensator frames given (compensator.update frames given) := by
  unfold update
  split
  · rename_i hframes
    exact .miscounted hframes
  · rename_i hframes
    split
    · rename_i hgiven
      exact .misled hgiven
    · rename_i hgiven
      dsimp only
      split
      · rename_i hcomplete
        exact .complete (not_not.mp hframes) (not_not.mp hgiven) rfl hcomplete
      · rename_i hbroken
        exact .broken (not_not.mp hgiven) rfl hbroken

/-- An update keeps the shape of the table, and the numbers of sources and templates. -/
theorem Shaped.update (h : compensator.Shaped) (frames : List FrameView) (given : List Template) :
    (compensator.update frames given).2.Shaped ∧
      (compensator.update frames given).2.inputs = compensator.inputs ∧
        (compensator.update frames given).2.templates = compensator.templates := by
  have hupdates := compensator.updates frames given
  generalize compensator.update frames given = result at hupdates ⊢
  cases hupdates with
  | miscounted _ => exact ⟨h, rfl, rfl⟩
  | misled _ => exact ⟨h, rfl, rfl⟩
  | complete _ hgiven hprogress _ | broken hgiven hprogress _ =>
      obtain ⟨htable, hstates⟩ :=
        compensator.update_from_shaped frames 0 h (compensator.states.zip given)
      rw [List.length_zip, hgiven, Nat.min_self] at hstates
      rw [templates, ← hstates] at htable
      rw [hprogress] at htable hstates
      exact ⟨htable, rfl, hstates⟩

/-- An accepted update has a frame for every source and a template for every mode, and counts
itself. -/
theorem counted_of_update (h : (compensator.update frames given).1 = .ok ()) :
    frames.length = compensator.inputs ∧ given.length = compensator.states.length ∧
      (compensator.update frames given).2.framesObserved = compensator.framesObserved + 1 := by
  have hupdates := compensator.updates frames given
  generalize compensator.update frames given = result at hupdates h ⊢
  cases hupdates with
  | miscounted _ | misled _ | broken _ _ _ => cases h
  | complete hframes hgiven _ _ => exact ⟨hframes, hgiven, rfl⟩

/-- A compensator that was made and then took in frame sets. -/
inductive Reachable : GainCompensator → Prop where
  | make {modes : List GainMode} {inputs : Nat} {interpolation : Interpolation}
      {compensator : GainCompensator} (h : make modes inputs interpolation = .ok compensator) :
      Reachable compensator
  | update {compensator : GainCompensator} (h : Reachable compensator) (frames : List FrameView)
      (given : List Template) : Reachable (compensator.update frames given).2

/-- Every compensator has a table of its shape. -/
theorem Reachable.shaped (h : compensator.Reachable) : compensator.Shaped := by
  induction h with
  | make h => exact shaped_of_make h
  | update _ frames given ih => exact (ih.update frames given).1

end GainCompensator

end Panorama
