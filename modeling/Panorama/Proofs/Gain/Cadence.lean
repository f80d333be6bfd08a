import Panorama.Proofs.Gain.Shape

/-!
# Gains over many updates

What the gains of a template become depends on its own mode only. Fixed and scheduled gains follow
the number of updates. Adaptive gains change at the updates that the policy makes due, and of all
frame sets they depend on those of these updates alone, whatever the other templates do. The
invariant is `GainCompensator.Tracks`: the recomputations of a template are counted as its policy
says.
-/

namespace Panorama

/-! ### Recomputations -/

namespace AdaptivePolicy

variable {policy : AdaptivePolicy} {count : Nat}

/-- Whether an update comes after the warm-up and a whole number of intervals later. -/
def onCadence (policy : AdaptivePolicy) (count : Nat) : Bool :=
  policy.warmupFrames ≤ count && (count - policy.warmupFrames) % policy.intervalFrames = 0

/-- Number of the updates on the cadence among the first ones. -/
def cadenceCount (policy : AdaptivePolicy) (count : Nat) : Nat :=
  (List.range count).countP policy.onCadence

/-- Whether an update recomputes the gains: it is on the cadence, and fewer than the permitted
number of updates were before. -/
def Due (policy : AdaptivePolicy) (count : Nat) : Prop :=
  policy.onCadence count ∧
    ∀ limit, policy.freezeAfter = some limit → policy.cadenceCount count < limit

/-- Number of recomputations in the first updates. -/
def recomputations (policy : AdaptivePolicy) (count : Nat) : Nat :=
  match policy.freezeAfter with
  | some limit => min limit (policy.cadenceCount count)
  | none => policy.cadenceCount count

/-- One more update is on the cadence or not. -/
theorem cadence_count_succ (policy : AdaptivePolicy) (count : Nat) :
    policy.cadenceCount (count + 1)
      = policy.cadenceCount count + if policy.onCadence count then 1 else 0 := by
  unfold cadenceCount
  rw [List.range_succ, List.countP_append, List.countP_singleton]

/-- With the recomputations counted, the updates that recompute are those that are due. -/
theorem is_due_iff : policy.isDue count (policy.recomputations count) ↔ policy.Due count := by
  unfold isDue Due recomputations onCadence
  cases policy.freezeAfter with
  | none => simp
  | some limit =>
      simp only [Bool.and_eq_true, Bool.not_eq_true', decide_eq_false_iff_not, decide_eq_true_eq,
        Option.some.injEq, forall_eq', Nat.not_le]
      constructor
      · intro hdue
        exact ⟨⟨hdue.1.2, hdue.2⟩, by omega⟩
      · intro hdue
        exact ⟨⟨by omega, hdue.1.1⟩, hdue.1.2⟩

/-- The recomputations are counted at the updates that recompute. -/
theorem recomputations_succ (policy : AdaptivePolicy) (count : Nat) :
    policy.recomputations (count + 1) = policy.recomputations count
      + if policy.isDue count (policy.recomputations count) then 1 else 0 := by
  have hcount := policy.cadence_count_succ count
  by_cases hdue : policy.Due count
  · rw [if_pos (is_due_iff.mpr hdue)]
    obtain ⟨hcadence, hlimit⟩ := hdue
    rw [if_pos hcadence] at hcount
    unfold recomputations
    cases hfreeze : policy.freezeAfter with
    | none => exact hcount
    | some limit =>
        have hopen := hlimit limit hfreeze
        dsimp only
        omega
  · rw [if_neg fun h ↦ hdue (is_due_iff.mp h)]
    by_cases hcadence : policy.onCadence count
    · -- On the cadence, only the limit can keep an update from being due.
      have hclosed : ∃ limit, policy.freezeAfter = some limit ∧
          limit ≤ policy.cadenceCount count := by
        by_contra hopen
        refine hdue ⟨hcadence, fun limit hfreeze ↦ ?_⟩
        by_contra hlimit
        exact hopen ⟨limit, hfreeze, Nat.not_lt.mp hlimit⟩
      obtain ⟨limit, hfreeze, hlimit⟩ := hclosed
      unfold recomputations
      rw [hfreeze]
      dsimp only
      omega
    · rw [if_neg hcadence] at hcount
      show policy.recomputations (count + 1) = policy.recomputations count
      unfold recomputations
      rw [hcount]
      rfl

end AdaptivePolicy

/-- Number of recomputations in the first updates of a template with this mode. -/
def GainMode.recomputations (mode : GainMode) (count : Nat) : Nat :=
  match mode with
  | .adaptive policy => policy.recomputations count
  | _ => 0

/-- The recomputations of a template after the first updates. -/
def TrackedGain.after (mode : GainMode) (count : Nat) : TrackedGain :=
  ⟨mode, mode.recomputations count⟩

/-- An update counts its recomputation. -/
theorem TrackedGain.advance_after (mode : GainMode) (count : Nat) :
    (after mode count).advance count = after mode (count + 1) := by
  cases mode with
  | disabled => rfl
  | fixed gains => rfl
  | scheduled schedule => rfl
  | adaptive policy =>
      show (if policy.isDue count (policy.recomputations count) then
        (⟨.adaptive policy, policy.recomputations count + 1⟩ : TrackedGain)
          else ⟨.adaptive policy, policy.recomputations count⟩)
        = ⟨.adaptive policy, policy.recomputations (count + 1)⟩
      rw [policy.recomputations_succ count]
      split <;> rfl

/-! ### One update -/

/-- A row that is replaced becomes the new one, and the others stay. -/
theorem GainTable.row_of_set {table next : GainTable} {index : Nat} {gains : List Float32}
    (h : table.set? index gains = some next) :
    next.row? index = some gains ∧ ∀ other, other ≠ index → next.row? other = table.row? other := by
  obtain ⟨row, hrow, _, rfl⟩ := set_eq_some_iff.mp h
  obtain ⟨hindex, _⟩ := List.getElem?_eq_some_iff.mp hrow
  refine ⟨List.getElem?_set_self hindex, fun other hother ↦ ?_⟩
  exact List.getElem?_set_ne (Ne.symm hother)

namespace GainCompensator

variable {compensator other : GainCompensator} {frames : List FrameView} {given : List Template}
  {table : GainTable} {items : List (TrackedGain × Template)} {tracked : TrackedGain}
  {template : Template} {start index position : Nat}

/-- An update from a template on leaves the rows before it. -/
theorem update_from_front (hindex : index < start) :
    (compensator.updateFrom frames start table items).table.row? index = table.row? index := by
  induction items generalizing start table with
  | nil => rfl
  | cons item items ih =>
      obtain ⟨tracked, template⟩ := item
      unfold updateFrom
      cases hupdate : compensator.updateRow? frames start tracked template table with
      | none => rfl
      | some next =>
          obtain ⟨_, _, _, _, hset⟩ := update_row_eq_some_iff.mp hupdate
          obtain ⟨_, hothers⟩ := GainTable.row_of_set hset
          exact (ih (Nat.lt_succ_of_lt hindex)).trans (hothers index (Nat.ne_of_lt hindex))

/-- A complete update replaces the row of every template by the one that its mode gives. -/
theorem update_from_row
    (hcomplete : (compensator.updateFrom frames start table items).isComplete)
    (hitem : items[position]? = some (tracked, template)) :
    ∃ held next, table.row? (start + position) = some held ∧
      compensator.nextRow? frames template tracked held = some next ∧
        (compensator.updateFrom frames start table items).table.row? (start + position)
          = some next := by
  induction items generalizing start table position with
  | nil => cases hitem
  | cons item items ih =>
      obtain ⟨first, firstTemplate⟩ := item
      unfold updateFrom at hcomplete ⊢
      cases hupdate : compensator.updateRow? frames start first firstTemplate table with
      | none =>
          rw [hupdate] at hcomplete
          cases hcomplete
      | some updated =>
          rw [hupdate] at hcomplete
          obtain ⟨held, next, hheld, hnext, hset⟩ := update_row_eq_some_iff.mp hupdate
          obtain ⟨hrow, hothers⟩ := GainTable.row_of_set hset
          cases position with
          | zero =>
              cases hitem
              exact ⟨held, next, hheld, hnext,
                (update_from_front (Nat.lt_succ_self start)).trans hrow⟩
          | succ position =>
              obtain ⟨held, next, hheld, hnext, hlast⟩ := ih hcomplete hitem
              rw [hothers _ (by omega), Nat.add_right_comm] at hheld
              rw [Nat.add_right_comm] at hlast
              exact ⟨held, next, hheld, hnext, hlast⟩

/-- An accepted update counts itself, advances the recomputations of every template, and replaces
its row by the one that its mode gives. -/
theorem row_of_update (h : (compensator.update frames given).1 = .ok ())
    (htracked : compensator.states[index]? = some tracked)
    (htemplate : given[index]? = some template) :
    (compensator.update frames given).2.interpolation = compensator.interpolation ∧
      (compensator.update frames given).2.framesObserved = compensator.framesObserved + 1 ∧
      (compensator.update frames given).2.states[index]?
        = some (tracked.advance compensator.framesObserved) ∧
      ∃ held next, compensator.table.row? index = some held ∧
        compensator.nextRow? frames template tracked held = some next ∧
          (compensator.update frames given).2.table.row? index = some next := by
  have hitem : (compensator.states.zip given)[index]? = some (tracked, template) := by
    rw [List.getElem?_zip_eq_some]
    exact ⟨htracked, htemplate⟩
  have hupdates := compensator.updates frames given
  generalize compensator.update frames given = result at hupdates h ⊢
  cases hupdates with
  | miscounted _ | misled _ | broken _ _ _ => cases h
  | complete _ _ hprogress hcomplete =>
      subst hprogress
      have hrow := update_from_row hcomplete hitem
      rw [Nat.zero_add] at hrow
      refine ⟨rfl, rfl, ?_, hrow⟩
      rw [update_from_states hcomplete, List.getElem?_map, hitem]
      rfl

/-- What a mode gives depends on the number of the update and the interpolation, and not on other
parts of the compensator. -/
theorem next_row_congr (hinterpolation : other.interpolation = compensator.interpolation)
    (hcount : other.framesObserved = compensator.framesObserved) (frames : List FrameView)
    (template : Template) (tracked : TrackedGain) (held : List Float32) :
    other.nextRow? frames template tracked held
      = compensator.nextRow? frames template tracked held := by
  unfold nextRow? recompute?
  rw [hinterpolation, hcount]

end GainCompensator

/-! ### Many updates -/

/-- What an update takes in. -/
structure GainUpdate where
  /-- One frame per source. -/
  frames : List FrameView
  /-- The templates. -/
  templates : List Template

namespace GainCompensator

variable {compensator other : GainCompensator} {mode : GainMode} {interpolation : Interpolation}
  {updates otherUpdates : List GainUpdate} {index count : Nat} {template : Template}

/-- The compensator after several updates. -/
def observe (compensator : GainCompensator) (updates : List GainUpdate) : GainCompensator :=
  updates.foldl (fun compensator update ↦
    (compensator.update update.frames update.templates).2) compensator

/-- Every one of the updates is accepted. -/
def Accepts (compensator : GainCompensator) (updates : List GainUpdate) : Prop :=
  ∀ count update, updates[count]? = some update →
    ((compensator.observe (updates.take count)).update update.frames update.templates).1 = .ok ()

/-- The row of a template after the first updates. -/
def rowAfter? (compensator : GainCompensator) (updates : List GainUpdate) (index count : Nat) :
    Option (List Float32) :=
  (compensator.observe (updates.take count)).table.row? index

/-- Updates keep the shape of the table and the number of sources. -/
theorem Shaped.observe (h : compensator.Shaped) (updates : List GainUpdate) :
    (compensator.observe updates).Shaped ∧
      (compensator.observe updates).inputs = compensator.inputs := by
  induction updates generalizing compensator with
  | nil => exact ⟨h, rfl⟩
  | cons update updates ih =>
      obtain ⟨hshaped, hinputs, _⟩ := h.update update.frames update.templates
      obtain ⟨hlast, hsame⟩ := ih hshaped
      exact ⟨hlast, hsame.trans hinputs⟩

/-- One more update comes after the others. -/
theorem observe_take_succ (compensator : GainCompensator) {update : GainUpdate}
    (hupdate : updates[count]? = some update) :
    compensator.observe (updates.take (count + 1))
      = ((compensator.observe (updates.take count)).update update.frames update.templates).2 := by
  unfold observe
  rw [List.take_add_one, hupdate, Option.toList_some, List.foldl_append]
  rfl

/-- A compensator after the first updates, in which the recomputations of a template are counted as
its mode says. -/
structure Tracks (compensator : GainCompensator) (mode : GainMode) (interpolation : Interpolation)
    (index count : Nat) : Prop where
  interpolation : compensator.interpolation = interpolation
  counted : compensator.framesObserved = count
  tracked : compensator.states[index]? = some (.after mode count)

/-- A compensator starts without updates and with rows in which every gain is one. -/
theorem tracks_of_make {modes : List GainMode} {inputs : Nat}
    (h : make modes inputs interpolation = .ok compensator) (hmode : modes[index]? = some mode) :
    compensator.Tracks mode interpolation index 0 ∧
      compensator.table.row? index = some (List.replicate inputs 1) := by
  obtain ⟨_, table, htable, rfl⟩ := make_eq_ok_iff.mp h
  have hnone : mode.recomputations 0 = 0 := by
    cases mode with
    | disabled => rfl
    | fixed gains => rfl
    | scheduled schedule => rfl
    | adaptive policy =>
        show policy.recomputations 0 = 0
        unfold AdaptivePolicy.recomputations
        cases policy.freezeAfter with
        | none => rfl
        | some limit => exact Nat.min_zero limit
  refine ⟨⟨rfl, rfl, ?_⟩, ?_⟩
  · show (modes.map _)[index]? = _
    rw [List.getElem?_map, hmode, TrackedGain.after, hnone]
    rfl
  · obtain ⟨_, _, rfl⟩ := GainTable.unity_eq_some_iff.mp htable
    obtain ⟨hindex, _⟩ := List.getElem?_eq_some_iff.mp hmode
    exact List.getElem?_replicate_of_lt hindex

/-- After every accepted update the recomputations are counted, and the row of the template is the
one that its mode gives. -/
theorem Tracks.observe (h : compensator.Tracks mode interpolation index 0)
    (haccepts : compensator.Accepts updates)
    (htemplates : ∀ update ∈ updates, update.templates[index]? = some template)
    (hcount : count ≤ updates.length) :
    (compensator.observe (updates.take count)).Tracks mode interpolation index count := by
  induction count with
  | zero => exact h
  | succ count ih =>
      have hbefore := ih (Nat.le_of_succ_le hcount)
      have hupdate := List.getElem?_eq_getElem hcount
      obtain ⟨hinterpolation, hcounted, htracked, _⟩ :=
        row_of_update (haccepts count _ hupdate) hbefore.tracked
          (htemplates _ (List.mem_of_getElem? hupdate))
      rw [compensator.observe_take_succ hupdate]
      rw [hbefore.counted, TrackedGain.advance_after] at htracked
      exact ⟨hinterpolation.trans hbefore.interpolation,
        hcounted.trans (congrArg Nat.succ hbefore.counted), htracked⟩

/-- An accepted update replaces the row of a template by the one that its mode gives. -/
theorem Tracks.row_after (h : compensator.Tracks mode interpolation index 0)
    (haccepts : compensator.Accepts updates)
    (htemplates : ∀ update ∈ updates, update.templates[index]? = some template)
    {update : GainUpdate} (hupdate : updates[count]? = some update) :
    ∃ held next, compensator.rowAfter? updates index count = some held ∧
      (compensator.observe (updates.take count)).nextRow? update.frames template
        (.after mode count) held = some next ∧
        compensator.rowAfter? updates index (count + 1) = some next := by
  obtain ⟨hcount, _⟩ := List.getElem?_eq_some_iff.mp hupdate
  have hbefore := h.observe haccepts htemplates (Nat.le_of_lt hcount)
  obtain ⟨_, _, _, held, next, hheld, hnext, hrow⟩ :=
    row_of_update (haccepts count _ hupdate) hbefore.tracked
      (htemplates _ (List.mem_of_getElem? hupdate))
  refine ⟨held, next, hheld, hnext, ?_⟩
  unfold rowAfter?
  rw [compensator.observe_take_succ hupdate]
  exact hrow

/-- With a policy, the row of a template changes at updates that are due only. -/
theorem Tracks.row_held {policy : AdaptivePolicy}
    (h : compensator.Tracks (.adaptive policy) interpolation index 0)
    (haccepts : compensator.Accepts updates)
    (htemplates : ∀ update ∈ updates, update.templates[index]? = some template)
    (hcount : count < updates.length) (hdue : ¬ policy.Due count) :
    compensator.rowAfter? updates index (count + 1)
      = compensator.rowAfter? updates index count := by
  obtain ⟨held, next, hheld, hnext, hrow⟩ :=
    h.row_after haccepts htemplates (List.getElem?_eq_getElem hcount)
  have hbefore := h.observe haccepts htemplates (Nat.le_of_lt hcount)
  have hidle : ¬ policy.isDue count (policy.recomputations count) = true :=
    fun hidle ↦ hdue (AdaptivePolicy.is_due_iff.mp hidle)
  simp only [nextRow?, TrackedGain.after, GainMode.recomputations, hbefore.counted] at hnext
  rw [if_neg hidle] at hnext
  rw [hheld, hrow, hnext]

/-- Two compensators with the same policy for a template that see the same frames at the updates
that are due keep its row equal. -/
theorem Tracks.row_congr {policy : AdaptivePolicy}
    (h : compensator.Tracks (.adaptive policy) interpolation index 0)
    (hother : other.Tracks (.adaptive policy) interpolation index 0)
    (haccepts : compensator.Accepts updates) (hotherAccepts : other.Accepts otherUpdates)
    (htemplates : ∀ update ∈ updates, update.templates[index]? = some template)
    (hotherTemplates : ∀ update ∈ otherUpdates, update.templates[index]? = some template)
    (hlength : otherUpdates.length = updates.length)
    (hstart : other.table.row? index = compensator.table.row? index)
    (hframes : ∀ count, policy.Due count →
      otherUpdates[count]?.map GainUpdate.frames = updates[count]?.map GainUpdate.frames)
    (hcount : count ≤ updates.length) :
    other.rowAfter? otherUpdates index count = compensator.rowAfter? updates index count := by
  induction count with
  | zero => exact hstart
  | succ count ih =>
      have hbefore := ih (Nat.le_of_succ_le hcount)
      have hotherCount : count < otherUpdates.length := hlength ▸ hcount
      by_cases hdue : policy.Due count
      · have hupdate := List.getElem?_eq_getElem hcount
        have hotherUpdate := List.getElem?_eq_getElem hotherCount
        have hsame := hframes count hdue
        rw [hupdate, hotherUpdate, Option.map_some, Option.map_some, Option.some.injEq] at hsame
        obtain ⟨held, next, hheld, hnext, hrow⟩ := h.row_after haccepts htemplates hupdate
        obtain ⟨otherHeld, otherNext, hotherHeld, hotherNext, hotherRow⟩ :=
          hother.row_after hotherAccepts hotherTemplates hotherUpdate
        have hstate := h.observe haccepts htemplates (Nat.le_of_succ_le hcount)
        have hotherState :=
          hother.observe hotherAccepts hotherTemplates (Nat.le_of_lt hotherCount)
        rw [hheld, hotherHeld, Option.some.injEq] at hbefore
        rw [hbefore, hsame, next_row_congr (hotherState.interpolation.trans
          hstate.interpolation.symm) (hotherState.counted.trans hstate.counted.symm), hnext]
          at hotherNext
        rw [hrow, hotherRow, hotherNext]
      · rw [h.row_held haccepts htemplates hcount hdue,
          hother.row_held hotherAccepts hotherTemplates hotherCount hdue, hbefore]

/-- A disabled template keeps the row it starts with. -/
theorem Tracks.row_disabled (h : compensator.Tracks .disabled interpolation index 0)
    (haccepts : compensator.Accepts updates)
    (htemplates : ∀ update ∈ updates, update.templates[index]? = some template)
    (hcount : count ≤ updates.length) :
    compensator.rowAfter? updates index count = compensator.table.row? index := by
  induction count with
  | zero => rfl
  | succ count ih =>
      obtain ⟨held, next, hheld, hnext, hrow⟩ :=
        h.row_after haccepts htemplates (List.getElem?_eq_getElem hcount)
      rw [hrow, ← hnext, ← ih (Nat.le_of_succ_le hcount), hheld]
      rfl

/-- What the gains of a template may depend on. Two compensators for the same sources that give the
template the same mode, whatever they do with other templates, take in as many frame sets. Without
gains the row stays at one, and fixed and scheduled gains follow the number of the update. Adaptive
gains change at updates that are due only, and they are the same if the frames of these updates
are. -/
theorem row_depends {modes otherModes : List GainMode} {inputs : Nat}
    (hmake : make modes inputs interpolation = .ok compensator)
    (hotherMake : make otherModes inputs interpolation = .ok other)
    (hmode : modes[index]? = some mode) (hotherMode : otherModes[index]? = some mode)
    (hlength : otherUpdates.length = updates.length)
    (haccepts : compensator.Accepts updates) (hotherAccepts : other.Accepts otherUpdates)
    (htemplates : ∀ update ∈ updates, update.templates[index]? = some template)
    (hotherTemplates : ∀ update ∈ otherUpdates, update.templates[index]? = some template) :
    let row? := compensator.rowAfter? updates index
    let otherRow? := other.rowAfter? otherUpdates index
    (∀ count ≤ updates.length, ∃ row, row? count = some row ∧ row.length = inputs) ∧
      match mode with
      | .disabled => ∀ count ≤ updates.length, row? count = some (List.replicate inputs 1)
      | .fixed gains => ∀ count < updates.length, row? (count + 1) = some gains
      | .scheduled schedule => ∀ count < updates.length,
          row? (count + 1) = schedule.rows[min count (schedule.rows.length - 1)]?
      | .adaptive policy =>
          (∀ count < updates.length, ¬ policy.Due count → row? (count + 1) = row? count) ∧
            ((∀ count, policy.Due count →
                otherUpdates[count]?.map GainUpdate.frames
                  = updates[count]?.map GainUpdate.frames) →
              ∀ count ≤ updates.length, otherRow? count = row? count) := by
  intro row? otherRow?
  obtain ⟨htracks, hunity⟩ := tracks_of_make hmake hmode
  obtain ⟨hotherTracks, hotherUnity⟩ := tracks_of_make hotherMake hotherMode
  refine ⟨fun count hcount ↦ ?_, ?_⟩
  · obtain ⟨hshaped, hinputs⟩ := (shaped_of_make hmake).observe (updates.take count)
    have hstate := htracks.observe haccepts htemplates hcount
    obtain ⟨hindex, _⟩ := List.getElem?_eq_some_iff.mp hstate.tracked
    obtain ⟨row, hrow, hwidth⟩ := hshaped.row hindex
    exact ⟨row, hrow, hwidth.trans (hinputs.trans (inputs_of_make hmake))⟩
  · cases mode with
    | disabled =>
        intro count hcount
        exact (htracks.row_disabled haccepts htemplates hcount).trans hunity
    | fixed gains =>
        intro count hcount
        obtain ⟨held, next, _, hnext, hrow⟩ :=
          htracks.row_after haccepts htemplates (List.getElem?_eq_getElem hcount)
        exact hrow.trans hnext.symm
    | scheduled schedule =>
        intro count hcount
        obtain ⟨held, next, _, hnext, hrow⟩ :=
          htracks.row_after haccepts htemplates (List.getElem?_eq_getElem hcount)
        have hstate := htracks.observe haccepts htemplates (Nat.le_of_lt hcount)
        rw [← hstate.counted]
        rw [← hstate.counted] at hrow
        exact hrow.trans hnext.symm
    | adaptive policy =>
        refine ⟨fun count hcount hdue ↦ htracks.row_held haccepts htemplates hcount hdue,
          fun hframes count hcount ↦ ?_⟩
        exact htracks.row_congr hotherTracks haccepts hotherAccepts htemplates hotherTemplates
          hlength (hotherUnity.trans hunity.symm) hframes hcount

end GainCompensator

/-! ### Two sources that share a pixel -/

/-- A template of one pixel, which shows two sources of one pixel each. -/
def Template.sharedSpot : Template where
  size := ⟨1, 1⟩
  inputs := [⟨1, 1⟩, ⟨1, 1⟩]
  region := .full
  blend := .weighted
  gain := .adaptive
  edge := .fill
  table := ⟨#[0, 2], #[⟨0, 0, 0, 1⟩, ⟨1, 0, 0, 1⟩]⟩

/-- A template of one pixel, which shows no source. -/
def Template.blankSpot : Template :=
  { Template.sharedSpot with table := ⟨#[0, 0], #[]⟩ }

/-- A view of one gray pixel. -/
def FrameView.grayPixel (byte : UInt8) : FrameView :=
  ⟨.gray8, ⟨1, 1⟩, [⟨#[byte], 0, 1, 1, 1, 1⟩]⟩

/-- The policy that recomputes gains at every other update. -/
def AdaptivePolicy.spot : AdaptivePolicy := { standard with intervalFrames := 2 }

namespace GainCompensator

/-- A compensator that adapts the gains of one template. -/
def spot : GainCompensator :=
  ⟨2, .bilinear, [⟨.adaptive .spot, 0⟩], ⟨[[1, 1]]⟩, 0⟩

/-- A compensator that adapts the gains of one template and fixes those of another one. -/
def spotBeside : GainCompensator :=
  ⟨2, .bilinear, [⟨.adaptive .spot, 0⟩, ⟨.fixed [2, 3], 0⟩], ⟨[[1, 1], [1, 1]]⟩, 0⟩

/-- Three updates, of which the second one is not due. -/
def spotUpdates : List GainUpdate :=
  [⟨[.grayPixel 100, .grayPixel 50], [.sharedSpot]⟩, ⟨[.grayPixel 7, .grayPixel 9], [.sharedSpot]⟩,
    ⟨[.grayPixel 80, .grayPixel 60], [.sharedSpot]⟩]

/-- Updates with other frames at the second one, and with another template. -/
def spotUpdatesBeside : List GainUpdate :=
  [⟨[.grayPixel 100, .grayPixel 50], [.sharedSpot, .blankSpot]⟩,
    ⟨[.grayPixel 200, .grayPixel 1], [.sharedSpot, .blankSpot]⟩,
    ⟨[.grayPixel 80, .grayPixel 60], [.sharedSpot, .blankSpot]⟩]

/-- The gains of the shared pixel move, and neither the frames of the update that is not due nor the
other template matter. -/
theorem spot_row_depends : ∃ row, row ≠ [1, 1] ∧ spot.rowAfter? spotUpdates 0 3 = some row ∧
    spotBeside.rowAfter? spotUpdatesBeside 0 3 = some row := by
  have hmake : make [.adaptive .spot] 2 .bilinear = .ok spot := by decide +kernel
  have hmakeBeside : make [.adaptive .spot, .fixed [2, 3]] 2 .bilinear = .ok spotBeside := by
    decide +kernel
  have haccepts : spot.Accepts spotUpdates
    | 0, _, rfl => by decide +kernel
    | 1, _, rfl => by decide +kernel
    | 2, _, rfl => by decide +kernel
  have hacceptsBeside : spotBeside.Accepts spotUpdatesBeside
    | 0, _, rfl => by decide +kernel
    | 1, _, rfl => by decide +kernel
    | 2, _, rfl => by decide +kernel
  have hframes (count : Nat) (hdue : AdaptivePolicy.spot.Due count) :
      spotUpdatesBeside[count]?.map GainUpdate.frames
        = spotUpdates[count]?.map GainUpdate.frames := by
    rcases count with _ | _ | _ | count
    · rfl
    · exact absurd hdue.1 (by decide)
    · rfl
    · rfl
  have hmoved : spot.rowAfter? spotUpdates 0 3 ≠ some [1, 1] := by decide +kernel
  have hmode : ([.adaptive .spot] : List GainMode)[0]? = some (.adaptive .spot) := rfl
  have hmodeBeside :
      ([.adaptive .spot, .fixed [2, 3]] : List GainMode)[0]? = some (.adaptive .spot) := rfl
  have hlength : spotUpdatesBeside.length = spotUpdates.length := rfl
  have htemplates : ∀ update ∈ spotUpdates, update.templates[0]? = some .sharedSpot := by
    simp [spotUpdates]
  have htemplatesBeside :
      ∀ update ∈ spotUpdatesBeside, update.templates[0]? = some .sharedSpot := by
    simp [spotUpdatesBeside]
  obtain ⟨hpresent, _, hsame⟩ := row_depends hmake hmakeBeside hmode hmodeBeside hlength haccepts
    hacceptsBeside htemplates htemplatesBeside
  obtain ⟨row, hrow, _⟩ := hpresent 3 (Nat.le_refl 3)
  refine ⟨row, ?_, hrow, (hsame hframes 3 (Nat.le_refl 3)).trans hrow⟩
  intro hunity
  exact hmoved (hunity ▸ hrow)

end GainCompensator

end Panorama
