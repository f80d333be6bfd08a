import Panorama.Proofs.Stitcher.Safety

/-!
# Stitching with and without recycling

A stitcher that is given its outputs back makes of the same frame sets what one makes that never
is: outputs that are packed alike, and the same previews. The two differ in their pools only, and
`Stitcher.Agrees` is what every call keeps. Read `Sound.cycles_remade` first.
-/

namespace Panorama

open StitcherCall (frameSets)

/-- What was made in some buffers is packed like an output that was made in others. It suits the
compositor, and so it can be given back. -/
structure StitchOutput.RemadeAs (compositor : Compositor) (output result : StitchOutput) :
    Prop where
  packed : List.Forall₂ Frame.SamePacked output.outputs result.outputs
  shown : result.preview = output.preview
  targets : compositor.AreTargets result.outputs
  formed : ∀ preview, output.preview = some preview → preview.WellFormed

namespace Stitcher

variable {stitcher other : Stitcher} {frames : List Frame} {output : StitchOutput}
  {outputs : List StitchOutput} {calls : List StitcherCall}

/-- A stitcher agrees with itself. -/
theorem Agrees.refl (stitcher : Stitcher) : stitcher.Agrees stitcher := ⟨rfl, rfl, rfl⟩

/-- Stitchers that agree still do so when they have processed the same frame set. -/
theorem Agrees.process (h : stitcher.Agrees other) (frames : List Frame) :
    (stitcher.process frames).2.Agrees (other.process frames).2 := by
  obtain ⟨_, hstate, _⟩ := stitcher.process_state frames
  obtain ⟨_, hotherState, _⟩ := other.process_state frames
  rw [hstate, hotherState]
  refine ⟨h.compositor, ?_, h.preview⟩
  show observe other.compositor other.gains frames
    = observe stitcher.compositor stitcher.gains frames
  rw [h.compositor, h.gains]

/-- What one of two sound stitchers that agree makes of a frame set, the other makes of it too. -/
theorem Sound.remade (h : stitcher.Sound) (hother : other.Sound)
    (hvalid : stitcher.compositor.Valid) (hagrees : stitcher.Agrees other)
    (hprocess : (stitcher.process frames).1 = .ok output) :
    ∃ result, (other.process frames).1 = .ok result ∧
      output.RemadeAs stitcher.compositor result := by
  obtain ⟨result, hresult, hpacked, hshown⟩ := h.process_same hother hvalid hagrees.compositor
    hagrees.gains hagrees.preview hprocess
  obtain ⟨_, targets, _, _, hborrow, hrender, hpreview⟩ := process_eq_ok_iff.mp hresult
  have htargets : other.compositor.AreTargets result.outputs :=
    (Compositor.shows_render (hagrees.compositor ▸ hvalid)
      (hother.buffers.borrow_all.2 targets hborrow) hrender).1.are_targets
  refine ⟨result, hresult, hpacked, hshown, hagrees.compositor ▸ htargets, fun preview hsome ↦ ?_⟩
  rw [hshown, hsome] at hpreview
  exact (preview_of_tight htargets hpreview).1

/-- A stitcher makes outputs of frame sets, one of each, without being given anything back. -/
def Makes (stitcher : Stitcher) (sets : List (List Frame)) (outputs : List StitchOutput) : Prop :=
  (stitcher.cycles (sets.map .process)).map StitcherCycle.outcome = outputs.map .ok

/-- There is an output for every frame set. -/
theorem Makes.length_eq {sets : List (List Frame)} (h : stitcher.Makes sets outputs) :
    outputs.length = sets.length := by
  have hlength := congrArg List.length h
  rw [List.length_map, ← List.length_map StitcherCycle.frames, cycles_frames, List.length_map]
    at hlength
  rw [← hlength, StitcherCall.frameSets, List.filterMap_map]
  exact congrArg List.length (List.filterMap_some ..)

/-- The first outputs are made of the first frame sets. -/
theorem Makes.take {sets : List (List Frame)} (h : stitcher.Makes sets outputs) (count : Nat) :
    stitcher.Makes (sets.take count) (outputs.take count) := by
  induction sets generalizing stitcher outputs count with
  | nil =>
      rw [List.map_eq_nil_iff.mp h.symm, List.take_nil, List.take_nil]
      exact rfl
  | cons frames sets ih =>
      cases count with
      | zero => exact rfl
      | succ count =>
          cases outputs with
          | nil => cases h
          | cons output outputs =>
              obtain ⟨hfirst, hothers⟩ := List.cons_eq_cons.mp h
              exact congrArg₂ List.cons hfirst (ih hothers count)

/-- Outputs are made of frame sets with a frame per source. -/
theorem Makes.frame_count {sets : List (List Frame)} (h : stitcher.Makes sets outputs)
    (hframes : frames ∈ sets) : frames.length = stitcher.compositor.inputs.length := by
  induction sets generalizing stitcher outputs with
  | nil => cases hframes
  | cons first sets ih =>
      cases outputs with
      | nil => cases h
      | cons output outputs =>
          obtain ⟨hprocess, hothers⟩ := List.cons_eq_cons.mp h
          rcases List.mem_cons.mp hframes with rfl | hlater
          · obtain ⟨views, _, hprepare, _⟩ := process_eq_ok_iff.mp hprocess
            exact (Compositor.prepare_ok hprepare).1
          · obtain ⟨_, hstate, _⟩ := stitcher.process_state first
            have hkept := ih hothers hlater
            rwa [perform, hstate] at hkept

/-- A stitcher that is given well-formed frames back makes of every frame set what it would make
without. -/
theorem Sound.cycles_remade (h : stitcher.Sound) (hother : other.Sound)
    (hvalid : stitcher.compositor.Valid) (hagrees : stitcher.Agrees other)
    (hrecycled : Recycled calls) (hmakes : stitcher.Makes (frameSets calls) outputs) :
    List.Forall₂ (fun output cycle ↦ ∃ result, cycle.outcome = .ok result ∧
      StitchOutput.RemadeAs stitcher.compositor output result) outputs (other.cycles calls) := by
  induction calls generalizing stitcher other outputs with
  | nil =>
      rw [List.map_eq_nil_iff.mp hmakes.symm]
      exact .nil
  | cons call calls ih =>
      have hlater : Recycled calls := fun frames hframes ↦
        hrecycled frames (List.mem_cons_of_mem _ hframes)
      cases call with
      | process frames =>
          cases outputs with
          | nil => cases hmakes
          | cons output outputs =>
              obtain ⟨hprocess, hothers⟩ := List.cons_eq_cons.mp hmakes
              have hkept : (stitcher.process frames).2.compositor = stitcher.compositor := by
                obtain ⟨_, hstate, _⟩ := stitcher.process_state frames
                rw [hstate]
              refine .cons (h.remade hother hvalid hagrees hprocess) ?_
              rw [← hkept] at hvalid ⊢
              exact ih (h.process frames) (hother.process frames) hvalid (hagrees.process frames)
                hlater hothers
      | recycle frames =>
          have hreleased := hother.recycle (hrecycled frames List.mem_cons_self)
          exact ih h hreleased hvalid ⟨hagrees.compositor, hagrees.gains, hagrees.preview⟩ hlater
            hmakes

/-- Cycles that make outputs again succeed. -/
theorem outcome_of_remade {compositor : Compositor} {cycles : List StitcherCycle}
    (hmade : List.Forall₂ (fun output cycle ↦ ∃ result, cycle.outcome = .ok result ∧
      StitchOutput.RemadeAs compositor output result) outputs cycles) :
    ∀ cycle ∈ cycles, ∃ result, cycle.outcome = .ok result := by
  intro cycle hcycle
  obtain ⟨index, hindex⟩ := List.getElem?_of_mem hcycle
  obtain ⟨_, _, result, hresult, _⟩ := Failing.exists_of_forall₂ hmade.flip hindex
  exact ⟨result, hresult⟩

end Stitcher

end Panorama
