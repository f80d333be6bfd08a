import Panorama.Proofs.Frame.Rotation
import Panorama.Proofs.Stitcher.Recycling
import Panorama.Proofs.Stitcher.Retried

/-!
# Outputs in rotation

A host that holds the outputs of at most two frame sets, and gives those of the earlier one back
before it asks for more, makes a stitcher work in two sets of buffers for good. `Rotates` are the
calls of such a host, and `InRotation` is what each of them keeps of the pool.
-/

namespace Panorama

/-- Calls that never leave the outputs of more than two frame sets with the host. The outputs of one
of them are given back at a time. -/
inductive StitcherCall.Rotates (compositor : Compositor) : Nat → List StitcherCall → Prop where
  /-- Nothing is composed. -/
  | start : Rotates compositor 0 []
  /-- The host gets further outputs. -/
  | process {out : Nat} {calls : List StitcherCall} (frames : List Frame)
    (before : Rotates compositor out calls) (room : out < 2) :
    Rotates compositor (out + 1) (calls ++ [.process frames])
  /-- The host gives outputs back. -/
  | recycle {calls : List StitcherCall} {frames : List Frame}
    (before : Rotates compositor 2 calls) (targets : compositor.AreTargets frames) :
    Rotates compositor 1 (calls ++ [.recycle frames])

/-- Frames that can be rendered into are well-formed frames of the format and sizes. -/
theorem Compositor.AreTargets.formed {compositor : Compositor} {frames : List Frame}
    (h : compositor.AreTargets frames) :
    (∀ frame ∈ frames, frame.WellFormed ∧ frame.format = compositor.format) ∧
      frames.map Frame.size = compositor.outputSizes := by
  constructor
  · intro frame hframe
    obtain ⟨index, hindex⟩ := List.getElem?_of_mem hframe
    obtain ⟨_, _, hformed, hformat, _⟩ := Failing.exists_of_forall₂ (List.Forall₂.flip h) hindex
    exact ⟨hformed, hformat⟩
  · rw [← List.forall₂_eq_eq_eq, List.forall₂_map_left_iff]
    exact (List.Forall₂.flip h).imp fun _ _ htarget ↦ htarget.2.2

namespace StitcherCall.Rotates

variable {compositor : Compositor} {out : Nat} {calls later : List StitcherCall}

/-- Without the latest call, the calls are those of a host of the same kind. -/
theorem before_last {call : StitcherCall} (h : Rotates compositor out (calls ++ [call])) :
    ∃ before, Rotates compositor before calls := by
  generalize hall : calls ++ [call] = all at h
  cases h with
  | start => simp at hall
  | process frames hbefore hroom =>
      obtain ⟨rfl, -⟩ := List.append_inj' hall rfl
      exact ⟨_, hbefore⟩
  | recycle hbefore htargets =>
      obtain ⟨rfl, -⟩ := List.append_inj' hall rfl
      exact ⟨_, hbefore⟩

/-- The first calls are those of a host of the same kind. -/
theorem front (h : Rotates compositor out (calls ++ later)) :
    ∃ before, Rotates compositor before calls := by
  induction later using List.reverseRecOn generalizing out with
  | nil =>
      rw [List.append_nil] at h
      exact ⟨out, h⟩
  | append_singleton later call ih =>
      rw [← List.append_assoc] at h
      obtain ⟨before, hbefore⟩ := h.before_last
      exact ih hbefore

/-- What is given back is well-formed. -/
theorem recycled (h : Rotates compositor out calls) : Stitcher.Recycled calls := by
  induction h with
  | start => nofun
  | process frames _ _ ih => exact ih.concat nofun
  | recycle _ htargets ih =>
      refine ih.concat fun others hothers frame hframe ↦ ?_
      cases hothers
      exact (htargets.formed.1 frame hframe).1

end StitcherCall.Rotates

namespace Stitcher

open StitcherCall (Rotates)

variable {limits : PoolLimits} {compositor : Compositor} {stitcher : Stitcher} {out : Nat}
  {calls : List StitcherCall} {frames : List Frame} {output : StitchOutput}

/-- Counters that show no dropped frame, and no more than two frames made for each output. -/
structure WithinTwo (compositor : Compositor) (counters : PoolCounters) : Prop where
  allocated : counters.allocatedFrames ≤ 2 * compositor.outputSizes.length
  dropped : counters.dropped = 0

/-- The pool of a stitcher while the host holds the outputs of so many frame sets: it keeps the
buffers of the outputs that were given back, or nothing. -/
structure InRotation (limits : PoolLimits) (compositor : Compositor) (out : Nat)
    (stitcher : Stitcher) : Prop where
  few : out ≤ 2
  pool : stitcher.pool.Keeps limits compositor.format [] (out * compositor.outputSizes.length) ∨
    out = 1 ∧ stitcher.pool.Keeps limits compositor.format compositor.outputSizes
      (2 * compositor.outputSizes.length)
  compositor : stitcher.compositor = compositor

namespace InRotation

/-- A new stitcher keeps nothing and has made nothing. -/
theorem of_make {gains : GainCompensator} {preview : Option Canvas}
    (h : make compositor gains preview limits = .ok stitcher) :
    InRotation limits compositor 0 stitcher := by
  obtain ⟨_, _, rfl⟩ := make_eq_ok_iff.mp h
  refine ⟨Nat.zero_le 2, .inl ?_, rfl⟩
  rw [Nat.zero_mul]
  exact .start limits _

/-- Two sets of buffers are enough. -/
theorem within_two (h : InRotation limits compositor out stitcher) :
    WithinTwo compositor stitcher.pool.counters := by
  rcases h.pool with hkeeps | ⟨-, hkeeps⟩
  · exact ⟨hkeeps.made.trans (Nat.mul_le_mul_right _ h.few), hkeeps.dropped⟩
  · exact ⟨hkeeps.made, hkeeps.dropped⟩

/-- A composed frame set takes the buffers that are kept, or new ones if none are. -/
theorem process (h : InRotation limits compositor out stitcher) (hroom : out < 2)
    (hprocess : (stitcher.process frames).1 = .ok output) :
    InRotation limits compositor (out + 1) (stitcher.process frames).2 := by
  obtain ⟨_, _, _, hstate⟩ := parts_of_attempt (by rw [hprocess]; exact .ok output)
  obtain ⟨_, hpool, rfl⟩ := h
  rw [hstate]
  refine ⟨hroom, .inl ?_, rfl⟩
  rcases hpool with hkeeps | ⟨rfl, hkeeps⟩
  · have hmade := hkeeps.make_all stitcher.compositor.outputSizes
    rwa [← Nat.succ_mul] at hmade
  · exact hkeeps.borrow_all

/-- The outputs that are given back are all kept. -/
theorem recycle (h : InRotation limits compositor 2 stitcher)
    (hframes : compositor.AreTargets frames)
    (hroom : limits.HaveRoom compositor.format compositor.outputSizes) :
    InRotation limits compositor 1 (stitcher.recycle frames) := by
  obtain ⟨_, hpool, rfl⟩ := h
  obtain ⟨hformed, hsizes⟩ := hframes.formed
  refine ⟨Nat.le_succ 1, .inr ⟨rfl, ?_⟩, rfl⟩
  rcases hpool with hkeeps | ⟨hone, -⟩
  · rw [← hsizes] at hroom
    have hkept := hkeeps.release_all hformed hroom
    rwa [List.nil_append, hsizes] at hkept
  · cases hone

end InRotation

/-- However long the outputs of composed frame sets rotate, the pool never drops a frame and never
makes more than two for each output, neither now nor right after an earlier frame set. -/
theorem in_rotation_of_rotates {initial : Stitcher}
    (hstart : InRotation limits compositor 0 initial)
    (hroom : limits.HaveRoom compositor.format compositor.outputSizes)
    (hrotates : Rotates compositor out calls)
    (hok : ∀ cycle ∈ initial.cycles calls, ∃ output, cycle.outcome = .ok output) :
    InRotation limits compositor out (initial.performAll calls) ∧
      ∀ cycle ∈ initial.cycles calls, WithinTwo compositor cycle.pool := by
  induction hrotates with
  | start => exact ⟨hstart, nofun⟩
  | @process out calls frames hbefore hfew ih =>
      rw [cycles_concat_process] at hok ⊢
      rw [List.forall_mem_append] at hok ⊢
      obtain ⟨hearlier, hlast⟩ := hok
      obtain ⟨hrotation, hwithin⟩ := ih hearlier
      obtain ⟨output, hprocess⟩ := hlast _ (List.mem_singleton_self _)
      have hnext := hrotation.process hfew hprocess
      rw [perform_all_concat]
      refine ⟨hnext, hwithin, fun cycle hcycle ↦ ?_⟩
      rw [List.mem_singleton.mp hcycle]
      exact hnext.within_two
  | @recycle calls frames hbefore htargets ih =>
      -- Taking frames back is no cycle.
      have hcycles : initial.cycles (calls ++ [.recycle frames]) = initial.cycles calls := by
        rw [cycles_append]
        exact List.append_nil _
      rw [hcycles] at hok ⊢
      obtain ⟨hrotation, hwithin⟩ := ih hok
      rw [perform_all_concat]
      exact ⟨hrotation.recycle htargets hroom, hwithin⟩

end Stitcher

end Panorama
