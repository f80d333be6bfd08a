import Panorama.Proofs.CommandLine.Rounds

/-!
# Whole sessions

A session submits the aligned sets of its streams, as many as there are, and delivers all of them.
The number of rounds is bounded by the bytes of the inputs, since every frame has a byte.
-/

namespace Panorama.CommandLine.Session

variable {plan : Plan} {feed : Feed} {session : Session} {limit : Option Nat} {round : Nat}

/-- Numbers that are added up are not smaller than one of them. -/
theorem add_le_foldl {count : Nat} {counts : List Nat} (h : count ∈ counts) (start : Nat) :
    start + count ≤ counts.foldl (· + ·) start := by
  have hstart (counts : List Nat) (start : Nat) : start ≤ counts.foldl (· + ·) start :=
    List.foldlRecOn counts _ (Nat.le_refl start) fun _ hle count _ ↦ Nat.le_add_right_of_le hle
  induction counts generalizing start with
  | nil => cases h
  | cons first counts ih =>
      rcases List.mem_cons.mp h with rfl | hlater
      · exact hstart counts _
      · exact (Nat.add_le_add_right (Nat.le_add_right start first) count).trans
          (ih hlater (start + first))

namespace InRound

section Aligned

variable (hsets : plan.sets = alignedSets feed.streams (setCount feed.streams limit))

include hsets

/-- There are as many sets as the limit and the streams allow. -/
theorem sets_length : plan.sets.length = setCount feed.streams limit := by
  rw [hsets, aligned_sets_length]

/-- There are fewer sets than the bound of a session that has read nothing. -/
theorem sets_lt_bound (h : InRound plan feed 0 0 session) : plan.sets.length < session.bound := by
  obtain ⟨stream, hstream⟩ := List.exists_mem_of_ne_nil _ feed.nonempty
  obtain ⟨index, hindex⟩ := List.getElem?_of_mem hstream
  have hposition := (List.getElem?_eq_some_iff.mp hindex).1
  have hinput := List.getElem?_eq_getElem (hposition.trans_eq h.unread.count.symm)
  obtain ⟨hleft, _⟩ := h.unread.left index _ stream _
    (List.getElem?_eq_getElem (hposition.trans_eq feed.count.symm)) hindex hinput
  rw [if_neg (Nat.not_lt_zero index), List.drop_zero] at hleft
  have hbound := add_le_foldl
    (List.mem_map_of_mem (f := fun input ↦ input.source.bytes.length)
      (List.mem_of_getElem? hinput)) 1
  have hfew := (sets_length hsets).trans_le (set_count_le_length feed.nonempty hstream)
  have hbytes := hleft.length_le
  show _ < (session.inputs.map fun input ↦ input.source.bytes.length).foldl (· + ·) 1
  omega

/-- Before the last set, the limit is not reached, and every stream has a further frame. -/
theorem goes_on (h : InRound plan feed round 0 session) (hlater : round < plan.sets.length) :
    session.isDone limit = false ∧ ∀ stream ∈ feed.streams, round < stream.length := by
  have hcount := hlater.trans_eq (sets_length hsets)
  refine ⟨?_, fun stream hstream ↦
    hcount.trans_le (set_count_le_length feed.nonempty hstream)⟩
  unfold isDone
  split
  · rename_i count
    have hlimit : setCount feed.streams (some count) ≤ count :=
      set_count_le_limit feed.nonempty rfl
    rw [h.progress.submitted, decide_eq_false_iff_not]
    omega
  · rfl

/-- Behind the last set, the limit is reached, or some stream has no further frame. -/
theorem ends (h : InRound plan feed plan.sets.length 0 session) : session.isDone limit = true ∨
    ∃ stream ∈ feed.streams, stream.length ≤ plan.sets.length := by
  have hcount := sets_length hsets
  rcases set_count_reached limit feed.nonempty with hlimit | ⟨stream, hstream, hlength⟩
  · left
    rw [hlimit, isDone, h.progress.submitted, hcount]
    exact decide_eq_true (le_refl _)
  · exact .inr ⟨stream, hstream, (hlength.trans hcount.symm).le⟩

/-- All sets are submitted, and then the stream ends. -/
theorem read_sets_ok {fuel : Nat} (h : InRound plan feed round 0 session)
    (hfuel : plan.sets.length < round + fuel) :
    ∃ next, readSets limit fuel session = (.ok false, next) ∧
      Progress plan plan.sets.length (plan.sets.length - 1) next ∧
        next.pipeline.slots.state ≠ .draining := by
  induction fuel generalizing round session with
  | zero =>
      have hround := h.progress.count
      omega
  | succ fuel ih =>
      unfold readSets
      rcases h.progress.count.lt_or_eq with hlater | hlast
      · obtain ⟨hgoing, hall⟩ := h.goes_on hsets hlater
        obtain ⟨next, hread, hnext⟩ := h.read_inputs_ok List.drop_zero
          (List.length_pos_iff.mpr feed.nonempty) hall
          (hsets ▸ aligned_sets_get (hlater.trans_eq (sets_length hsets)))
        rw [hgoing, if_neg Bool.false_ne_true, h.sizes, hread]
        exact ih hnext (by omega)
      · subst hlast
        rcases h.ends hsets with hdone | hend
        · rw [hdone, if_pos rfl]
          exact ⟨session, rfl, h.progress, h.flowing⟩
        · obtain ⟨next, hread, hprogress, hflowing⟩ :=
            h.read_inputs_end List.drop_zero (by rwa [List.drop_zero])
          rw [h.sizes, hread]
          split
          · exact ⟨session, rfl, h.progress, h.flowing⟩
          · exact ⟨next, rfl, hprogress, hflowing⟩

/-- A session that has read nothing reads all sets. -/
theorem read_all_ok (h : InRound plan feed 0 0 session) :
    ∃ next, session.readAll limit = (.ok false, next) ∧
      Progress plan plan.sets.length (plan.sets.length - 1) next ∧
        next.pipeline.slots.state ≠ .draining := by
  obtain ⟨next, hread, hnext⟩ :=
    read_sets_ok hsets h ((sets_lt_bound hsets h).trans_eq (Nat.zero_add _).symm)
  refine ⟨next, ?_, hnext⟩
  unfold readAll
  rw [hread]

/-- A session that has read nothing writes what it is to write. -/
theorem run_ok (h : InRound plan feed 0 0 session) :
    ∃ next, session.run limit = (.ok (), next) ∧ Written plan next.store := by
  obtain ⟨middle, hread, hprogress, _⟩ := read_all_ok hsets h
  obtain ⟨hcarries, hdraining⟩ := hprogress.carries.end_of_stream
  have hflight := hcarries.in_flight
  rw [hprogress.taken_length] at hflight hdraining
  have hended : Progress plan plan.sets.length (plan.sets.length - 1)
      { middle with pipeline := middle.pipeline.endOfStream } :=
    ⟨hprogress.writes.unaffected _ _ _, hcarries, hprogress.count, hprogress.submitted⟩
  obtain ⟨last, hdrain, hlast⟩ := hended.drain hdraining (by
    show plan.sets.length < plan.sets.length - 1
      + (middle.pipeline.endOfStream.slots.inFlight + 1)
    omega)
  obtain ⟨next, hflush, hwritten⟩ := hlast.flush
  refine ⟨next, ?_, hwritten⟩
  unfold Session.run stitch
  rw [hread]
  dsimp only
  rw [hdrain, hflush]
  rfl

end Aligned

end InRound

end Panorama.CommandLine.Session
