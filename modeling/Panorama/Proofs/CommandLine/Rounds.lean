import Panorama.Proofs.CommandLine.Delivery
import Panorama.Proofs.Frame.Assembler
import Panorama.Proofs.Frame.Reading

/-!
# Reading in rounds

A session reads one frame from every input in turn. In a round in which every stream has a frame,
these frames are submitted as a set; a round in which some stream has none is the last one, and what
was read in it is left out. `Session.InRound` says how far the inputs have been read in the middle
of a round.
-/

namespace Panorama

/-- The sets of the first frames, the second frames, and so on. -/
def alignedSets (streams : List (List Frame)) (count : Nat) : List (List Frame) :=
  (List.range count).map fun number ↦ streams.filterMap (·[number]?)

/-- Number of sets that streams have frames for, up to a limit. -/
def setCount (streams : List (List Frame)) (limit : Option Nat) : Nat :=
  (limit.toList ++ streams.map List.length).min?.getD 0

section Counting

variable {streams : List (List Frame)} {limit : Option Nat}

/-- The number of sets is the smallest of the limit and the lengths of the streams. -/
theorem set_count_spec (h : streams ≠ []) :
    setCount streams limit ∈ limit.toList ++ streams.map List.length ∧
      ∀ count ∈ limit.toList ++ streams.map List.length, setCount streams limit ≤ count := by
  unfold setCount
  cases hmin : (limit.toList ++ streams.map List.length).min? with
  | none =>
      rw [List.min?_eq_none_iff, List.append_eq_nil_iff, List.map_eq_nil_iff] at hmin
      exact absurd hmin.2 h
  | some count => exact List.min?_eq_some_iff.mp hmin

/-- Every stream has a frame for every set. -/
theorem set_count_le_length (h : streams ≠ []) {stream : List Frame} (hstream : stream ∈ streams) :
    setCount streams limit ≤ stream.length :=
  (set_count_spec h).2 _ (List.mem_append_right _ (List.mem_map_of_mem hstream))

/-- There are no more sets than the limit. -/
theorem set_count_le_limit (h : streams ≠ []) {count : Nat} (hlimit : limit = some count) :
    setCount streams limit ≤ count :=
  (set_count_spec h).2 _ (List.mem_append_left _ (Option.mem_toList.mpr hlimit))

/-- There are as many sets as the limit says or some stream has frames. -/
theorem set_count_reached (limit : Option Nat) (h : streams ≠ []) :
    limit = some (setCount streams limit) ∨
      ∃ stream ∈ streams, stream.length = setCount streams limit := by
  rcases List.mem_append.mp (set_count_spec h).1 with hlimit | hlength
  · exact .inl (Option.mem_toList.mp hlimit)
  · exact .inr (List.mem_map.mp hlength)

/-- There are as many sets as are asked for. -/
theorem aligned_sets_length (count : Nat) : (alignedSets streams count).length = count := by
  rw [alignedSets, List.length_map, List.length_range]

/-- A set has the frames with its number. -/
theorem aligned_sets_get {count number : Nat} (h : number < count) :
    (alignedSets streams count)[number]? = some (streams.filterMap (·[number]?)) := by
  rw [alignedSets, List.getElem?_map, List.getElem?_range h, Option.map_some]

end Counting

/-! ### Assembling in rounds -/

namespace FrameAssembler

variable {streams : List (List Frame)} {stream : List Frame} {frame : Frame}
  {round position : Nat}

/-- An assembler in the middle of a round, to which the inputs in front of a position have
delivered. -/
def inRound (streams : List (List Frame)) (round position : Nat) : FrameAssembler :=
  ⟨(streams.take position).map (·[round]?) ++ List.replicate (streams.length - position) none,
    false⟩

/-- The place of the next input is free. -/
theorem in_round_slot (round : Nat) (h : position < streams.length) :
    (inRound streams round position).slots[position]? = some none := by
  have hlength : ((streams.take position).map (·[round]?)).length = position := by
    rw [List.length_map, List.length_take_of_le h.le]
  show ((streams.take position).map (·[round]?) ++ List.replicate _ none)[position]? = _
  rw [List.getElem?_append_right hlength.le, hlength, List.getElem?_replicate, if_pos (by omega)]

/-- The next input fills its place. -/
theorem in_round_fill (hstream : streams[position]? = some stream)
    (hframe : stream[round]? = some frame) :
    (inRound streams round position).fill position frame
      = inRound streams round (position + 1) := by
  have hposition := (List.getElem?_eq_some_iff.mp hstream).1
  have hlength : ((streams.take position).map (·[round]?)).length = position := by
    rw [List.length_map, List.length_take_of_le hposition.le]
  have hrest : streams.length - position = streams.length - (position + 1) + 1 := by omega
  unfold fill inRound
  congr 1
  rw [List.set_append_right _ _ hlength.le, hlength, Nat.sub_self, hrest, List.replicate_succ,
    List.set_cons_zero, List.take_add_one, hstream, Option.toList_some, List.map_append,
    List.map_singleton, hframe, List.append_assoc]
  rfl

/-- Before the last input has delivered, there is no set. -/
theorem push_in_round (hstream : streams[position]? = some stream)
    (hframe : stream[round]? = some frame) (hmore : position + 1 < streams.length) :
    (inRound streams round position).push position frame
      = .ok (.incomplete, inRound streams round (position + 1)) := by
  have hslot := in_round_slot round (Nat.lt_of_succ_lt hmore)
  rcases push_accepted rfl hslot frame with ⟨frames, hslots, _⟩ | ⟨_, hpush⟩
  · have hfree := in_round_slot round hmore
    rw [← in_round_fill hstream hframe, hslots, List.getElem?_map, Option.map_eq_some_iff] at hfree
    obtain ⟨_, _, hnone⟩ := hfree
    cases hnone
  · rw [hpush, in_round_fill hstream hframe]

/-- In a round in which every stream has a frame, every place is filled with one. -/
theorem map_get_of_lt (h : ∀ stream ∈ streams, round < stream.length) :
    streams.map (·[round]?) = (streams.filterMap (·[round]?)).map some := by
  induction streams with
  | nil => rfl
  | cons stream streams ih =>
      obtain ⟨hfirst, hothers⟩ := List.forall_mem_cons.mp h
      have hframe := List.getElem?_eq_getElem hfirst
      rw [List.map_cons, ih hothers, List.filterMap_cons, hframe, List.map_cons]

/-- The last input completes the set, and the next round begins. -/
theorem push_last_in_round (hstream : streams[position]? = some stream)
    (hframe : stream[round]? = some frame) (hlast : position + 1 = streams.length)
    (hround : ∀ stream ∈ streams, round < stream.length) :
    (inRound streams round position).push position frame
      = .ok (.ready (streams.filterMap (·[round]?)), inRound streams (round + 1) 0) := by
  have hfilled : ((inRound streams round position).fill position frame).slots
      = (streams.filterMap (·[round]?)).map some := by
    rw [in_round_fill hstream hframe, hlast]
    show (streams.take streams.length).map (·[round]?) ++ List.replicate _ none = _
    rw [List.take_length, Nat.sub_self, List.replicate_zero, List.append_nil]
    exact map_get_of_lt hround
  have hdiscard : ((inRound streams round position).fill position frame).discard
      = inRound streams (round + 1) 0 := by
    rw [in_round_fill hstream hframe, hlast]
    unfold discard inRound
    rw [List.take_length, Nat.sub_self, List.replicate_zero, List.append_nil, List.map_map,
      List.take_zero, List.map_nil, List.nil_append, Nat.sub_zero]
    exact congrArg (FrameAssembler.mk · false) (List.map_const' ..)
  rw [push_free rfl (in_round_slot round (by omega)), map_id_eq_some_iff.mpr hfilled, hdiscard]

end FrameAssembler

/-! ### Reading in rounds -/

namespace CommandLine

/-- Raw streams to read. -/
structure Feed where
  /-- Layout of the frames. -/
  format : PixelFormat
  /-- Size of the frames of every stream. -/
  sizes : List Canvas
  /-- The frames of every stream. -/
  streams : List (List Frame)
  nonempty : streams ≠ []
  count : sizes.length = streams.length
  readable : ∀ size ∈ sizes, ∃ planes, Frame.tightPlanes format size = .ok planes

/-- In the middle of a round, the inputs in front of a position have been read one frame further
than the others. -/
structure Feed.Unread (feed : Feed) (round position : Nat) (inputs : List FileInput) : Prop where
  count : inputs.length = feed.streams.length
  left : ∀ (index : Nat) (size : Canvas) (stream : List Frame) (input : FileInput),
    feed.sizes[index]? = some size → feed.streams[index]? = some stream →
      inputs[index]? = some input →
      Frame.Stream feed.format size
        (stream.drop (if index < position then round + 1 else round)) input.source.bytes ∧
          input.source.failure = none

namespace Feed.Unread

variable {feed : Feed} {round position : Nat} {inputs : List FileInput} {size : Canvas}
  {stream : List Frame} {frame : Frame}

/-- The input whose turn it is. -/
theorem exists_input (h : feed.Unread round position inputs)
    (hsize : feed.sizes[position]? = some size)
    (hstream : feed.streams[position]? = some stream) :
    ∃ input, inputs[position]? = some input ∧
      Frame.Stream feed.format size (stream.drop round) input.source.bytes ∧
        input.source.failure = none := by
  have hposition := (List.getElem?_eq_some_iff.mp hstream).1
  rw [← h.count] at hposition
  have hinput := List.getElem?_eq_getElem hposition
  have hleft := h.left position size stream _ hsize hstream hinput
  rw [if_neg (lt_irrefl position)] at hleft
  exact ⟨_, hinput, hleft⟩

/-- When a frame has been read from the input whose turn it is, it is the turn of the next one. -/
theorem advance (h : feed.Unread round position inputs)
    (hsize : feed.sizes[position]? = some size)
    (hstream : feed.streams[position]? = some stream) {input : FileInput}
    (hleft : Frame.Stream feed.format size (stream.drop (round + 1)) input.source.bytes)
    (hfailure : input.source.failure = none) :
    feed.Unread round (position + 1) (inputs.set position input) := by
  refine ⟨(List.length_set ..).trans h.count, fun index size' stream' input' hsize' hstream'
    hinput' ↦ ?_⟩
  rw [List.getElem?_set] at hinput'
  by_cases hindex : position = index
  · subst hindex
    rw [hsize, Option.some.injEq] at hsize'
    rw [hstream, Option.some.injEq] at hstream'
    rw [if_pos rfl] at hinput'
    split at hinput'
    · cases hinput'
      rw [if_pos (Nat.lt_succ_self position), ← hsize', ← hstream']
      exact ⟨hleft, hfailure⟩
    · cases hinput'
  · rw [if_neg hindex] at hinput'
    have hunread := h.left index size' stream' input' hsize' hstream' hinput'
    have hsame : index < position + 1 ↔ index < position := by omega
    simpa only [hsame] using hunread

/-- Behind the last input, a new round begins. -/
theorem next_round (h : feed.Unread round position inputs)
    (hlast : position = feed.streams.length) : feed.Unread (round + 1) 0 inputs := by
  refine ⟨h.count, fun index size stream input hsize hstream hinput ↦ ?_⟩
  have hunread := h.left index size stream input hsize hstream hinput
  rw [if_pos (hlast ▸ (List.getElem?_eq_some_iff.mp hstream).1)] at hunread
  rwa [if_neg (Nat.not_lt_zero index)]

end Feed.Unread

namespace Session

variable {plan : Plan} {feed : Feed} {session : Session} {round position : Nat} {size : Canvas}
  {stream : List Frame} {frame : Frame}

/-- A session in the middle of a round. -/
structure InRound (plan : Plan) (feed : Feed) (round position : Nat) (session : Session) :
    Prop where
  progress : Progress plan round (round - 1) session
  flowing : session.pipeline.slots.state ≠ .draining
  assembler : session.assembler = .inRound feed.streams round position
  unread : feed.Unread round position session.inputs
  format : session.format = feed.format
  sizes : session.sizes = feed.sizes

/-- What is held for the next set makes no difference to what is written. -/
theorem Progress.assemble {submitted delivered : Nat}
    (h : Progress plan submitted delivered session) (assembler : FrameAssembler) :
    Progress plan submitted delivered { session with assembler } :=
  ⟨h.writes.unaffected _ assembler _, h.carries, h.count, h.submitted⟩

/-- Reading on from an input changes nothing that is written. -/
theorem Progress.advance {submitted delivered : Nat} {input : FileInput}
    (h : Progress plan submitted delivered session)
    (hinput : session.inputs[position]? = some input) (lengths : List Nat) (source : Source) :
    Progress plan submitted delivered
      { session with inputs := session.inputs.set position (input.advance lengths source) } := by
  refine ⟨⟨h.writes.out, h.writes.preview, fun other hother ↦ ?_, h.writes.picture⟩, h.carries,
    h.count, h.submitted⟩
  rcases List.mem_or_eq_of_mem_set hother with hkept | rfl
  · exact h.writes.sources other hkept
  · exact h.writes.sources input (List.mem_of_getElem? hinput)

namespace InRound

/-- A frame that an input has in this round is read and given to the assembler. -/
theorem read_frame (h : InRound plan feed round position session)
    (hsize : feed.sizes[position]? = some size)
    (hstream : feed.streams[position]? = some stream) (hframe : stream[round]? = some frame) :
    ∃ inputs, session.readInput position size
        = { session with inputs }.accept position (some frame) ∧
      Progress plan round (round - 1) { session with inputs } ∧
        feed.Unread round (position + 1) inputs := by
  obtain ⟨input, hinput, hleft, hfailure⟩ := h.unread.exists_input hsize hstream
  obtain ⟨hround, rfl⟩ := List.getElem?_eq_some_iff.mp hframe
  rw [List.drop_eq_getElem_cons hround] at hleft
  obtain ⟨source, hread, hrest, hsame⟩ := hleft.read_cons
  refine ⟨session.inputs.set position (input.advance (session.pieceLengths size) source), ?_,
    h.progress.advance hinput _ _,
    h.unread.advance hsize hstream hrest (hsame.trans hfailure)⟩
  unfold readInput
  rw [hinput]
  dsimp only
  rw [h.format, hread]

/-- An input that has no frame in this round ends the stream. -/
theorem read_end (h : InRound plan feed round position session)
    (hsize : feed.sizes[position]? = some size)
    (hstream : feed.streams[position]? = some stream) (hend : stream.length ≤ round) :
    ∃ next, session.readInput position size = (.ok false, next) ∧
      Progress plan round (round - 1) next ∧ next.pipeline.slots.state ≠ .draining := by
  obtain ⟨input, hinput, hleft, hfailure⟩ := h.unread.exists_input hsize hstream
  obtain ⟨planes, hplanes⟩ := feed.readable size (List.mem_of_getElem? hsize)
  rw [List.drop_eq_nil_of_le hend] at hleft
  obtain ⟨source, hread⟩ := hleft.read_nil hfailure hplanes
  have hprogress := h.progress.advance hinput (session.pieceLengths size) source
  refine ⟨{ session with
    inputs := session.inputs.set position (input.advance (session.pieceLengths size) source)
    assembler := session.assembler.close.2 }, ?_, hprogress.assemble _, h.flowing⟩
  unfold readInput
  rw [hinput]
  dsimp only
  rw [h.format, hread]
  rfl

/-- Before the last input has been read, the round goes on. -/
theorem read_more (h : InRound plan feed round position session)
    (hsize : feed.sizes[position]? = some size)
    (hstream : feed.streams[position]? = some stream) (hframe : stream[round]? = some frame)
    (hmore : position + 1 < feed.streams.length) :
    ∃ next, session.readInput position size = (.ok true, next) ∧
      InRound plan feed round (position + 1) next := by
  obtain ⟨inputs, hread, hprogress, hunread⟩ := h.read_frame hsize hstream hframe
  have hpush := FrameAssembler.push_in_round hstream hframe hmore
  rw [← h.assembler] at hpush
  refine ⟨{ session with inputs, assembler := .inRound feed.streams round (position + 1) }, ?_,
    hprogress.assemble _, h.flowing, rfl, hunread, h.format, h.sizes⟩
  rw [hread]
  unfold accept
  dsimp only
  rw [hpush]

/-- When the last input has been read, the set is submitted, and a new round begins. -/
theorem read_last (h : InRound plan feed round position session)
    (hsize : feed.sizes[position]? = some size)
    (hstream : feed.streams[position]? = some stream) (hframe : stream[round]? = some frame)
    (hlast : position + 1 = feed.streams.length)
    (hround : ∀ stream ∈ feed.streams, round < stream.length)
    (hset : plan.sets[round]? = some (feed.streams.filterMap (·[round]?))) :
    ∃ next, session.readInput position size = (.ok true, next) ∧
      InRound plan feed (round + 1) 0 next := by
  obtain ⟨inputs, hread, hprogress, hunread⟩ := h.read_frame hsize hstream hframe
  have hpush := FrameAssembler.push_last_in_round hstream hframe hlast hround
  rw [← h.assembler] at hpush
  obtain ⟨next, hsubmit, hnext, hsame, hflowing⟩ :=
    (hprogress.assemble (.inRound feed.streams (round + 1) 0)).submit h.flowing hset
  refine ⟨next, ?_, hnext, hflowing, hsame.assembler, ?_, hsame.format.trans h.format,
    hsame.sizes.trans h.sizes⟩
  · rw [hread]
    unfold accept
    dsimp only
    rw [hpush]
    dsimp only
    rw [hsubmit]
    rfl
  · rw [hsame.inputs]
    exact hunread.next_round hlast

/-- A round in which every stream has a frame submits the set of these frames. -/
theorem read_inputs_ok {rest : List Canvas} (h : InRound plan feed round position session)
    (hrest : feed.sizes.drop position = rest) (hposition : position < feed.streams.length)
    (hround : ∀ stream ∈ feed.streams, round < stream.length)
    (hset : plan.sets[round]? = some (feed.streams.filterMap (·[round]?))) :
    ∃ next, session.readInputs position rest = (.ok true, next) ∧
      InRound plan feed (round + 1) 0 next := by
  induction rest generalizing position session with
  | nil =>
      have hlength := congrArg List.length hrest
      rw [List.length_drop, feed.count, List.length_nil] at hlength
      omega
  | cons size rest ih =>
      have hsize : feed.sizes[position]? = some size := by
        rw [← List.head?_drop, hrest, List.head?_cons]
      have htail : feed.sizes.drop (position + 1) = rest := by
        rw [← List.tail_drop, hrest, List.tail_cons]
      have hstream := List.getElem?_eq_getElem hposition
      have hframe := List.getElem?_eq_getElem (hround _ (List.mem_of_getElem? hstream))
      unfold readInputs
      by_cases hmore : position + 1 < feed.streams.length
      · obtain ⟨next, hread, hnext⟩ := h.read_more hsize hstream hframe hmore
        rw [hread]
        exact ih hnext htail hmore
      · have hlast : position + 1 = feed.streams.length := by omega
        obtain ⟨next, hread, hnext⟩ := h.read_last hsize hstream hframe hlast hround hset
        rw [hread]
        have hnone : rest = [] := by
          rw [← htail, hlast, ← feed.count, List.drop_length]
        exact ⟨next, by rw [hnone]; rfl, hnext⟩

/-- A round in which some stream has no frame submits nothing. -/
theorem read_inputs_end {rest : List Canvas} (h : InRound plan feed round position session)
    (hrest : feed.sizes.drop position = rest)
    (hend : ∃ stream ∈ feed.streams.drop position, stream.length ≤ round) :
    ∃ next, session.readInputs position rest = (.ok false, next) ∧
      Progress plan round (round - 1) next ∧ next.pipeline.slots.state ≠ .draining := by
  obtain ⟨ended, hended, hshort⟩ := hend
  induction rest generalizing position session with
  | nil =>
      rw [List.drop_eq_nil_iff, feed.count] at hrest
      rw [List.drop_eq_nil_of_le hrest] at hended
      cases hended
  | cons size rest ih =>
      have hsize : feed.sizes[position]? = some size := by
        rw [← List.head?_drop, hrest, List.head?_cons]
      have htail : feed.sizes.drop (position + 1) = rest := by
        rw [← List.tail_drop, hrest, List.tail_cons]
      have hposition : position < feed.streams.length := by
        rw [← feed.count]
        exact (List.getElem?_eq_some_iff.mp hsize).1
      have hstream := List.getElem?_eq_getElem hposition
      unfold readInputs
      by_cases hshortNow : feed.streams[position].length ≤ round
      · obtain ⟨next, hread, hnext⟩ := h.read_end hsize hstream hshortNow
        rw [hread]
        exact ⟨next, rfl, hnext⟩
      · -- This input has a frame, so it is a later one that has none.
        have hframe := List.getElem?_eq_getElem (Nat.lt_of_not_le hshortNow)
        rw [List.drop_eq_getElem_cons hposition] at hended
        have hlater : ended ∈ feed.streams.drop (position + 1) := by
          rcases List.mem_cons.mp hended with rfl | hlater
          · exact absurd hshort hshortNow
          · exact hlater
        have hmore : position + 1 < feed.streams.length := by
          by_contra hlast
          rw [List.drop_eq_nil_of_le (Nat.le_of_not_lt hlast)] at hlater
          cases hlater
        obtain ⟨next, hread, hnext⟩ := h.read_more hsize hstream hframe hmore
        rw [hread]
        exact ih hnext htail hlater

end InRound

end Session

end CommandLine

end Panorama
