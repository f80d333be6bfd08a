import Panorama.Proofs.Template.PrefixFree

/-!
# Loading does not depend on how the bytes arrive

A template file may arrive in any pieces, through a buffer or without one, and its stream may fail
instead of ending. What is loaded depends on the bytes alone; a failure takes the place of a
template that would have been loaded and of a field that would have been missing, and of nothing
else. Read `Uniform` and `Awaits` for what that means of a reader and `load_uniform` for whole
files.
-/

namespace Panorama

/-! ### Reading through a buffer -/

namespace Source

/-- A stream that is read through a buffer. -/
structure Buffered where
  /-- The bytes in the buffer. -/
  held : List UInt8
  /-- The stream behind the buffer. -/
  behind : Source

namespace Buffered

/-- A stream behind an empty buffer. -/
def start (source : Source) : Buffered := ⟨[], source⟩

/-- One read through a buffer. An empty buffer is filled by a single read of the stream behind it,
and passed by if it could not hold more than is asked for. -/
def read (stream : Buffered) (capacity count : Nat) :
    Except DeviceFailure (List UInt8 × Buffered) :=
  if stream.held = [] then
    if capacity ≤ count then
      (stream.behind.read count).map fun (bytes, behind) ↦ (bytes, ⟨[], behind⟩)
    else
      (stream.behind.read capacity).map fun (bytes, behind) ↦
        (bytes.take count, ⟨bytes.drop count, behind⟩)
  else .ok (stream.held.take count, { stream with held := stream.held.drop count })

/-- The pieces in which a stream arrives behind a buffer: what the buffer holds, and then what it is
filled with each time. -/
def source (stream : Buffered) (capacity : Nat) : Source where
  pieces := stream.held :: (stream.behind.pieces.flatMap (cut capacity)).filter (· ≠ [])
  failure := stream.behind.failure

end Buffered

/-- Cutting bytes loses none of them. -/
theorem cut_flatten (size : Nat) (bytes : List UInt8) : (cut size bytes).flatten = bytes := by
  fun_induction cut size bytes with
  | case1 bytes hshort => simp
  | case2 bytes hlong ih => rw [List.flatten_cons, ih, List.take_append_drop]

/-- A buffer loses no bytes. -/
theorem Buffered.source_bytes (stream : Buffered) (capacity : Nat) :
    (stream.source capacity).bytes = stream.held ++ stream.behind.bytes := by
  have hpieces (pieces : List (List UInt8)) :
      (pieces.flatMap (cut capacity)).flatten = pieces.flatten := by
    induction pieces with
    | nil => rfl
    | cons piece pieces ih =>
        rw [List.flatMap_cons, List.flatten_append, cut_flatten, ih, List.flatten_cons]
  show stream.held ++ ((stream.behind.pieces.flatMap (cut capacity)).filter (· ≠ [])).flatten = _
  rw [List.flatten_filter_ne_nil, hpieces]
  rfl

/-- Behind a buffer a piece is handed out as what the buffer holds of it, and then its rest. -/
theorem next_cut {count capacity : Nat} (hcapacity : count < capacity)
    {pieces : List (List UInt8)} (h : pieces.flatten ≠ []) :
    next count ((pieces.flatMap (cut capacity)).filter (· ≠ []))
      = ((next capacity pieces).1.take count, (next capacity pieces).1.drop count ::
          ((next capacity pieces).2.flatMap (cut capacity)).filter (· ≠ [])) := by
  have hempty : cut capacity [] = [[]] := by
    rw [cut, dif_pos (.inr (Nat.zero_le _))]
  fun_induction next capacity pieces with
  | case1 => exact absurd rfl h
  | case2 pieces ih =>
      rw [List.flatMap_cons, hempty]
      exact ih h
  | case3 byte bytes pieces =>
      rw [List.flatMap_cons, List.flatMap_cons, cut]
      by_cases hshort : capacity = 0 ∨ (byte :: bytes).length ≤ capacity
      · have hlength : (byte :: bytes).length ≤ capacity := by omega
        rw [dif_pos hshort, List.take_of_length_le hlength, List.drop_of_length_le hlength, hempty]
        rfl
      · obtain ⟨room, rfl⟩ := Nat.exists_eq_add_one_of_ne_zero (by omega : capacity ≠ 0)
        rw [dif_neg hshort, List.take_succ_cons]
        rfl

/-- A read through a buffer is a read of the pieces behind it. -/
theorem Buffered.read_source {stream : Buffered} {capacity count : Nat} (hcount : 0 < count)
    (hcapacity : count < capacity) (h : (stream.source capacity).bytes ≠ []) :
    ∃ bytes rest, stream.read capacity count = .ok (bytes, rest) ∧
      (stream.source capacity).read count = .ok (bytes, rest.source capacity) := by
  obtain ⟨room, rfl⟩ := Nat.exists_eq_add_one_of_ne_zero hcount.ne'
  obtain ⟨held, pieces, failure⟩ := stream
  cases held with
  | cons byte bytes =>
      refine ⟨_, _, if_neg (List.cons_ne_nil byte bytes), ?_⟩
      cases failure <;> rfl
  | nil =>
      rw [source_bytes, List.nil_append] at h
      have hcut := next_cut hcapacity h
      cases hnext : next capacity pieces with
      | mk front left =>
          have hfront : front ≠ [] := by
            intro hnil
            refine h (next_eq_nil (by omega : capacity ≠ 0) ?_).1
            rw [hnext, hnil]
          obtain ⟨byte, bytes, rfl⟩ := List.exists_cons_of_ne_nil hfront
          rw [hnext] at hcut
          refine ⟨(byte :: bytes).take (room + 1), ⟨(byte :: bytes).drop (room + 1), left, failure⟩,
            ?_, ?_⟩
          · simp only [read, if_neg (by omega : ¬capacity ≤ room + 1), Source.read, hnext]
            cases failure <;> rfl
          · simp only [Source.read, source, next, hcut]
            cases failure <;> rfl

end Source

/-! ### Streams with the same bytes -/

/-- What a reader says of a stream that may fail, if it says `error` of one that ends where the
other fails. -/
def Error.onStream (failure : Option DeviceFailure) : Error → Error
  | .malformedTemplate (.truncated field) => TemplateReader.shortage failure field
  | error => error

/-- What is not about the end of a stream is said of all streams. -/
theorem Error.on_stream_eq {error : Error}
    (h : ∀ field, error ≠ .malformedTemplate (.truncated field)) (failure : Option DeviceFailure) :
    error.onStream failure = error := by
  unfold onStream
  split
  · exact absurd rfl (h _)
  · rfl

namespace TemplateReader

variable {α β : Type}

/-- What a reader takes from one stream it takes from every other one with the same bytes. -/
theorem Reads.other {reader : TemplateReader α} {Spells : α → List UInt8 → Prop}
    (h : Reads reader Spells) {source other rest : Source} {value : α}
    (hbytes : other.bytes = source.bytes) (hread : reader source = .ok (value, rest)) :
    ∃ left, reader other = .ok (value, left) ∧ left.bytes = rest.bytes ∧
      left.failure = other.failure := by
  obtain ⟨front, hfront, hsource, _⟩ := h.sound hread
  exact h.complete hfront (hbytes.trans hsource)

/-- A reader refuses all streams with the same bytes for the same reason, but that those that fail
where another one ends too early are refused for their failure. -/
structure Uniform (reader : TemplateReader α) : Prop where
  refused : ∀ {source other : Source} {error : Error}, source.failure = none →
    other.bytes = source.bytes → reader source = .error error →
      reader other = .error (error.onStream other.failure)

namespace Uniform

/-- A value that is known is not refused. -/
theorem pure (value : α) : Uniform (pure value : TemplateReader α) where
  refused _ _ h := by
    cases h

/-- A refusal that is not about the end of a stream is one of all streams. -/
theorem refuse {flaw : TemplateFlaw} (h : ∀ field, flaw ≠ .truncated field) :
    Uniform (refuse flaw : TemplateReader α) where
  refused _ _ hread := by
    cases hread
    rw [Error.on_stream_eq]
    · rfl
    · intro field heq
      exact h field (Error.malformedTemplate.inj heq)

/-- Two readers one after the other. -/
theorem bind {first : TemplateReader α} {next : α → TemplateReader β}
    {First : α → List UInt8 → Prop} (hreads : Reads first First) (hfirst : Uniform first)
    (hnext : ∀ middle, Uniform (next middle)) : Uniform (first >>= next) where
  refused hfailure hbytes h := by
    rcases bind_eq_error_iff.mp h with hrefused | ⟨middle, between, hmiddle, hrefused⟩
    · exact bind_eq_error_iff.mpr (.inl (hfirst.refused hfailure hbytes hrefused))
    · obtain ⟨left, hleft, hleftBytes, hleftFailure⟩ := hreads.other hbytes hmiddle
      obtain ⟨_, _, _, hsame⟩ := hreads.sound hmiddle
      have hother := (hnext middle).refused (hsame.trans hfailure) hleftBytes hrefused
      rw [hleftFailure] at hother
      exact bind_eq_error_iff.mpr (.inr ⟨middle, left, hleft, hother⟩)

end Uniform

/-! ### Fields -/

/-- A field is missing from all streams that are too short for it. -/
theorem uniform_bytes (field : TemplateField) (count : Nat) : Uniform (bytes field count) where
  refused {source other error} hfailure hbytes h := by
    by_cases hshort : source.bytes.length < count
    · rw [bytes_of_short field hshort, hfailure] at h
      cases h
      rw [bytes_of_short field (hbytes ▸ hshort)]
      rfl
    · have hlength : (source.fill count).bytes.length = count := by
        rw [source.fill_bytes, List.length_take]
        omega
      simp only [bytes, if_pos hlength] at h
      cases h

/-- A composed reader refuses all streams or none. -/
theorem Composed.uniform {reader : TemplateReader α} (h : Composed reader) : Uniform reader := by
  induction h with
  | pure value => exact .pure value
  | refuse hflaw => exact .refuse hflaw
  | bytes field count => exact uniform_bytes field count
  | bind hfirst _ huniform hnext =>
      obtain ⟨_, hreads⟩ := hfirst.reads
      exact .bind hreads huniform hnext

/-! ### Files -/

/-- A reader that takes a whole stream waits for its end. -/
structure Awaits (reader : TemplateReader α) : Prop where
  failing : ∀ {source other rest : Source} {value : α} {failure : DeviceFailure},
    reader source = .ok (value, rest) → other.bytes = source.bytes →
      other.failure = some failure → reader other = .error (.io failure)

/-- A reader in front of one that takes the rest of a stream. -/
theorem Awaits.bind {first : TemplateReader α} {next : α → TemplateReader β}
    {First : α → List UInt8 → Prop} (hreads : Reads first First)
    (hnext : ∀ middle, Awaits (next middle)) : Awaits (first >>= next) where
  failing h hbytes hfailure := by
    obtain ⟨middle, between, hmiddle, hrest⟩ := bind_eq_ok_iff.mp h
    obtain ⟨left, hleft, hleftBytes, hleftFailure⟩ := hreads.other hbytes hmiddle
    have hother := (hnext middle).failing hrest hleftBytes (hleftFailure.trans hfailure)
    exact bind_eq_error_iff.mpr (.inr ⟨middle, left, hleft, hother⟩)

/-- The end of a stream is asked for, also where every byte has been read. -/
theorem awaits_finish (value : α) : Awaits (finish >>= fun _ ↦ pure value) where
  failing h hbytes hfailure := by
    obtain ⟨_, between, hfinish, _⟩ := bind_eq_ok_iff.mp h
    rw [(finish_ok hfinish).1] at hbytes
    refine bind_eq_error_iff.mpr (.inl ?_)
    rw [finish, Source.read_of_failing hbytes hfailure]

/-- What follows the last field is found in all streams or in none. -/
theorem uniform_finish (value : α) : Uniform (finish >>= fun _ ↦ pure value) where
  refused {source other error} hfailure hbytes h := by
    rcases bind_eq_error_iff.mp h with hfinish | ⟨_, _, _, hpure⟩
    · have hsource : source.bytes ≠ [] := by
        intro hnil
        obtain ⟨rest, hread, _⟩ := @Source.read_of_bytes_nil source 1 hnil hfailure
        rw [finish, hread] at hfinish
        cases hfinish
      obtain ⟨_, _, _, hread⟩ := Source.read_of_bytes_ne_nil one_ne_zero hsource
      rw [finish, hread] at hfinish
      cases hfinish
      obtain ⟨_, _, _, hother⟩ := Source.read_of_bytes_ne_nil one_ne_zero (hbytes ▸ hsource)
      refine bind_eq_error_iff.mpr (.inl ?_)
      rw [finish, hother]
      rfl
    · cases hpure

/-- A reader of a whole stream refuses all streams or none. -/
theorem Whole.uniform {reader : TemplateReader α} (h : Whole reader) : Uniform reader := by
  induction h with
  | finish value => exact uniform_finish value
  | bind hfirst _ hnext =>
      obtain ⟨_, hreads⟩ := hfirst.reads
      exact .bind hreads hfirst.uniform hnext

/-- A reader of a whole stream waits for its end. -/
theorem Whole.awaits {reader : TemplateReader α} (h : Whole reader) : Awaits reader := by
  induction h with
  | finish value => exact awaits_finish value
  | bind hfirst _ hnext =>
      obtain ⟨_, hreads⟩ := hfirst.reads
      exact .bind hreads hnext

end TemplateReader

namespace Template

/-- What loading comes to from a stream that fails, if it comes to `result` from one that ends where
the other fails. -/
def onFailure (failure : DeviceFailure) : Result Template → Result Template
  | .ok _ => .error (.io failure)
  | .error (.malformedTemplate (.truncated _)) => .error (.io failure)
  | .error error => .error error

/-- A stream that fails is never found to have ended. -/
theorem on_failure_ne_truncated (failure : DeviceFailure) (result : Result Template)
    (field : TemplateField) :
    onFailure failure result ≠ .error (.malformedTemplate (.truncated field)) := by
  fun_cases onFailure failure result with
  | case1 template => exact nofun
  | case2 missing => exact nofun
  | case3 error hother =>
      intro h
      exact hother field (Except.error.inj h)

/-- Loading fails as the reader of the file does. -/
theorem load_eq_error_iff {source : Source} {error : Error} :
    load source = .error error ↔ TemplateReader.template source = .error error := by
  rw [load_eq_map]
  cases TemplateReader.template source <;> simp [Except.map]

/-- What is loaded from a stream follows from what is loaded from one that has the same bytes and
ends behind them. -/
theorem load_other {source other : Source} (hsource : source.failure = none)
    (hbytes : other.bytes = source.bytes) :
    load other = match other.failure with
      | none => load source
      | some failure => onFailure failure (load source) := by
  cases hload : load source with
  | ok template =>
      cases hother : other.failure with
      | none =>
          obtain ⟨hlists, hencode, _⟩ := load_eq_ok_iff.mp hload
          exact load_eq_ok_iff.mpr ⟨hlists, hbytes.trans hencode, hother⟩
      | some failure =>
          obtain ⟨_, hread, _⟩ := exists_of_load hload
          exact load_eq_error_iff.mpr
            (TemplateReader.whole_template.awaits.failing hread hbytes hother)
  | error error =>
      have hread := TemplateReader.whole_template.uniform.refused hsource hbytes
        (load_eq_error_iff.mp hload)
      rw [load_eq_error_iff.mpr hread]
      unfold Error.onStream onFailure
      cases other.failure <;> split <;> simp_all [TemplateReader.shortage]

/-- Loading depends on the bytes and not on how they arrive: in whatever pieces, through a buffer of
any size or without one, the result is the one from the bytes in one piece. If the stream fails
behind its last byte, the failure takes the place of a template and of a missing field, and any
other flaw is found as before; so a failure is never taken for the end of the stream. -/
theorem load_uniform :
    (∀ source : Source, source.failure = none → load source = load (.ofBytes source.bytes)) ∧
    (∀ (source : Source) (failure : DeviceFailure), source.failure = some failure →
      load source = onFailure failure (load (.ofBytes source.bytes)) ∧
        (∀ template, load source ≠ .ok template) ∧
          ∀ field, load source ≠ .error (.malformedTemplate (.truncated field))) ∧
    ∀ capacity : Nat,
      (∀ source : Source, load ((Source.Buffered.start source).source capacity) = load source) ∧
      ∀ (stream : Source.Buffered) (count : Nat), 0 < count → count < capacity →
        (stream.source capacity).bytes ≠ [] →
          ∃ bytes rest, stream.read capacity count = .ok (bytes, rest) ∧
            (stream.source capacity).read count = .ok (bytes, rest.source capacity) := by
  have hwhole (source : Source) : load source = match source.failure with
      | none => load (.ofBytes source.bytes)
      | some failure => onFailure failure (load (.ofBytes source.bytes)) :=
    load_other rfl (Source.of_bytes_bytes _).symm
  refine ⟨?_, ?_, ?_⟩
  · intro source hfailure
    rw [hwhole, hfailure]
  · intro source failure hfailure
    have hload := hwhole source
    rw [hfailure] at hload
    refine ⟨hload, ?_, ?_⟩
    · intro template hok
      rw [(load_eq_ok_iff.mp hok).2.2] at hfailure
      cases hfailure
    · intro field htruncated
      exact on_failure_ne_truncated _ _ field (hload.symm.trans htruncated)
  · intro capacity
    refine ⟨?_, ?_⟩
    · intro source
      have hbuffer : ((Source.Buffered.start source).source capacity).bytes = source.bytes :=
        Source.Buffered.source_bytes _ _
      rw [hwhole, hwhole source, hbuffer]
      rfl
    · intro stream count hcount hcapacity hbytes
      exact Source.Buffered.read_source hcount hcapacity hbytes

/-- A file that arrives byte by byte is loaded. If the stream fails right behind its last byte, that
is the failure of loading, but a wrong mark in front is found first. -/
theorem blank_arrives :
    load ⟨blank.encode.map ([·]), none⟩ = .ok blank ∧
    load ⟨blank.encode.map ([·]), some (.reported "read failed")⟩
      = .error (.io (.reported "read failed")) ∧
    load ⟨[[0x50], [0x53, 0x54], [0x58, 0]], some (.reported "read failed")⟩
      = .error (.malformedTemplate (.badMagic [0x50, 0x53, 0x54, 0x58])) := by
  have hobtained : blank.Obtained :=
    .inl ⟨.start blank.toTemplateHeader, .start _, by decide +kernel⟩
  have hload := hobtained.load_encode (Source.of_bytes_bytes _) rfl
  have hbytes (failure : Option DeviceFailure) :
      (Source.mk (blank.encode.map ([·])) failure).bytes = blank.encode :=
    List.flatMap_singleton' _
  obtain ⟨hpieces, hfailing, _⟩ := load_uniform
  refine ⟨?_, ?_, ?_⟩
  · rw [hpieces _ rfl, hbytes, hload]
  · rw [(hfailing _ _ rfl).1, hbytes, hload]
    rfl
  · rw [(hfailing _ _ rfl).1]
    decide +kernel

end Template

end Panorama
