import Panorama.Proofs.Template.Canonical
import Panorama.Proofs.Template.Composed

/-!
# No template file in front of another

A template file ends where its own fields say, so no file is a proper front part of another one.
`Fails reader` says what a reader answers where a stream ends too early, `Closed reader` what it
answers where a stream goes on, and both hold of readers by the way they are composed. Read
`load_prefix_free` for what that means of whole files.
-/

namespace Panorama

namespace TemplateReader

variable {α β : Type}

/-- A sequence of readers fails if one of them does. -/
theorem bind_eq_error_iff {first : TemplateReader α} {next : α → TemplateReader β}
    {source : Source} {error : Error} :
    (first >>= next) source = .error error ↔ first source = .error error ∨
      ∃ middle between, first source = .ok (middle, between) ∧
        next middle between = .error error := by
  show (first source >>= fun (middle, between) ↦ next middle between) = _ ↔ _
  rw [Failing.bind_eq_error_iff, Prod.exists]

/-- What a stream that ends inside a field is refused for: its failure, or its end. -/
def shortage (failure : Option DeviceFailure) (field : TemplateField) : Error :=
  match failure with
  | some failure => .io failure
  | none => .malformedTemplate (.truncated field)

/-- A reader needs every byte that it takes: without the last of them it names the field that is
cut. For anything else it refuses the template, and not the stream. -/
structure Fails (reader : TemplateReader α) : Prop where
  short : ∀ {source rest cut : Source} {value : α} {lost : List UInt8},
    reader source = .ok (value, rest) → source.bytes = cut.bytes ++ lost ++ rest.bytes →
      lost ≠ [] → ∃ field, reader cut = .error (shortage cut.failure field)
  refusal : ∀ {source : Source} {error : Error}, reader source = .error error →
    (∃ field, error = shortage source.failure field) ∨ ∃ flaw, error = .malformedTemplate flaw

namespace Fails

/-- A reader that takes no byte cannot lack one. -/
theorem of_no_bytes {reader : TemplateReader α}
    (hbytes : ∀ {source rest : Source} {value : α}, reader source = .ok (value, rest) →
      rest.bytes = source.bytes)
    (hrefusal : ∀ {source : Source} {error : Error}, reader source = .error error →
      (∃ field, error = shortage source.failure field) ∨ ∃ flaw, error = .malformedTemplate flaw) :
    Fails reader where
  short {source rest cut value lost} hread hsource hlost := by
    have hlength := congrArg List.length hsource
    rw [hbytes hread, List.length_append, List.length_append] at hlength
    have hpositive := List.length_pos_of_ne_nil hlost
    omega
  refusal := hrefusal

/-- A value that is known is not refused. -/
theorem pure (value : α) : Fails (pure value : TemplateReader α) :=
  .of_no_bytes (fun h ↦ by cases h; rfl) (fun h ↦ by cases h)

/-- A refusal is one of the template. -/
theorem refuse (flaw : TemplateFlaw) : Fails (refuse flaw : TemplateReader α) :=
  .of_no_bytes (fun h ↦ by cases h) (fun h ↦ by cases h; exact .inr ⟨flaw, rfl⟩)

/-- Two readers one after the other. -/
theorem bind {first : TemplateReader α} {next : α → TemplateReader β}
    {First : α → List UInt8 → Prop} (hreads : Reads first First) (hfirst : Fails first)
    (hnext : ∀ middle, Fails (next middle)) : Fails (first >>= next) where
  short {source rest cut value lost} h hsource hlost := by
    obtain ⟨middle, between, hmiddle, hrest⟩ := bind_eq_ok_iff.mp h
    obtain ⟨front, hfront, hfrontBytes, hsame⟩ := hreads.sound hmiddle
    -- What is left of the second reader's bytes, if the first one has all of its own.
    have hsecond (back : List UInt8) (hcut : cut.bytes = front ++ back)
        (hbetween : between.bytes = back ++ lost ++ rest.bytes) :
        ∃ field, (first >>= next) cut = .error (shortage cut.failure field) := by
      obtain ⟨left, hleft, hleftBytes, hleftFailure⟩ := hreads.complete hfront hcut
      rw [← hleftBytes] at hbetween
      obtain ⟨field, hfield⟩ := (hnext middle).short hrest hbetween hlost
      rw [hleftFailure] at hfield
      exact ⟨field, bind_eq_error_iff.mpr (.inr ⟨middle, left, hleft, hfield⟩)⟩
    have hsplit : cut.bytes ++ (lost ++ rest.bytes) = front ++ between.bytes := by
      rw [← List.append_assoc, ← hsource, hfrontBytes]
    rcases List.append_eq_append_iff.mp hsplit with ⟨missing, hmissing, hbehind⟩ |
      ⟨back, hcut, hbetween⟩
    · by_cases hnone : missing = []
      · subst hnone
        rw [List.append_nil] at hmissing
        exact hsecond [] (by rw [hmissing, List.append_nil]) hbehind.symm
      · rw [hmissing] at hfrontBytes
        obtain ⟨field, hfield⟩ := hfirst.short hmiddle hfrontBytes hnone
        exact ⟨field, bind_eq_error_iff.mpr (.inl hfield)⟩
    · exact hsecond back hcut (by rw [hbetween, List.append_assoc])
  refusal {source error} h := by
    rcases bind_eq_error_iff.mp h with hfailed | ⟨middle, between, hmiddle, hfailed⟩
    · exact hfirst.refusal hfailed
    · obtain ⟨_, _, _, hsame⟩ := hreads.sound hmiddle
      rw [← hsame]
      exact (hnext middle).refusal hfailed

end Fails

/-! ### Fields -/

/-- A stream with too few bytes for a field ends inside it. -/
theorem bytes_of_short {source : Source} {count : Nat} (field : TemplateField)
    (h : source.bytes.length < count) :
    bytes field count source = .error (shortage source.failure field) := by
  have hlength : (source.fill count).bytes.length ≠ count := by
    rw [source.fill_bytes, List.length_take]
    omega
  simp only [bytes, if_neg hlength, Source.fill_failure_of_short h]
  cases source.failure <;> rfl

/-- A field that is cut is named. -/
theorem fails_bytes (field : TemplateField) (count : Nat) : Fails (bytes field count) where
  short {source rest cut value lost} h hsource hlost := by
    obtain ⟨_, ⟨hlength, rfl⟩, hvalue, _⟩ := (reads_bytes field count).sound h
    rw [hvalue, List.append_cancel_right_eq] at hsource
    have hpositive := List.length_pos_of_ne_nil hlost
    refine ⟨field, bytes_of_short field ?_⟩
    rw [← hlength, hsource, List.length_append]
    omega
  refusal {source error} h := by
    by_cases hshort : source.bytes.length < count
    · rw [bytes_of_short field hshort] at h
      exact .inl ⟨field, (Except.error.inj h).symm⟩
    · have hbytes : source.bytes = source.bytes.take count ++ source.bytes.drop count :=
        (List.take_append_drop ..).symm
      have hlength : (source.bytes.take count).length = count := by
        rw [List.length_take]
        omega
      obtain ⟨rest, hread, _⟩ := (reads_bytes field count).complete ⟨hlength, rfl⟩ hbytes
      rw [hread] at h
      cases h

/-- Every composed reader fails for what is cut. -/
theorem Composed.fails {reader : TemplateReader α} (h : Composed reader) : Fails reader := by
  induction h with
  | pure value => exact .pure value
  | refuse _ => exact .refuse _
  | bytes field count => exact fails_bytes field count
  | bind hfirst _ hfails hnext =>
      obtain ⟨_, hreads⟩ := hfirst.reads
      exact .bind hreads hfails hnext

/-! ### Files -/

/-- A reader takes a whole stream, and finds out if there is more of it. -/
structure Closed (reader : TemplateReader α) : Prop where
  all : ∀ {source rest : Source} {value : α}, reader source = .ok (value, rest) → rest.bytes = []
  behind : ∀ {source rest longer : Source} {value : α} {suffix : List UInt8},
    reader source = .ok (value, rest) → longer.bytes = source.bytes ++ suffix → suffix ≠ [] →
      reader longer = .error (.malformedTemplate .trailingBytes)

/-- A reader in front of one that takes the rest of a stream. -/
theorem Closed.bind {first : TemplateReader α} {next : α → TemplateReader β}
    {First : α → List UInt8 → Prop} (hreads : Reads first First)
    (hnext : ∀ middle, Closed (next middle)) : Closed (first >>= next) where
  all {source rest value} h := by
    obtain ⟨middle, between, _, hrest⟩ := bind_eq_ok_iff.mp h
    exact (hnext middle).all hrest
  behind {source rest longer value suffix} h hlonger hsuffix := by
    obtain ⟨middle, between, hmiddle, hrest⟩ := bind_eq_ok_iff.mp h
    obtain ⟨front, hfront, hsource, _⟩ := hreads.sound hmiddle
    rw [hsource, List.append_assoc] at hlonger
    obtain ⟨left, hleft, hleftBytes, _⟩ := hreads.complete hfront hlonger
    have hfailed := (hnext middle).behind hrest hleftBytes hsuffix
    exact bind_eq_error_iff.mpr (.inr ⟨middle, left, hleft, hfailed⟩)

/-- The end of a stream that is found is one. -/
theorem finish_ok {source rest : Source} (h : finish source = .ok ((), rest)) :
    source.bytes = [] ∧ rest.bytes = [] := by
  unfold finish at h
  split at h
  · cases h
  · rename_i hend
    cases h
    have hbytes := (Source.read_ok_nil one_ne_zero hend).1
    have hrest := (Source.read_ok hend).1
    rw [hbytes, List.nil_append] at hrest
    exact ⟨hbytes, hrest.symm⟩
  · cases h

/-- Behind the last field stands the end of the stream. -/
theorem closed_finish (value : α) : Closed (finish >>= fun _ ↦ pure value) where
  all {source rest other} h := by
    obtain ⟨_, between, hfinish, hrest⟩ := bind_eq_ok_iff.mp h
    cases hrest
    exact (finish_ok hfinish).2
  behind {source rest longer other suffix} h hlonger hsuffix := by
    have hbytes : longer.bytes ≠ [] := by
      rw [hlonger]
      exact List.append_ne_nil_of_right_ne_nil _ hsuffix
    obtain ⟨byte, bytes, left, hread⟩ := Source.read_of_bytes_ne_nil one_ne_zero hbytes
    refine bind_eq_error_iff.mpr (.inl ?_)
    rw [finish, hread]

/-- The end of a stream takes no bytes, and may turn out to be a failure. -/
theorem fails_finish (value : α) : Fails (finish >>= fun _ ↦ pure value) := by
  refine .of_no_bytes (fun {source rest other} h ↦ ?_) (fun {source error} h ↦ ?_)
  · obtain ⟨_, between, hfinish, hrest⟩ := bind_eq_ok_iff.mp h
    cases hrest
    obtain ⟨hsource, hbetween⟩ := finish_ok hfinish
    rw [hsource, hbetween]
  · rcases bind_eq_error_iff.mp h with hfinish | ⟨_, _, _, hpure⟩
    · unfold finish at hfinish
      split at hfinish
      · rename_i failure hread
        cases hfinish
        rw [(Source.read_error one_ne_zero hread).2]
        -- The end of the stream is no field: a failing stream says the same inside any of them.
        exact .inl ⟨.magic, rfl⟩
      · cases hfinish
      · cases hfinish
        exact .inr ⟨_, rfl⟩
    · cases hpure

/-- A reader of a whole stream fails for what is cut. -/
theorem Whole.fails {reader : TemplateReader α} (h : Whole reader) : Fails reader := by
  induction h with
  | finish value => exact fails_finish value
  | bind hfirst _ hnext =>
      obtain ⟨_, hreads⟩ := hfirst.reads
      exact .bind hreads hfirst.fails hnext

/-- A reader of a whole stream takes all of it. -/
theorem Whole.closed {reader : TemplateReader α} (h : Whole reader) : Closed reader := by
  induction h with
  | finish value => exact closed_finish value
  | bind hfirst _ hnext =>
      obtain ⟨_, hreads⟩ := hfirst.reads
      exact .bind hreads hnext

end TemplateReader

namespace Template

/-- What a file holds, its reader finds at the front of the stream. -/
theorem load_eq_map (source : Source) :
    load source = (TemplateReader.template source).map Prod.fst := by
  unfold load
  rw [StateT.run]
  cases TemplateReader.template source <;> rfl

/-- A file is loaded if its reader takes the stream. -/
theorem exists_of_load {source : Source} {template : Template} (h : load source = .ok template) :
    ∃ rest, TemplateReader.template source = .ok (template, rest) ∧ rest.bytes = [] := by
  rw [load_eq_map] at h
  cases hread : TemplateReader.template source with
  | error error =>
      rw [hread] at h
      cases h
  | ok result =>
      rw [hread] at h
      cases h
      exact ⟨result.2, rfl, TemplateReader.whole_template.closed.all hread⟩

/-- No file is the front of another one. Whatever is cut from the end of a file, a field is
reported as truncated; whatever stands behind it is reported as such; and of a stream that does not
fail nothing is ever reported but what is wrong with the template in it. -/
theorem load_prefix_free :
    (∀ (source cut : Source) (template : Template) (lost : List UInt8),
      load source = .ok template → source.bytes = cut.bytes ++ lost → lost ≠ [] →
        cut.failure = none → ∃ field : TemplateField,
          load cut = .error (.malformedTemplate (.truncated field)) ∧
            (Error.malformedTemplate (.truncated field)).detail
              = "truncated stream while reading " ++ field.text) ∧
    (∀ (source longer : Source) (template : Template) (suffix : List UInt8),
      load source = .ok template → longer.bytes = source.bytes ++ suffix → suffix ≠ [] →
        load longer = .error (.malformedTemplate .trailingBytes) ∧
          (Error.malformedTemplate .trailingBytes).detail
            = "trailing bytes after coordinate table") ∧
    ∀ source : Source, source.failure = none → (∃ template, load source = .ok template) ∨
      ∃ flaw, load source = .error (.malformedTemplate flaw) := by
  refine ⟨fun source cut template lost hload hsource hlost hfailure ↦ ?_,
    fun source longer template suffix hload hlonger hsuffix ↦ ?_, fun source hfailure ↦ ?_⟩
  · obtain ⟨rest, hread, hrest⟩ := exists_of_load hload
    have hwhole : source.bytes = cut.bytes ++ lost ++ rest.bytes := by
      rw [hrest, List.append_nil, hsource]
    obtain ⟨field, hfield⟩ := TemplateReader.whole_template.fails.short hread hwhole hlost
    rw [hfailure] at hfield
    refine ⟨field, ?_, rfl⟩
    rw [load_eq_map, hfield]
    rfl
  · obtain ⟨rest, hread, _⟩ := exists_of_load hload
    refine ⟨?_, rfl⟩
    rw [load_eq_map, TemplateReader.whole_template.closed.behind hread hlonger hsuffix]
    rfl
  · rw [load_eq_map]
    cases hread : TemplateReader.template source with
    | ok result => exact .inl ⟨result.1, rfl⟩
    | error error =>
        rcases TemplateReader.whole_template.fails.refusal hread with ⟨field, rfl⟩ | ⟨flaw, rfl⟩
        · rw [hfailure]
          exact .inr ⟨_, rfl⟩
        · exact .inr ⟨flaw, rfl⟩

/-- A template of one pixel that shows nothing. -/
def blank : Template where
  size := ⟨1, 1⟩
  inputs := [⟨1, 1⟩]
  region := .full
  blend := .weighted
  gain := .off
  edge := .fill
  table := ⟨#[0, 0], #[]⟩

/-- The file of the template with a byte less is truncated, and with a byte more it has a trailing
one. -/
theorem blank_cut :
    (∃ field, load (.ofBytes blank.encode.dropLast)
      = .error (.malformedTemplate (.truncated field))) ∧
    load (.ofBytes (blank.encode ++ [0])) = .error (.malformedTemplate .trailingBytes) := by
  have hobtained : blank.Obtained :=
    .inl ⟨.start blank.toTemplateHeader, .start _, by decide +kernel⟩
  have hload := hobtained.load_encode (Source.of_bytes_bytes _) rfl
  have hbytes : blank.encode ≠ [] := by
    simp [encode, TemplateHeader.encode, templateMagic]
  obtain ⟨hcut, hlong, _⟩ := load_prefix_free
  constructor
  · have hsource : (Source.ofBytes blank.encode).bytes
        = (Source.ofBytes blank.encode.dropLast).bytes ++ [blank.encode.getLast hbytes] := by
      rw [Source.of_bytes_bytes, Source.of_bytes_bytes, List.dropLast_append_getLast]
    obtain ⟨field, hfield, _⟩ := hcut _ _ _ _ hload hsource (List.cons_ne_nil _ _) rfl
    exact ⟨field, hfield⟩
  · have hlonger : (Source.ofBytes (blank.encode ++ [0])).bytes
        = (Source.ofBytes blank.encode).bytes ++ [0] := by
      rw [Source.of_bytes_bytes, Source.of_bytes_bytes]
    exact (hlong _ _ _ _ hload hlonger (List.cons_ne_nil _ _)).1

end Template

end Panorama
