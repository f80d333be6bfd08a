import Panorama.Proofs.Template.Grammar

/-!
# How the readers of a template file are composed

The reader of a template file is put together from fields, checks and, at the very end, the end of
the stream. `Composed` and `Whole` say so, so that whatever holds of fields and refusals and is kept
by readers that follow each other holds of `header` and `template`.
-/

namespace Panorama.TemplateReader

/-- A reader that is put together from fields, known values and refusals. No refusal of its own is
about the end of the stream. -/
inductive Composed : {α : Type} → TemplateReader α → Prop where
  | pure {α : Type} (value : α) : Composed (pure value)
  | refuse {α : Type} {flaw : TemplateFlaw} (h : ∀ field, flaw ≠ .truncated field) :
      Composed (refuse flaw : TemplateReader α)
  | bytes (field : TemplateField) (count : Nat) : Composed (bytes field count)
  | bind {α β : Type} {first : TemplateReader α} {next : α → TemplateReader β}
      (hfirst : Composed first) (hnext : ∀ middle, Composed (next middle)) :
      Composed (first >>= next)

/-- A reader that ends with the end of the stream. -/
inductive Whole : {α : Type} → TemplateReader α → Prop where
  | finish {α : Type} (value : α) : Whole (finish >>= fun _ ↦ Pure.pure value)
  | bind {α β : Type} {first : TemplateReader α} {next : α → TemplateReader β}
      (hfirst : Composed first) (hnext : ∀ middle, Whole (next middle)) : Whole (first >>= next)

variable {α β : Type}

namespace Composed

/-- A check that needs no stream is a known value or a refusal. -/
theorem lift {result : Result α} (h : ∀ error, result = .error error →
      ∃ flaw, error = .malformedTemplate flaw ∧ ∀ field, flaw ≠ .truncated field) :
    Composed (liftM result : TemplateReader α) := by
  cases result with
  | ok value => exact .pure value
  | error error =>
      obtain ⟨flaw, rfl, hflaw⟩ := h error rfl
      exact .refuse hflaw

/-- A check in front of a reader. -/
theorem guard {condition : Prop} [Decidable condition] {flaw : TemplateFlaw}
    {next : Unit → TemplateReader α} (hflaw : ∀ field, flaw ≠ .truncated field)
    (hnext : Composed (next ())) :
    Composed (if condition then TemplateReader.refuse flaw >>= next else next ()) :=
  iteInduction (fun _ ↦ .bind (.refuse hflaw) fun _ ↦ hnext) fun _ ↦ hnext

/-- A composed reader takes the bytes that spell a value, whatever those are. -/
theorem reads {reader : TemplateReader α} (h : Composed reader) :
    ∃ Spells, Reads reader Spells := by
  induction h with
  | pure value => exact ⟨_, .pure value⟩
  | refuse _ =>
      refine ⟨fun _ _ ↦ False, ?_, ?_⟩
      · intro source rest value h
        cases h
      · intro source value bytes behind h
        exact h.elim
  | bytes field count => exact ⟨_, reads_bytes field count⟩
  | bind _ _ hfirst hnext =>
      obtain ⟨First, hfirst⟩ := hfirst
      choose Next hnext using hnext
      exact ⟨_, hfirst.bind hnext⟩

end Composed

/-- A check in front of a reader that ends with the end of the stream. -/
theorem Whole.guard {condition : Prop} [Decidable condition] {flaw : TemplateFlaw}
    {next : Unit → TemplateReader α} (hflaw : ∀ field, flaw ≠ .truncated field)
    (hnext : Whole (next ())) :
    Whole (if condition then refuse flaw >>= next else next ()) :=
  iteInduction (fun _ ↦ .bind (.refuse hflaw) fun _ ↦ hnext) fun _ ↦ hnext

/-! ### The readers -/

/-- A word is a field. -/
theorem composed_word (field : TemplateField) (count : Nat) : Composed (word field count) :=
  .bind (.bytes field count) fun _ ↦ .pure _

/-- A size is two words. -/
theorem composed_size (width height : TemplateField) : Composed (size width height) :=
  .bind (composed_word width 4) fun _ ↦ .bind (composed_word height 4) fun _ ↦ .pure _

/-- The sizes of sources follow each other. -/
theorem composed_inputs (count : Nat) : Composed (inputs count) := by
  induction count with
  | zero => exact .pure []
  | succ count ih => exact .bind (composed_size _ _) fun _ ↦ .bind ih fun _ ↦ .pure _

/-- A tag is a word, which has a meaning or not. -/
theorem composed_tagged (field : TemplateField) (tag : TemplateTag) (meaning : UInt8 → Option α) :
    Composed (tagged field tag meaning) := by
  refine .bind (composed_word field 1) fun number ↦ ?_
  cases meaning (.ofNat number) with
  | none => exact .refuse nofun
  | some value => exact .pure value

/-- A double is a word. -/
theorem composed_double (field : TemplateField) : Composed (double field) :=
  .bind (composed_word field 8) fun _ ↦ .pure _

/-- A single is a word. -/
theorem composed_single (field : TemplateField) : Composed (single field) :=
  .bind (composed_word field 4) fun _ ↦ .pure _

/-- A contribution is a word and three singles. -/
theorem composed_sample : Composed sample :=
  .bind (composed_word _ 2) fun _ ↦ .bind (composed_single _) fun _ ↦
    .bind (composed_single _) fun _ ↦ .bind (composed_single _) fun _ ↦ .pure _

/-- Contributions follow each other. -/
theorem composed_samples (count : Nat) : Composed (samples count) := by
  induction count with
  | zero => exact .pure []
  | succ count ih => exact .bind composed_sample fun _ ↦ .bind ih fun _ ↦ .pure _

/-- Pixels follow each other, and each is added to the table. -/
theorem composed_entries (inputs : List Canvas) (count : Nat) (table : SampleTable) :
    Composed (entries inputs count table) := by
  induction count generalizing table with
  | zero => exact .pure table
  | succ count ih =>
      exact .bind (composed_word _ 1) fun _ ↦ .bind (composed_samples _) fun _ ↦
        .bind (.lift fun _ ↦ SampleTable.add_error) fun next ↦ ih next

/-- A header is made of its fields. -/
theorem composed_header : Composed header :=
  .bind (.bytes _ 4) fun _ ↦ .guard nofun <|
    .bind (composed_word _ 4) fun _ ↦ .guard nofun <|
    .bind (composed_size _ _) fun _ ↦ .bind (composed_word _ 4) fun _ ↦ .guard nofun <|
    .bind (composed_inputs _) fun _ ↦
    .bind (composed_double _) fun _ ↦ .bind (composed_double _) fun _ ↦
    .bind (composed_double _) fun _ ↦ .bind (composed_double _) fun _ ↦
    .bind (composed_tagged _ _ _) fun _ ↦ .bind (composed_tagged _ _ _) fun _ ↦
    .bind (composed_tagged _ _ _) fun _ ↦ .bind (composed_tagged _ _ _) fun _ ↦ .pure _

/-- A header that breaks a rule makes no template, wherever the stream ends. -/
theorem header_flaw {header : TemplateHeader} {error : Error}
    (h : header.validate = .error error) :
    ∃ flaw, error = .malformedTemplate flaw ∧ ∀ field, flaw ≠ .truncated field := by
  unfold TemplateHeader.validate at h
  split at h
  · rename_i flaw hflaw
    cases h
    refine ⟨flaw, rfl, ?_⟩
    unfold TemplateHeader.flaw? at hflaw
    split at hflaw
    · cases hflaw
      exact nofun
    · split at hflaw
      · cases hflaw
        exact nofun
      · split at hflaw
        · cases hflaw
          exact nofun
        · obtain ⟨_, _, rfl⟩ := Option.map_eq_some_iff.mp hflaw
          exact nofun
  · cases h

/-- A file is a header, the number of its pixels, the pixels, and the end of the stream. -/
theorem whole_template : Whole template :=
  .bind composed_header fun _ ↦ .bind (.lift fun _ ↦ header_flaw) fun _ ↦
    .bind (composed_word _ 8) fun _ ↦ .guard nofun <|
      .bind (composed_entries _ _ _) fun _ ↦ .finish _

end Panorama.TemplateReader
