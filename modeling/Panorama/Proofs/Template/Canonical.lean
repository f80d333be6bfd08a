import Panorama.Proofs.Template.Accepted

/-!
# One way to write a template

The encoding of a template is canonical and loses nothing: a file that is read can be written again
byte by byte, and a template that is written can be read again bit by bit. Equality of templates is
equality of all their bits, since two floating point numbers are equal only if their bits are.
-/

namespace Panorama.Template

/-- Saving to a sink that refuses nothing writes the encoding. -/
theorem save_unlimited (template : Template) :
    (template.save .unlimited).map Sink.written = .ok template.encode.toArray := by
  rw [save, Sink.write]
  simp [Sink.unlimited, Except.map]

/-- Whatever stream holds the encoding of a template, it is read as that template. -/
theorem Obtained.load_encode {template : Template} (h : template.Obtained) {source : Source}
    (hbytes : source.bytes = template.encode) (hfailure : source.failure = none) :
    load source = .ok template :=
  load_eq_ok_iff.mpr ⟨h.lists, hbytes, hfailure⟩

/-- Templates with the same encoding are the same. -/
theorem Obtained.encode_injective {template other : Template} (h : template.Obtained)
    (hother : other.Obtained) (hencode : template.encode = other.encode) : template = other := by
  have hload := h.load_encode (Source.of_bytes_bytes _) rfl
  have hotherLoad := hother.load_encode (Source.of_bytes_bytes _) rfl
  rw [hencode, hotherLoad] at hload
  exact (Except.ok.inj hload).symm

/-- What is read is written back byte by byte, what is written is read back bit by bit in whatever
pieces it arrives, and no two templates are written alike. -/
theorem encoding_canonical :
    (∀ (source : Source) (template : Template), load source = .ok template →
      (template.save .unlimited).map Sink.written = .ok source.bytes.toArray) ∧
    (∀ template : Template, template.Obtained → ∃ sink, template.save .unlimited = .ok sink ∧
      ∀ source : Source, source.bytes = sink.written.toList → source.failure = none →
        load source = .ok template) ∧
    ∀ template other : Template, template.Obtained → other.Obtained →
      template.encode = other.encode → template = other := by
  refine ⟨fun source template hload ↦ ?_, fun template hobtained ↦ ?_,
    fun template other hobtained hother hencode ↦ hobtained.encode_injective hother hencode⟩
  · rw [save_unlimited, (load_eq_ok_iff.mp hload).2.1]
  · have hsave := save_unlimited template
    cases hsink : template.save .unlimited with
    | error failure =>
        rw [hsink] at hsave
        cases hsave
    | ok sink =>
        rw [hsink] at hsave
        refine ⟨sink, rfl, fun source hbytes hfailure ↦ hobtained.load_encode ?_ hfailure⟩
        rw [hbytes, Except.ok.inj hsave]

/-- Templates with zeros of different signs are different templates. -/
example : (0 : Float) ≠ -0 ∧ (0 : Float32) ≠ -0 := by decide +kernel

end Panorama.Template
