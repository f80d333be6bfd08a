import Mathlib
import Panorama.Template.Validation

/-!
# What a sample table holds

A table with its offsets stands for a list of contributions per pixel. `SampleTable.Holds` says
which list, and `Holds.entry` that a look-up gives the list's items back. Tables are only made by
adding accepted contributions to the empty one, and `Holds.add_all` follows them through that loop.
-/

namespace Panorama

namespace SampleTable

/-- A table holds the contributions of each pixel in order: those of a pixel begin where those of
the pixels in front of it end. -/
structure Holds (table : SampleTable) (entries : List (List Sample)) : Prop where
  offset_count : table.offsets.size = entries.length + 1
  offset : ∀ index, index ≤ entries.length →
    table.offsets[index]? = some (entries.take index).flatten.length
  samples : table.samples.toList = entries.flatten

/-- The table with the contributions of one more pixel. -/
def append (table : SampleTable) (entry : List Sample) : SampleTable where
  offsets := table.offsets.push (table.samples ++ entry).size
  samples := table.samples ++ entry

/-- Contributions are added if they break no rule and the table stays within a 32-bit word. -/
theorem add_eq_ok_iff {table next : SampleTable} {inputs : List Canvas} {entry : List Sample} :
    table.add inputs entry = .ok next ↔
      Sample.entryFlaw? inputs entry = none ∧ (table.samples ++ entry).size < UInt32.size ∧
        next = table.append entry := by
  unfold add append
  cases Sample.entryFlaw? inputs entry with
  | some flaw => simp
  | none =>
      simp only [true_and]
      split
      · rename_i hsize
        simp only [Except.ok.injEq, hsize, true_and, eq_comm]
      · rename_i hsize
        simp [hsize]

/-- What is not added breaks a rule; no stream ended. -/
theorem add_error {table : SampleTable} {inputs : List Canvas} {entry : List Sample}
    {error : Error} (h : table.add inputs entry = .error error) :
    ∃ flaw, error = .malformedTemplate flaw ∧ ∀ field, flaw ≠ .truncated field := by
  unfold add at h
  split at h
  · cases h
    exact ⟨_, rfl, nofun⟩
  · dsimp only at h
    split at h
    · cases h
    · cases h
      exact ⟨_, rfl, nofun⟩

/-- The table of no pixel holds nothing. -/
theorem holds_empty : empty.Holds [] where
  offset_count := rfl
  offset index hindex := by
    cases Nat.le_zero.mp hindex
    rfl
  samples := rfl

namespace Holds

variable {table other : SampleTable} {entries : List (List Sample)}

/-- A table has as many pixels as it holds lists of contributions. -/
theorem size (h : table.Holds entries) : table.size = entries.length := by
  rw [SampleTable.size, h.offset_count, Nat.add_sub_cancel]

/-- The number of contributions is the length of all lists together. -/
theorem sample_count (h : table.Holds entries) :
    table.samples.size = entries.flatten.length := by
  rw [← h.samples, Array.length_toList]

/-- A table with one more pixel holds one more list. -/
theorem append (h : table.Holds entries) (entry : List Sample) :
    (table.append entry).Holds (entries ++ [entry]) where
  offset_count := by
    rw [SampleTable.append, Array.size_push, h.offset_count, List.length_append,
      List.length_singleton]
  offset index hindex := by
    rw [List.length_append, List.length_singleton] at hindex
    rw [SampleTable.append, Array.getElem?_push, h.offset_count]
    split
    · rename_i hlast
      rw [hlast, List.take_of_length_le (by simp), ← Array.length_toList,
        Array.toList_appendList, h.samples, List.flatten_append, List.flatten_singleton]
    · rename_i hlast
      rw [h.offset index (by omega), List.take_append_of_le_length (by omega)]
  samples := by
    rw [SampleTable.append, Array.toList_appendList, h.samples, List.flatten_append,
      List.flatten_singleton]

/-- The contributions of a pixel stand between its offsets. -/
theorem extract_flatten {index : Nat} (hindex : index < entries.length) :
    (entries.flatten.drop (entries.take index).flatten.length).take
      ((entries.take (index + 1)).flatten.length - (entries.take index).flatten.length)
      = entries[index] := by
  have hsplit : entries.flatten
      = (entries.take index).flatten ++ entries[index] ++ (entries.drop (index + 1)).flatten := by
    rw [List.append_assoc, ← List.flatten_cons, List.getElem_cons_drop, ← List.flatten_append,
      List.take_append_drop]
  have hlength : (entries.take (index + 1)).flatten.length
      = (entries.take index).flatten.length + entries[index].length := by
    rw [List.take_succ_eq_append_getElem hindex, List.flatten_append, List.length_append,
      List.flatten_singleton]
  rw [hsplit, List.append_assoc, List.drop_left, hlength, Nat.add_sub_cancel_left,
    List.take_left]

/-- A look-up gives the list of its pixel, and nothing behind the last one. -/
theorem entry (h : table.Holds entries) (index : Nat) : table.entry? index = entries[index]? := by
  unfold entry?
  by_cases hindex : index < entries.length
  · have hmonotone : (entries.take index).flatten.length
        ≤ (entries.take (index + 1)).flatten.length := by
      rw [List.take_succ_eq_append_getElem hindex, List.flatten_append, List.length_append]
      omega
    have hbound : (entries.take (index + 1)).flatten.length ≤ table.samples.size := by
      rw [h.sample_count]
      conv_rhs => rw [← List.take_append_drop (index + 1) entries, List.flatten_append]
      rw [List.length_append]
      omega
    rw [h.offset index (by omega), h.offset (index + 1) (by omega)]
    simp only [Option.bind_eq_bind, Option.bind_some]
    rw [if_pos ⟨hmonotone, hbound⟩, List.getElem?_eq_getElem hindex, Array.toList_extract,
      List.extract_eq_take_drop, h.samples, extract_flatten hindex]
  · have hbeyond : table.offsets[index + 1]? = none := by
      rw [Array.getElem?_eq_none_iff, h.offset_count]
      omega
    rw [hbeyond, List.getElem?_eq_none (by omega)]
    cases table.offsets[index]? <;> rfl

/-- Adding the contributions of further pixels appends their lists, each of which is accepted. -/
theorem add_all {inputs : List Canvas} {further : List (List Sample)} (h : table.Holds entries)
    (hadd : further.foldlM (fun table entry ↦ table.add inputs entry) table = Except.ok other) :
    other.Holds (entries ++ further) ∧
      ∀ entry ∈ further, Sample.entryFlaw? inputs entry = none := by
  induction further generalizing table entries with
  | nil =>
      cases hadd
      exact ⟨by rwa [List.append_nil], by simp⟩
  | cons entry further ih =>
      rw [List.foldlM_cons] at hadd
      cases hfirst : table.add inputs entry with
      | error failure =>
          rw [hfirst] at hadd
          cases hadd
      | ok next =>
          rw [hfirst] at hadd
          obtain ⟨hflaw, _, rfl⟩ := add_eq_ok_iff.mp hfirst
          obtain ⟨hholds, hrest⟩ := ih (h.append entry) hadd
          refine ⟨by simpa using hholds, ?_⟩
          intro other hother
          rcases List.mem_cons.mp hother with rfl | hother
          · exact hflaw
          · exact hrest other hother

end Holds

end SampleTable

namespace Sample

/-- A contribution that breaks no rule is finite and names a source. -/
theorem sound_of_flaw {inputs : List Canvas} {sample : Sample} (h : flaw? inputs sample = none) :
    sample.source.toNat < inputs.length ∧ sample.x.isFinite ∧ sample.y.isFinite ∧
      sample.weight.isFinite := by
  unfold flaw? at h
  split at h
  · cases h
  · rename_i size hsize
    refine ⟨(List.getElem?_eq_some_iff.mp hsize).1, ?_⟩
    split at h
    · cases h
    · rename_i hfinite
      simpa [and_assoc] using hfinite

/-- Accepted contributions are few enough for a byte, finite, and name sources. -/
theorem sound_of_entry_flaw {inputs : List Canvas} {entry : List Sample}
    (h : entryFlaw? inputs entry = none) :
    entry.length < 256 ∧ ∀ sample ∈ entry, sample.source.toNat < inputs.length ∧
      sample.x.isFinite ∧ sample.y.isFinite ∧ sample.weight.isFinite := by
  unfold entryFlaw? at h
  split at h
  · cases h
  · rename_i hlength
    refine ⟨by omega, fun sample hsample ↦ sound_of_flaw ?_⟩
    split at h
    · cases h
    · rename_i hnone
      exact List.findSome?_eq_none_iff.mp hnone sample hsample

end Sample

end Panorama
