import Panorama.Stream

/-!
# Laws of byte streams

What a stream hands out depends on its bytes and not on the pieces in which they arrive. Filling a
buffer takes as many bytes as the buffer has, or all there are. Read `fill_bytes` and
`fill_source_bytes` first.
-/

namespace Panorama.Source

/-- A stream of given bytes. -/
@[simp] theorem of_bytes_bytes (bytes : List UInt8) : (ofBytes bytes).bytes = bytes := by
  simp [ofBytes, Source.bytes]

/-- The next bytes and the pieces behind them are the pieces. -/
theorem next_append (count : Nat) (pieces : List (List UInt8)) :
    (next count pieces).1 ++ (next count pieces).2.flatten = pieces.flatten := by
  fun_induction next count pieces with
  | case1 => rfl
  | case2 pieces ih => simpa using ih
  | case3 byte bytes pieces => simp [← List.append_assoc]

/-- No bytes are handed out at the end of the pieces only. -/
theorem next_eq_nil {count : Nat} {pieces : List (List UInt8)} (hcount : count ≠ 0)
    (h : (next count pieces).1 = []) : pieces.flatten = [] ∧ (next count pieces).2 = [] := by
  fun_induction next count pieces with
  | case1 => exact ⟨rfl, rfl⟩
  | case2 pieces ih => exact ⟨by simpa using (ih h).1, (ih h).2⟩
  | case3 byte bytes pieces => simp [hcount] at h

/-- No more bytes are handed out than asked for. -/
theorem next_length_le (count : Nat) (pieces : List (List UInt8)) :
    (next count pieces).1.length ≤ count := by
  fun_induction next count pieces with
  | case1 => exact Nat.zero_le _
  | case2 pieces ih => exact ih
  | case3 byte bytes pieces => exact List.length_take_le _ _

/-- A read fails at the end of a stream that fails. -/
theorem read_error {source : Source} {count : Nat} {failure : DeviceFailure} (hcount : count ≠ 0)
    (h : source.read count = .error failure) :
    source.bytes = [] ∧ source.failure = some failure := by
  unfold read at h
  split at h
  · rename_i pieces reason hnext hfailure
    cases h
    exact ⟨(next_eq_nil hcount (by rw [hnext])).1, hfailure⟩
  · cases h

/-- A read hands out a front part of the bytes. -/
theorem read_ok {source rest : Source} {count : Nat} {bytes : List UInt8}
    (h : source.read count = .ok (bytes, rest)) :
    source.bytes = bytes ++ rest.bytes ∧ rest.failure = source.failure ∧
      bytes.length ≤ count := by
  unfold read at h
  split at h
  · cases h
  · rename_i bytes' pieces failure _ hnext _
    cases h
    have hall := next_append count source.pieces
    have hlength := next_length_le count source.pieces
    rw [hnext] at hall hlength
    exact ⟨hall.symm, rfl, hlength⟩

/-- A read without bytes is at the end of a stream that does not fail. -/
theorem read_ok_nil {source rest : Source} {count : Nat} (hcount : count ≠ 0)
    (h : source.read count = .ok ([], rest)) : source.bytes = [] ∧ source.failure = none := by
  unfold read at h
  split at h
  · cases h
  · rename_i bytes pieces hnext hsound
    cases h
    refine ⟨(next_eq_nil hcount (by rw [hnext])).1, ?_⟩
    cases hfailure : source.failure with
    | none => rfl
    | some failure => exact absurd rfl (hsound failure hfailure)

/-- A stream without bytes ends, unless it fails. -/
theorem read_of_bytes_nil {source : Source} {count : Nat} (hbytes : source.bytes = [])
    (hfailure : source.failure = none) :
    ∃ rest, source.read count = .ok ([], rest) ∧ rest.bytes = [] := by
  have hall := next_append count source.pieces
  rw [show source.pieces.flatten = [] from hbytes, List.append_eq_nil_iff] at hall
  refine ⟨{ source with pieces := (next count source.pieces).2 }, ?_, hall.2⟩
  unfold read
  rw [show next count source.pieces = ([], (next count source.pieces).2) from
    Prod.ext hall.1 rfl, hfailure]

/-- A stream without bytes fails, unless it ends. -/
theorem read_of_failing {source : Source} {count : Nat} {failure : DeviceFailure}
    (hbytes : source.bytes = []) (hfailure : source.failure = some failure) :
    source.read count = .error failure := by
  have hall := next_append count source.pieces
  rw [show source.pieces.flatten = [] from hbytes, List.append_eq_nil_iff] at hall
  unfold read
  rw [show next count source.pieces = ([], (next count source.pieces).2) from
    Prod.ext hall.1 rfl, hfailure]

/-- Filling a buffer takes the bytes at the front. -/
theorem fill_bytes (source : Source) (count : Nat) :
    (source.fill count).bytes = source.bytes.take count := by
  fun_induction fill source count with
  | case1 source => rfl
  | case2 source count hcount failure hread => simp [(read_error hcount hread).1]
  | case3 source count hcount rest hread => simp [(read_ok_nil hcount hread).1]
  | case4 source count hcount byte bytes rest hread filled ih =>
      obtain ⟨hbytes, _, hlength⟩ := read_ok hread
      show byte :: bytes ++ filled.bytes = _
      rw [ih, hbytes, List.take_append, List.take_of_length_le hlength, List.length_cons]

/-- Filling a buffer leaves the bytes behind those it takes. -/
theorem fill_source_bytes (source : Source) (count : Nat) :
    (source.fill count).source.bytes = source.bytes.drop count := by
  fun_induction fill source count with
  | case1 source => rfl
  | case2 source count hcount failure hread => simp [(read_error hcount hread).1]
  | case3 source count hcount rest hread =>
      have hrest := (read_ok hread).1
      rw [(read_ok_nil hcount hread).1] at hrest ⊢
      simpa using hrest.symm
  | case4 source count hcount byte bytes rest hread filled ih =>
      obtain ⟨hbytes, _, hlength⟩ := read_ok hread
      show filled.source.bytes = _
      rw [ih, hbytes, List.drop_append, List.drop_of_length_le hlength, List.length_cons,
        List.nil_append]

/-- Filling a buffer leaves the failure at the end of a stream where it is. -/
theorem fill_source_failure (source : Source) (count : Nat) :
    (source.fill count).source.failure = source.failure := by
  fun_induction fill source count with
  | case1 source => rfl
  | case2 source count hcount failure hread => rfl
  | case3 source count hcount rest hread => exact (read_ok hread).2.1
  | case4 source count hcount byte bytes rest hread filled ih =>
      exact ih.trans (read_ok hread).2.1

/-- Filling a buffer with more bytes than there are meets what stands at the end of the stream. -/
theorem fill_failure_of_short {source : Source} {count : Nat} (h : source.bytes.length < count) :
    (source.fill count).failure = source.failure := by
  fun_induction fill source count with
  | case1 source => exact absurd h (Nat.not_lt_zero _)
  | case2 source count hcount failure hread => exact (read_error hcount hread).2.symm
  | case3 source count hcount rest hread => exact (read_ok_nil hcount hread).2.symm
  | case4 source count hcount byte bytes rest hread filled ih =>
      obtain ⟨hbytes, hfailure, _⟩ := read_ok hread
      rw [hbytes, List.length_append, List.length_cons] at h
      exact (ih (by omega)).trans hfailure

/-- A stream that has bytes hands some out. -/
theorem read_of_bytes_ne_nil {source : Source} {count : Nat} (hcount : count ≠ 0)
    (hbytes : source.bytes ≠ []) :
    ∃ byte bytes rest, source.read count = .ok (byte :: bytes, rest) := by
  cases hread : source.read count with
  | error failure => exact absurd (read_error hcount hread).1 hbytes
  | ok result =>
      obtain ⟨bytes, rest⟩ := result
      cases bytes with
      | nil => exact absurd (read_ok_nil hcount hread).1 hbytes
      | cons byte bytes => exact ⟨byte, bytes, rest, rfl⟩

end Panorama.Source
