import Panorama.Files.Writer
import Panorama.Proofs.Files.Store

/-!
# Nothing is lost in a buffer

What a writer has been given is what its file holds, followed by what is in its buffer. Writing and
flushing keep it so, change no other file, and cannot fail as long as the file is a regular one.
-/

namespace Panorama

namespace FileContent

/-- Bytes that are put behind the others are read behind them. -/
theorem append_to_list (content : FileContent) (bytes : List UInt8) :
    (content.append bytes).toList = content.toList ++ bytes := by
  show (content.toArray ++ bytes.toArray).toList = content.toArray.toList ++ bytes
  rw [Array.toList_append]

/-- What is written at the end is put behind the others. -/
theorem write_at_end (content : FileContent) (bytes : List UInt8) :
    content.write content.size bytes = content.append bytes :=
  if_pos rfl

end FileContent

namespace FileWriter

open FileStore (Rewrites)

variable {writer : FileWriter} {store : FileStore} {path : String} {place : Place}
  {held bytes : List UInt8}

/-- A writer has been given some bytes for the file at a path, and keeps part of them in its
buffer. -/
structure Holds (writer : FileWriter) (store : FileStore) (path : String) (place : Place)
    (bytes : List UInt8) : Prop where
  named : writer.path = path
  kept : ∃ content, store.HasFile path place content ∧ content.size = writer.written ∧
    content.toList ++ writer.pending.toList = bytes

namespace Holds

/-- A writer at the start of an empty file has been given nothing. -/
theorem start (h : store.HasFile path place (.ofList [])) :
    (FileWriter.start path).Holds store path place [] :=
  ⟨rfl, _, h, rfl, rfl⟩

/-- What changes other files does not change what a writer has been given. -/
theorem rewrites {next : FileStore} {places : List Place}
    (h : writer.Holds store path place bytes) (hrewrites : Rewrites places store next)
    (hplace : place ∉ places) : writer.Holds next path place bytes := by
  obtain ⟨hnamed, content, hfile, hkept⟩ := h
  exact ⟨hnamed, content, hrewrites.has_file hfile hplace, hkept⟩

/-- Bytes that go past an empty buffer are behind those in the file. -/
theorem pass (h : writer.Holds store path place held) (hempty : writer.pending = #[])
    (bytes : List UInt8) : ∃ writer' next, writer.pass bytes store = .ok (writer', next) ∧
      writer'.pending = #[] ∧ writer'.Holds next path place (held ++ bytes) ∧
        Rewrites [place] store next := by
  obtain ⟨rfl, content, hfile, hsize, rfl⟩ := h
  obtain ⟨next, hwrite, hwritten, hrewrites⟩ := hfile.write_at writer.written bytes
  rw [← hsize, content.write_at_end] at hwritten
  refine ⟨_, next, Failing.bind_eq_ok_iff.mpr ⟨next, hwrite, rfl⟩, hempty, ⟨rfl, _, hwritten, ?_,
    ?_⟩, hrewrites⟩
  · exact congrArg (· + bytes.length) hsize
  · rw [FileContent.append_to_list, hempty]
    simp

/-- A flushed buffer is empty, and nothing is lost. -/
theorem flush (h : writer.Holds store path place bytes) :
    ∃ writer' next, writer.flush store = .ok (writer', next) ∧ writer'.pending = #[] ∧
      writer'.Holds next path place bytes ∧ Rewrites [place] store next := by
  unfold FileWriter.flush
  by_cases hempty : writer.pending.isEmpty
  · rw [if_pos hempty]
    exact ⟨writer, store, rfl, Array.isEmpty_iff.mp hempty, h, .refl _ store⟩
  · rw [if_neg hempty]
    obtain ⟨hnamed, content, hfile, hsize, rfl⟩ := h
    have hrest : { writer with pending := #[] }.Holds store path place content.toList :=
      ⟨hnamed, content, hfile, hsize, List.append_nil _⟩
    exact hrest.pass rfl _

/-- Bytes that are written are behind the others. -/
theorem write (h : writer.Holds store path place held) (bytes : List UInt8) :
    ∃ writer' next, writer.write bytes store = .ok (writer', next) ∧
      writer'.Holds next path place (held ++ bytes) ∧ Rewrites [place] store next := by
  obtain ⟨roomy, middle, hroom, hheld, hfirst, hfits⟩ : ∃ roomy middle,
      writer.makeRoom bytes.length store = .ok (roomy, middle) ∧
        roomy.Holds middle path place held ∧ Rewrites [place] store middle ∧
          (capacity ≤ bytes.length → roomy.pending = #[]) := by
    unfold makeRoom
    by_cases hfull : capacity < writer.pending.size + bytes.length
    · rw [if_pos hfull]
      obtain ⟨roomy, middle, hflush, hempty, hheld, hfirst⟩ := h.flush
      exact ⟨roomy, middle, hflush, hheld, hfirst, fun _ ↦ hempty⟩
    · rw [if_neg hfull]
      refine ⟨writer, store, rfl, h, .refl _ store, fun hlong ↦ ?_⟩
      exact Array.eq_empty_of_size_eq_zero (by omega)
  unfold FileWriter.write
  rw [hroom]
  show ∃ writer' next, (if capacity ≤ bytes.length then roomy.pass bytes middle
    else .ok ({ roomy with pending := roomy.pending ++ bytes }, middle)) = .ok (writer', next) ∧ _
  by_cases hlong : capacity ≤ bytes.length
  · rw [if_pos hlong]
    obtain ⟨last, next, hpass, _, hlast, hsecond⟩ := hheld.pass (hfits hlong) bytes
    exact ⟨last, next, hpass, hlast, hfirst.trans hsecond⟩
  · rw [if_neg hlong]
    obtain ⟨hnamed, content, hfile, hsize, rfl⟩ := hheld
    refine ⟨_, middle, rfl, ⟨hnamed, content, hfile, hsize, ?_⟩, hfirst⟩
    simp

/-- Pieces that are written are behind the others, in order. -/
theorem write_all (h : writer.Holds store path place held) (pieces : List (List UInt8)) :
    ∃ writer' next, writer.writeAll pieces store = .ok (writer', next) ∧
      writer'.Holds next path place (held ++ pieces.flatten) ∧ Rewrites [place] store next := by
  induction pieces generalizing writer store held with
  | nil => exact ⟨writer, store, rfl, by rwa [List.flatten_nil, List.append_nil], .refl _ store⟩
  | cons bytes pieces ih =>
      obtain ⟨middleWriter, middle, hwrite, hmiddle, hfirst⟩ := h.write bytes
      obtain ⟨last, next, hrest, hlast, hsecond⟩ := ih hmiddle
      refine ⟨last, next, ?_, ?_, hfirst.trans hsecond⟩
      · exact Failing.bind_eq_ok_iff.mpr ⟨_, hwrite, hrest⟩
      · rwa [List.flatten_cons, ← List.append_assoc]

/-- The file of a writer with an empty buffer holds all bytes. -/
theorem content (h : writer.Holds store path place bytes) (hempty : writer.pending = #[]) :
    store.content? path = some bytes := by
  obtain ⟨_, content, hfile, _, rfl⟩ := h
  rw [hfile.bytes, hempty]
  simp

end Holds

end FileWriter

end Panorama
