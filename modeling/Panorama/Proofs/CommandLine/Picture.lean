import Panorama.CommandLine.Picture
import Panorama.Frame.Color
import Panorama.Proofs.Files.Writer
import Panorama.Proofs.Frame.Fresh

/-!
# Writing pictures

Every well-formed frame has a picture, which has the frame's size. A picture is written if its
format takes the size and a file can be made for it, and no other file changes.
-/

namespace Panorama

namespace Frame.WellFormed

variable {frame : Frame} {x y : Nat}

/-- Every pixel of a well-formed frame has a value in every channel of the first plane. -/
theorem first_plane_pixel (h : frame.WellFormed) (hx : x < frame.size.width.toNat)
    (hy : y < frame.size.height.toNat) {channel : Nat}
    (hchannel : channel < frame.format.channels) :
    ∃ byte, frame.pixel? 0 channel x y = some byte := by
  have hcount : 0 < frame.format.planeCount := by cases frame.format <;> decide
  obtain ⟨hwidth, hheight⟩ := frame.format.plane_size_to_nat 0 frame.size
  have hscale := frame.format.subsampling_to_nat 0
  rw [if_neg (by simp)] at hscale
  rw [hscale, Nat.div_one] at hwidth hheight
  exact h.pixel ⟨hcount, hchannel, hwidth.symm ▸ hx, hheight.symm ▸ hy⟩

/-- Every pixel of a well-formed frame with chroma planes of half the resolution has a value in
each of them. -/
theorem chroma_pixel (h : frame.WellFormed) (hchroma : frame.format.isChromaSubsampled)
    (hx : x < frame.size.width.toNat) (hy : y < frame.size.height.toNat) (index : Nat)
    (hfirst : 0 < index) (hindex : index < frame.format.planeCount) :
    ∃ byte, frame.pixel? index 0 (x / 2) (y / 2) = some byte := by
  obtain ⟨hwidth, hheight⟩ := frame.format.plane_size_to_nat index frame.size
  have hscale := frame.format.subsampling_to_nat index
  rw [if_pos ⟨hfirst, hchroma⟩] at hscale
  obtain ⟨hevenWidth, hevenHeight⟩ := (PixelFormat.check_size_eq_ok_iff.mp h.1).2 hchroma
  rw [hscale] at hwidth hheight
  exact h.pixel ⟨hindex, frame.format.channels_pos, by omega, by omega⟩

/-- Every pixel of a well-formed frame has a color. -/
theorem exists_color (h : frame.WellFormed) (hx : x < frame.size.width.toNat)
    (hy : y < frame.size.height.toNat) : ∃ color, frame.color? x y = some color := by
  have hfirst (channel : Nat) (hchannel : channel < frame.format.channels) :=
    h.first_plane_pixel hx hy hchannel
  have hchroma (hsubsampled : frame.format.isChromaSubsampled) (index : Nat) :=
    h.chroma_pixel hsubsampled hx hy index
  unfold color?
  cases hformat : frame.format with
  | gray8 =>
      rw [hformat] at hfirst
      obtain ⟨value, hvalue⟩ := hfirst 0 (by decide)
      rw [hvalue]
      exact ⟨_, rfl⟩
  | rgb24 =>
      rw [hformat] at hfirst
      obtain ⟨red, hred⟩ := hfirst 0 (by decide)
      obtain ⟨green, hgreen⟩ := hfirst 1 (by decide)
      obtain ⟨blue, hblue⟩ := hfirst 2 (by decide)
      rw [hred, hgreen, hblue]
      exact ⟨_, rfl⟩
  | yuv420p | yuvj420p =>
      rw [hformat] at hfirst hchroma
      obtain ⟨luma, hluma⟩ := hfirst 0 (by decide)
      obtain ⟨u, hu⟩ := hchroma rfl 1 (by decide) (by decide)
      obtain ⟨v, hv⟩ := hchroma rfl 2 (by decide) (by decide)
      rw [hluma, hu, hv]
      exact ⟨_, rfl⟩

/-- Every well-formed frame has a picture of its size. -/
theorem exists_picture (h : frame.WellFormed) :
    ∃ picture, frame.picture? = some picture ∧ picture.size = frame.size := by
  obtain ⟨rows, hrows⟩ : ∃ rows, ((List.range frame.size.height.toNat).mapM fun y ↦
      (List.range frame.size.width.toNat).mapM fun x ↦ frame.color? x y) = some rows := by
    refine Failing.exists_map_eq_some fun y hy ↦ Failing.exists_map_eq_some fun x hx ↦ ?_
    exact h.exists_color (List.mem_range.mp hx) (List.mem_range.mp hy)
  refine ⟨⟨frame.size, rows.flatten⟩, ?_, rfl⟩
  unfold picture?
  dsimp only
  rw [hrows]
  rfl

end Frame.WellFormed

namespace CommandLine

open FileStore (Rewrites)

variable {store next : FileStore} {path : String} {place : Place} {places : List Place}
  {size : Canvas} {picture : Picture}

/-- A picture of a size can be written to a path: its extension names a format that takes the size,
and a file can be made for it. -/
structure CanSave (store : FileStore) (path : String) (place : Place) (size : Canvas) : Prop where
  format : ∃ format, pictureFormat path = .ok format ∧ format.refusal? size = none
  located : store.locateFile path = .ok place
  regular : ∀ file, store.node? place ≠ some (.special file)

/-- A picture can still be written when other files have changed. -/
theorem CanSave.rewrites (h : CanSave store path place size)
    (hrewrites : Rewrites places store next) (hplace : place ∉ places) :
    CanSave next path place size :=
  ⟨h.format, hrewrites.locate_file h.located hplace, by
    rw [hrewrites.elsewhere place hplace]
    exact h.regular⟩

/-- A picture that can be written is written, and no other file changes. -/
theorem CanSave.save (h : CanSave store path place picture.size) :
    ∃ next, savePicture store path picture = (.ok (), next) ∧ next.locate path = .ok place ∧
      Rewrites [place] store next := by
  obtain ⟨format, hformat, htaken⟩ := h.format
  obtain ⟨hmade, hfirst⟩ :=
    FileStore.has_file_made (.ofList []) h.located h.regular
  obtain ⟨next, hwrite, hfile, hsecond⟩ := hmade.write_at 0 (format.encode picture)
  refine ⟨next, ?_, hfile.located, hfirst.trans hsecond⟩
  unfold savePicture
  rw [hformat]
  dsimp only
  rw [FileStore.write_file_eq h.located h.regular]
  dsimp only
  rw [htaken]
  dsimp only
  rw [hwrite]

end CommandLine

end Panorama
