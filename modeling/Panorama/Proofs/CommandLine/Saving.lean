import Panorama.CommandLine.Session
import Panorama.Proofs.CommandLine.Picture
import Panorama.Proofs.Stitcher.Recycling

/-!
# What a session writes

A session writes the outputs of its frame sets back to back, and so it does with the previews. The
invariant is `Session.Writes`: what has been given to the files are the packed outputs and previews
of the sets that were delivered. Saving the output of the next set adds it to both, and flushing
leaves nothing in the buffers.
-/

namespace Panorama

namespace Frame

variable {frames others : List Frame} {bytes more : List UInt8}

/-- The packed forms of frames, one after the other. -/
def packAll? (frames : List Frame) : Option (List UInt8) :=
  (frames.mapM packed?).map List.flatten

/-- Frames have packed forms if each of them has one. -/
theorem pack_all_eq_some_iff : packAll? frames = some bytes ↔
    ∃ pieces, List.Forall₂ (fun frame piece ↦ frame.packed? = some piece) frames pieces ∧
      pieces.flatten = bytes := by
  rw [packAll?, Option.map_eq_some_iff]
  exact exists_congr fun pieces ↦ and_congr_left fun _ ↦ Failing.map_eq_some_iff

/-- The packed forms of further frames are behind the others. -/
theorem pack_all_append (h : packAll? frames = some bytes) (hmore : packAll? others = some more) :
    packAll? (frames ++ others) = some (bytes ++ more) := by
  obtain ⟨pieces, hpieces, rfl⟩ := pack_all_eq_some_iff.mp h
  obtain ⟨rest, hrest, rfl⟩ := pack_all_eq_some_iff.mp hmore
  exact pack_all_eq_some_iff.mpr ⟨pieces ++ rest, List.rel_append hpieces hrest,
    List.flatten_append⟩

/-- Frames that are packed alike have the same packed forms. -/
theorem exists_pack_all (h : List.Forall₂ SamePacked frames others) :
    ∃ bytes, packAll? frames = some bytes ∧ packAll? others = some bytes := by
  induction h with
  | nil => exact ⟨[], rfl, rfl⟩
  | @cons frame other frames others hfirst _ ih =>
      obtain ⟨bytes, hbytes, hothers⟩ := ih
      obtain ⟨piece, hpiece, hother⟩ := hfirst.packed
      have hsingle (item : Frame) (hitem : item.packed? = some piece) :
          packAll? [item] = some piece :=
        pack_all_eq_some_iff.mpr ⟨[piece], .cons hitem .nil, List.flatten_singleton⟩
      exact ⟨piece ++ bytes, pack_all_append (hsingle frame hpiece) hbytes,
        pack_all_append (hsingle other hother) hothers⟩

end Frame

namespace CommandLine

open FileStore (Rewrites)

/-- A file that is written to. -/
structure FileTarget where
  /-- Its path. -/
  path : String
  /-- The place that the path leads to. -/
  place : Place

/-- What a session is to do. -/
structure Plan where
  /-- The stitcher, when it starts. -/
  initial : Stitcher
  /-- The frame sets. -/
  sets : List (List Frame)
  /-- What the stitcher makes of them. -/
  outputs : List StitchOutput
  /-- Where the packed outputs go. -/
  out : FileTarget
  /-- Where the packed previews go, if anywhere. -/
  preview : Option FileTarget
  /-- The places of the inputs. -/
  sources : List Place
  sound : initial.Sound
  valid : initial.compositor.Valid
  makes : initial.Makes sets outputs
  apart : ∀ target, preview = some target → target.place ≠ out.place

namespace Plan

variable (plan : Plan)

/-- No preview goes to the file of the outputs. -/
theorem out_not_mem_previews : plan.out.place ∉ plan.preview.toList.map FileTarget.place := by
  intro hmem
  obtain ⟨target, htarget, hsame⟩ := List.mem_map.mp hmem
  exact plan.apart target (Option.mem_toList.mp htarget) hsame

/-- No output goes to the file of the previews. -/
theorem preview_not_mem_outs {target : FileTarget} (htarget : plan.preview = some target) :
    target.place ∉ [plan.out.place] :=
  fun hmem ↦ plan.apart target htarget (List.mem_singleton.mp hmem)

end Plan

namespace Session

variable {plan : Plan} {session : Session} {delivered : Nat} {frames : List Frame}
  {output result : StitchOutput} {held bytes : List UInt8} {target : FileTarget}

/-- The rows of frames are their packed forms. -/
theorem rows_of_flatten (h : Frame.packAll? frames = some bytes) :
    (rowsOf frames).flatten = bytes := by
  obtain ⟨pieces, hpieces, rfl⟩ := Frame.pack_all_eq_some_iff.mp h
  clear h
  induction hpieces with
  | nil => rfl
  | @cons frame piece frames pieces hfirst _ ih =>
      obtain ⟨rows, hrows, rfl⟩ := Option.map_eq_some_iff.mp hfirst
      unfold rowsOf at ih ⊢
      rw [List.flatMap_cons, List.flatten_append, ih, hrows, Option.getD_some, List.flatten_cons]

/-- What has been given to the files are the outputs and previews of the delivered sets. No output
is an input, and if a picture is still to be written, that is possible and leaves the others
alone. -/
structure Writes (plan : Plan) (delivered : Nat) (session : Session) : Prop where
  out : ∃ bytes,
    Frame.packAll? ((plan.outputs.take delivered).flatMap StitchOutput.outputs) = some bytes ∧
      session.out.Holds session.store plan.out.path plan.out.place bytes
  preview : ∃ bytes,
    Frame.packAll? ((plan.outputs.take delivered).flatMap (·.preview.toList)) = some bytes ∧
      Option.Rel (fun target writer ↦ writer.Holds session.store target.path target.place bytes)
        plan.preview session.preview
  sources : ∀ input ∈ session.inputs, ∃ place ∈ plan.sources,
    session.store.locate input.path = .ok place
  picture : ∀ path, session.picture = some path → ∃ place, place ≠ plan.out.place ∧
    (∀ target, plan.preview = some target → place ≠ target.place) ∧ place ∉ plan.sources ∧
      ∀ size, plan.initial.compositor.outputSizes.head? = some size →
        CanSave session.store path place size

/-- Frames are put behind the outputs, and no other file changes. -/
theorem keep_outputs_ok (h : session.out.Holds session.store target.path target.place held)
    (hpacked : Frame.packAll? frames = some bytes) :
    ∃ out store, session.keepOutputs frames = .ok { session with out, store } ∧
      out.Holds store target.path target.place (held ++ bytes) ∧
        Rewrites [target.place] session.store store := by
  obtain ⟨out, store, hwrite, hholds, hrewrites⟩ := h.write_all (rowsOf frames)
  rw [rows_of_flatten hpacked] at hholds
  exact ⟨out, store, Failing.bind_eq_ok_iff.mpr ⟨_, hwrite, rfl⟩, hholds, hrewrites⟩

/-- A preview is put behind the others, if they are kept, and no other file changes. -/
theorem keep_preview_ok (session : Session) {kept : Option FileTarget} {shown : Option Frame}
    (h : Option.Rel (fun target writer ↦ writer.Holds session.store target.path target.place held)
      kept session.preview)
    (hpacked : Frame.packAll? shown.toList = some bytes) :
    ∃ preview store, session.keepPreview shown = .ok { session with preview, store } ∧
      Option.Rel (fun target writer ↦
        writer.Holds store target.path target.place (held ++ bytes)) kept preview ∧
        Rewrites (kept.toList.map FileTarget.place) session.store store := by
  unfold keepPreview
  cases hpreview : session.preview with
  | none =>
      rw [hpreview] at h
      cases h
      exact ⟨none, session.store, congrArg Except.ok (by rw [← hpreview]), .none, .refl _ _⟩
  | some writer =>
      rw [hpreview] at h
      cases h with
      | some hholds =>
          obtain ⟨next, store, hwrite, hnext, hrewrites⟩ := hholds.write_all (rowsOf shown.toList)
          rw [rows_of_flatten hpacked] at hnext
          exact ⟨some next, store, Failing.bind_eq_ok_iff.mpr ⟨_, hwrite, rfl⟩, .some hnext,
            hrewrites⟩

/-- Previews that were kept are kept when other files change. -/
theorem previews_rewrites {store next : FileStore} {places : List Place}
    {kept : Option FileTarget} {preview : Option FileWriter}
    (h : Option.Rel (fun target writer ↦ writer.Holds store target.path target.place held)
      kept preview) (hrewrites : Rewrites places store next)
    (hapart : ∀ target, kept = some target → target.place ∉ places) :
    Option.Rel (fun target writer ↦ writer.Holds next target.path target.place held)
      kept preview := by
  cases h with
  | none => exact .none
  | some hholds => exact .some (hholds.rewrites hrewrites (hapart _ rfl))

/-- The preview of an output has a packed form, if there is one. -/
theorem exists_packed_preview (h : output.RemadeAs plan.initial.compositor result) :
    ∃ bytes, Frame.packAll? output.preview.toList = some bytes := by
  cases hpreview : output.preview with
  | none => exact ⟨[], rfl⟩
  | some preview =>
      obtain ⟨bytes, hbytes⟩ := (h.formed preview hpreview).exists_packed
      exact ⟨_, Frame.pack_all_eq_some_iff.mpr ⟨[bytes], .cons hbytes .nil, rfl⟩⟩

namespace Writes

/-- What is in flight or held for the next set makes no difference to what is written. -/
theorem unaffected (h : Writes plan delivered session) (pipeline : Pipeline)
    (assembler : FrameAssembler) (submitted : Nat) :
    Writes plan delivered { session with pipeline, assembler, submitted } :=
  ⟨h.out, h.preview, h.sources, h.picture⟩

/-- The next output and its preview are put behind the others. -/
theorem keep (h : Writes plan delivered session) (houtput : plan.outputs[delivered]? = some output)
    (hremade : output.RemadeAs plan.initial.compositor result) :
    ∃ out preview store, session.keep result = (.ok (), { session with out, preview, store }) ∧
      Writes plan (delivered + 1) { session with out, preview, store } := by
  obtain ⟨packed, hpacked, hout⟩ := h.out
  obtain ⟨shown, hshown, hpreview⟩ := h.preview
  obtain ⟨morePacked, hmorePacked, hresult⟩ := Frame.exists_pack_all hremade.packed
  obtain ⟨moreShown, hmoreShown⟩ := exists_packed_preview hremade
  obtain ⟨out, middle, hkeepOutputs, hholds, hfirst⟩ := keep_outputs_ok hout hresult
  obtain ⟨preview, store, hkeepPreview, hkept, hsecond⟩ :=
    keep_preview_ok { session with out, store := middle }
      (previews_rewrites hpreview hfirst fun _ ↦ plan.preview_not_mem_outs)
      (hremade.shown ▸ hmoreShown)
  refine ⟨out, preview, store, ?_, ?_, ?_, ?_, ?_⟩
  · unfold Session.keep
    dsimp only
    rw [hkeepOutputs]
    dsimp only
    rw [hkeepPreview]
  · rw [List.take_add_one, houtput, List.flatMap_append]
    refine ⟨_, Frame.pack_all_append hpacked ?_, hholds.rewrites hsecond plan.out_not_mem_previews⟩
    simpa using hmorePacked
  · rw [List.take_add_one, houtput, List.flatMap_append]
    refine ⟨_, Frame.pack_all_append hshown ?_, hkept⟩
    simpa using hmoreShown
  · intro input hinput
    obtain ⟨place, hplace, hlocated⟩ := h.sources input hinput
    exact ⟨place, hplace, hsecond.directories.locate (hfirst.directories.locate hlocated)⟩
  · intro path hpath
    obtain ⟨place, hplace, hother, hsource, hsave⟩ := h.picture path hpath
    refine ⟨place, hplace, hother, hsource, fun size hsize ↦ ?_⟩
    refine ((hsave size hsize).rewrites hfirst (by simpa using hplace)).rewrites hsecond ?_
    intro hmem
    obtain ⟨target, htarget, hsame⟩ := List.mem_map.mp hmem
    exact hother target (Option.mem_toList.mp htarget) hsame.symm

/-- A picture of the first output is written if it is still to be. -/
theorem depict (h : Writes plan delivered session)
    (htargets : plan.initial.compositor.AreTargets frames) :
    ∃ picture store log, session.depict frames = (.ok (), { session with picture, store, log }) ∧
      Writes plan delivered { session with picture, store, log } := by
  unfold Session.depict
  split
  · rename_i path first rest hpath
    obtain ⟨size, sizes, ⟨hformed, _, hsize⟩, _, hsizes⟩ :=
      List.forall₂_cons_right_iff.mp htargets
    obtain ⟨picture, hpicture, hsame⟩ := hformed.exists_picture
    obtain ⟨place, hout, hpreviews, hsource, hsave⟩ := h.picture path hpath
    have hsave := hsave size (by rw [hsizes]; rfl)
    rw [← hsize, ← hsame] at hsave
    obtain ⟨store, hsaved, hlocated, hrewrites⟩ := hsave.save
    have hunread (input : FileInput) (hinput : input ∈ session.inputs) :
        input.afterWriting store path = input := by
      obtain ⟨other, hother, hplace⟩ := h.sources input hinput
      unfold FileInput.afterWriting
      rw [hrewrites.directories.locate hplace, hlocated]
      exact if_neg fun hequal : other = place ↦ hsource (hequal ▸ hother)
    have hinputs : session.inputs.map (·.afterWriting store path) = session.inputs :=
      (List.map_congr_left hunread).trans (List.map_id _)
    refine ⟨none, store, session.log ++ s!"wrote {path}\n", ?_, ?_, ?_, ?_, nofun⟩
    · dsimp only
      rw [hpicture]
      dsimp only
      rw [hsaved]
      dsimp only
      rw [hinputs]
    · obtain ⟨bytes, hbytes, hholds⟩ := h.out
      exact ⟨bytes, hbytes, hholds.rewrites hrewrites (by simpa using hout.symm)⟩
    · obtain ⟨bytes, hbytes, hkept⟩ := h.preview
      refine ⟨bytes, hbytes, previews_rewrites hkept hrewrites fun target htarget ↦ ?_⟩
      simpa using (hpreviews target htarget).symm
    · intro input hinput
      obtain ⟨other, hother, hplace⟩ := h.sources input hinput
      exact ⟨other, hother, hrewrites.directories.locate hplace⟩
  · exact ⟨session.picture, session.store, session.log, rfl, h⟩

end Writes

/-! ### Nothing stays in the buffers -/

/-- The files hold the packed outputs and previews of all frame sets. -/
structure Written (plan : Plan) (store : FileStore) : Prop where
  out : ∃ bytes, Frame.packAll? (plan.outputs.flatMap StitchOutput.outputs) = some bytes ∧
    store.content? plan.out.path = some bytes
  preview : ∀ target, plan.preview = some target →
    ∃ bytes, Frame.packAll? (plan.outputs.flatMap (·.preview.toList)) = some bytes ∧
      store.content? target.path = some bytes

/-- Flushed outputs are all in their file, and no other file changes. -/
theorem flush_output_ok (h : session.out.Holds session.store target.path target.place bytes) :
    ∃ out store, session.flushOutput = (.ok (), { session with out, store }) ∧
      out.pending = #[] ∧ out.Holds store target.path target.place bytes ∧
        Rewrites [target.place] session.store store := by
  obtain ⟨out, store, hflush, hempty, hholds, hrewrites⟩ := h.flush
  refine ⟨out, store, ?_, hempty, hholds, hrewrites⟩
  unfold flushOutput
  rw [hflush]

/-- Flushed previews are all in their file, if they are kept, and no other file changes. -/
theorem flush_preview_ok (session : Session) {kept : Option FileTarget}
    (h : Option.Rel (fun target writer ↦ writer.Holds session.store target.path target.place bytes)
      kept session.preview) :
    ∃ preview store, session.flushPreview = (.ok (), { session with preview, store }) ∧
      (∀ target, kept = some target → store.content? target.path = some bytes) ∧
        Rewrites (kept.toList.map FileTarget.place) session.store store := by
  unfold flushPreview
  cases hpreview : session.preview with
  | none =>
      rw [hpreview] at h
      cases h
      refine ⟨none, session.store, congrArg (Prod.mk _) ?_, nofun, .refl _ _⟩
      rw [← hpreview]
  | some writer =>
      rw [hpreview] at h
      cases h with
      | some hholds =>
          obtain ⟨next, store, hflush, hempty, hnext, hrewrites⟩ := hholds.flush
          refine ⟨some next, store, ?_, ?_, hrewrites⟩
          · dsimp only
            rw [hflush]
          · rintro _ ⟨⟩
            exact hnext.content hempty

/-- Behind the last frame set, the files are as they are to be when the buffers are empty. -/
theorem Writes.flush (h : Writes plan plan.sets.length session) :
    ∃ next, session.flush = (.ok (), next) ∧ Written plan next.store := by
  obtain ⟨packed, hpacked, hout⟩ := h.out
  obtain ⟨shown, hshown, hpreview⟩ := h.preview
  rw [← plan.makes.length_eq, List.take_length] at hpacked hshown
  obtain ⟨out, middle, hflushOutput, hempty, hholds, hfirst⟩ := flush_output_ok hout
  obtain ⟨preview, store, hflushPreview, hcontent, hsecond⟩ :=
    flush_preview_ok { session with out, store := middle }
      (previews_rewrites hpreview hfirst fun _ ↦ plan.preview_not_mem_outs)
  refine ⟨{ session with out, preview, store }, ?_, ⟨packed, hpacked, ?_⟩, ?_⟩
  · unfold Session.flush
    rw [hflushOutput]
    dsimp only
    rw [hflushPreview]
    rfl
  · exact (hholds.rewrites hsecond plan.out_not_mem_previews).content hempty
  · exact fun target htarget ↦ ⟨shown, hshown, hcontent target htarget⟩

end Session

end CommandLine

end Panorama
