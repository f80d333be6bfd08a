import Panorama.Files.Store
import Panorama.Proofs.Failing

/-!
# What changes in a store

What is put at a place stands there, and what stands elsewhere stays. As long as directories stay
where they are, paths lead to where they led before. `FileStore.Rewrites` says so of any change of
files, and `FileStore.Extends` of new directories.
-/

namespace Panorama.FileStore

variable {store next last : FileStore} {place other start : Place} {places : List Place}
  {node : FileNode} {path : String} {names : List String} {content : FileContent}

/-! ### Nodes -/

/-- The places that every file system has are no files. -/
theorem common_ne_file (place : Place) (content : FileContent) :
    common? place ≠ some (.file content) := by
  unfold common?
  split
  · nofun
  · split <;> nofun
  · rw [Ne, Option.map_eq_some_iff]
    exact fun ⟨_, _, hfile⟩ ↦ nomatch hfile
  · split <;> nofun

/-- Another place has what it had. -/
theorem node_put_of_ne (h : other ≠ place) :
    (store.put place node).node? other = store.node? other := by
  have hfilter : (store.nodes.filter (·.1 ≠ place)).find? (·.1 = other)
      = store.nodes.find? (·.1 = other) := by
    rw [List.find?_filter]
    refine List.find?_congr fun item _ ↦ ?_
    by_cases hitem : item.1 = other
    · simp [hitem, h]
    · simp [hitem]
  unfold node? put
  rw [List.find?_append, hfilter, List.find?_singleton, if_neg (by simpa using h.symm),
    Option.or_none]

/-- What is put at a place stands there, unless every file system has something else there. -/
theorem node_put (h : common? place = none) :
    (store.put place node).node? place = some node := by
  have hfilter : (store.nodes.filter (·.1 ≠ place)).find? (·.1 = place) = none := by
    rw [List.find?_eq_none]
    intro item hitem
    simpa using (List.mem_filter.mp hitem).2
  unfold node? put
  rw [h, List.find?_append, hfilter]
  simp

/-- No file stands at a place that every file system has. -/
theorem common_of_node_file (h : store.node? place = some (.file content)) :
    common? place = none := by
  unfold node? at h
  cases hcommon : common? place with
  | none => rfl
  | some node =>
      rw [hcommon] at h
      cases h
      exact absurd hcommon (common_ne_file place content)

/-- Something stands at a place that every file system has. -/
theorem common_of_node_none (h : store.node? place = none) : common? place = none := by
  unfold node? at h
  cases hcommon : common? place with
  | none => rfl
  | some node =>
      rw [hcommon] at h
      cases h

/-! ### Paths -/

/-- Directories are where they were. -/
def KeepsDirectories (store next : FileStore) : Prop :=
  ∀ place, store.node? place = some .directory → next.node? place = some .directory

/-- Names lead to where they led. -/
theorem KeepsDirectories.follow (h : store.KeepsDirectories next)
    (hfollow : store.follow start names = .ok place) : next.follow start names = .ok place := by
  induction names generalizing start with
  | nil => exact hfollow
  | cons name names ih =>
      unfold FileStore.follow at hfollow ⊢
      cases hnode : store.node? start with
      | none =>
          rw [hnode] at hfollow
          cases hfollow
      | some node =>
          rw [hnode] at hfollow
          cases node with
          | directory =>
              rw [h start hnode]
              obtain ⟨middle, hmiddle, hrest⟩ := Failing.bind_eq_ok_iff.mp hfollow
              exact Failing.bind_eq_ok_iff.mpr ⟨middle, hmiddle, ih hrest⟩
          | file content => cases hfollow
          | special file => cases hfollow

/-- Paths lead to where they led. -/
theorem KeepsDirectories.locate (h : store.KeepsDirectories next)
    (hlocate : store.locate path = .ok place) : next.locate path = .ok place := by
  obtain ⟨⟨start, names⟩, horigin, hfollow⟩ := Failing.bind_eq_ok_iff.mp hlocate
  exact Failing.bind_eq_ok_iff.mpr ⟨_, horigin, h.follow hfollow⟩

/-- A file can be made where a path leads, unless there is a directory or the path asks for one. -/
theorem locate_file_eq_ok_iff : store.locateFile path = .ok place ↔
    ∃ start names, origin path = .ok (start, names) ∧
      (path.endsWith "/" && Path.endsInName (Path.trimSlashes names)) = false ∧
        store.follow start names = .ok place ∧ store.node? place ≠ some .directory := by
  unfold locateFile
  rw [Failing.bind_eq_ok_iff, Prod.exists]
  refine exists_congr fun start ↦ exists_congr fun names ↦ and_congr_right fun _ ↦ ?_
  cases hslash : path.endsWith "/" && Path.endsInName (Path.trimSlashes names) with
  | true =>
      simp only [hslash, if_true, Failing.bind_eq_ok_iff]
      exact ⟨fun ⟨_, _, _, hthrow, _⟩ ↦ (nomatch hthrow), fun ⟨hfalse, _⟩ ↦ (nomatch hfalse)⟩
  | false =>
      simp only [hslash, Bool.false_eq_true, if_false, Failing.bind_eq_ok_iff, true_and]
      constructor
      · rintro ⟨target, hfollow, htarget⟩
        by_cases hnode : store.node? target = some .directory
        · rw [if_pos hnode] at htarget
          cases htarget
        · rw [if_neg hnode] at htarget
          cases htarget
          exact ⟨hfollow, hnode⟩
      · rintro ⟨hfollow, hnode⟩
        refine ⟨place, hfollow, ?_⟩
        rw [if_neg hnode]
        rfl

/-! ### Files -/

/-- A path leads to a file. -/
structure HasFile (store : FileStore) (path : String) (place : Place)
    (content : FileContent) : Prop where
  located : store.locate path = .ok place
  node : store.node? place = some (.file content)

/-- The place of the regular file that a path leads to. -/
def regular? (store : FileStore) (path : String) : Option Place :=
  match store.locate path with
  | .error _ => none
  | .ok place =>
    match store.node? place with
    | some (.file _) => some place
    | _ => none

/-- A path leads to a regular file if there is a file with some content. -/
theorem regular_eq_some_iff :
    store.regular? path = some place ↔ ∃ content, store.HasFile path place content := by
  unfold regular?
  constructor
  · intro h
    split at h
    · cases h
    · rename_i hlocated
      split at h
      · rename_i content hnode
        cases h
        exact ⟨content, hlocated, hnode⟩
      · cases h
  · rintro ⟨content, hlocated, hnode⟩
    rw [hlocated]
    dsimp only
    rw [hnode]

/-- A file is opened with its bytes. -/
theorem HasFile.opened (h : store.HasFile path place content) :
    store.openFile path = .ok (.ofBytes content.toList) := by
  refine Failing.bind_eq_ok_iff.mpr ⟨place, h.located, ?_⟩
  rw [h.node]
  rfl

/-- The bytes of a file are those of its content. -/
theorem HasFile.bytes (h : store.HasFile path place content) :
    store.content? path = some content.toList := by
  unfold content?
  rw [h.located]
  dsimp only
  rw [h.node]

/-- Nothing has changed but what stands at some places, and directories are where they were. -/
structure Rewrites (places : List Place) (store next : FileStore) : Prop where
  elsewhere : ∀ place, place ∉ places → next.node? place = store.node? place
  directories : store.KeepsDirectories next

namespace Rewrites

/-- A store is what it was. -/
theorem refl (places : List Place) (store : FileStore) : Rewrites places store store :=
  ⟨fun _ _ ↦ rfl, fun _ h ↦ h⟩

/-- Changes one after the other are changes. -/
theorem trans (h : Rewrites places store next) (hlast : Rewrites places next last) :
    Rewrites places store last :=
  ⟨fun place hplace ↦ (hlast.elsewhere place hplace).trans (h.elsewhere place hplace),
    fun place hplace ↦ hlast.directories place (h.directories place hplace)⟩

/-- A file elsewhere is what it was. -/
theorem has_file (h : Rewrites places store next) (hfile : store.HasFile path place content)
    (hplace : place ∉ places) : next.HasFile path place content :=
  ⟨h.directories.locate hfile.located, (h.elsewhere place hplace).trans hfile.node⟩

/-- A file can be made elsewhere if it could be before. -/
theorem locate_file (h : Rewrites places store next) (hlocate : store.locateFile path = .ok place)
    (hplace : place ∉ places) : next.locateFile path = .ok place := by
  obtain ⟨start, names, horigin, hslash, hfollow, hnode⟩ := locate_file_eq_ok_iff.mp hlocate
  refine locate_file_eq_ok_iff.mpr ⟨start, names, horigin, hslash,
    h.directories.follow hfollow, ?_⟩
  rwa [h.elsewhere place hplace]

end Rewrites

/-- Putting something where no directory was is a change of that place. -/
theorem rewrites_put (node : FileNode) (h : store.node? place ≠ some .directory) :
    Rewrites [place] store (store.put place node) := by
  refine ⟨fun other hother ↦ node_put_of_ne fun hsame ↦ hother (List.mem_singleton.mpr hsame),
    fun other hother ↦ ?_⟩
  have hother' : other ≠ place := fun hsame ↦ h (hsame ▸ hother)
  rwa [node_put_of_ne hother']

/-- A file that is put where one can be made is found by its path. -/
theorem has_file_put (hlocate : store.locate path = .ok place)
    (hnode : store.node? place = none ∨ ∃ held, store.node? place = some (.file held)) :
    (store.put place (.file content)).HasFile path place content ∧
      Rewrites [place] store (store.put place (.file content)) := by
  have hcommon : common? place = none := by
    rcases hnode with hnone | ⟨held, hheld⟩
    · exact common_of_node_none hnone
    · exact common_of_node_file hheld
  have hrewrites : Rewrites [place] store (store.put place (.file content)) := by
    refine rewrites_put _ fun hdirectory ↦ ?_
    rcases hnode with hnone | ⟨held, hheld⟩
    · rw [hnone] at hdirectory
      cases hdirectory
    · rw [hheld] at hdirectory
      cases hdirectory
  exact ⟨⟨hrewrites.directories.locate hlocate, node_put hcommon⟩, hrewrites⟩

/-- Bytes are written into a file, and nothing else changes. -/
theorem HasFile.write_at (h : store.HasFile path place content) (position : Nat)
    (bytes : List UInt8) : ∃ next, store.writeAt path position bytes = .ok next ∧
      next.HasFile path place (content.write position bytes) ∧
        Rewrites [place] store next := by
  refine ⟨_, ?_, has_file_put h.located (.inr ⟨content, h.node⟩)⟩
  unfold writeAt
  rw [h.located]
  dsimp only
  rw [h.node]

/-- A file that is made where a path leads is found there. -/
theorem has_file_made (content : FileContent)
    (hlocate : store.locateFile path = .ok place)
    (hspecial : ∀ file, store.node? place ≠ some (.special file)) :
    (store.put place (.file content)).HasFile path place content ∧
      Rewrites [place] store (store.put place (.file content)) := by
  obtain ⟨start, names, horigin, _, hfollow, hnode⟩ := locate_file_eq_ok_iff.mp hlocate
  refine has_file_put (Failing.bind_eq_ok_iff.mpr ⟨_, horigin, hfollow⟩) ?_
  cases hstands : store.node? place with
  | none => exact .inl rfl
  | some node =>
      cases node with
      | file held => exact .inr ⟨held, rfl⟩
      | directory => exact absurd hstands hnode
      | special file => exact absurd hstands (hspecial file)

/-- A file is made or emptied where no special file is. -/
theorem write_file_eq {bytes : List UInt8} (hlocate : store.locateFile path = .ok place)
    (hspecial : ∀ file, store.node? place ≠ some (.special file)) :
    store.writeFile path bytes = .ok (store.put place (.file (.ofList bytes))) := by
  refine Failing.bind_eq_ok_iff.mpr ⟨place, hlocate, ?_⟩
  split
  · rename_i file hfile
    exact absurd hfile (hspecial file)
  · rfl

/-! ### New directories and emptied files -/

/-- What stood in a store still stands. -/
def Extends (store next : FileStore) : Prop :=
  ∀ place node, store.node? place = some node → next.node? place = some node

/-- A new directory stands where nothing was. -/
theorem make_directory_extends (h : store.makeDirectory path = .ok next) : store.Extends next := by
  obtain ⟨⟨start, names⟩, _, h⟩ := Failing.bind_eq_ok_iff.mp h
  obtain ⟨parent, _, h⟩ := Failing.bind_eq_ok_iff.mp h
  split at h
  · obtain ⟨place, _, h⟩ := Failing.bind_eq_ok_iff.mp h
    split at h
    · cases h
    · rename_i hfree
      cases h
      intro other node hnode
      rw [node_put_of_ne, hnode]
      rintro rfl
      rw [hnode] at hfree
      exact hfree rfl
  · cases h

/-- Directories that are made keep what stood. -/
theorem ensure_directory_extends (h : store.ensureDirectory path = .ok next) :
    store.Extends next := by
  unfold ensureDirectory at h
  split at h
  · rename_i hmade
    cases h
    exact make_directory_extends hmade
  · split at h
    · cases h
      exact fun _ _ hnode ↦ hnode
    · cases h

/-- Directories that are made with those above them keep what stood. -/
theorem ensure_all_extends {paths : List String} (h : store.ensureAll paths = .ok next) :
    store.Extends next := by
  induction paths generalizing next with
  | nil =>
      cases h
      exact fun _ _ hnode ↦ hnode
  | cons path above ih =>
      unfold ensureAll at h
      split at h
      · obtain ⟨middle, hmiddle, hlast⟩ := Failing.bind_eq_ok_iff.mp h
        exact fun place node hnode ↦
          ensure_directory_extends hlast place node (ih hmiddle place node hnode)
      · exact ensure_directory_extends h

/-- A file that is written replaces what its path leads to, if that is no special file. -/
theorem write_file_cases {bytes : List UInt8} (h : store.writeFile path bytes = .ok next) :
    ∃ place, next.locate path = .ok place ∧ Rewrites [place] store next ∧
      ∃ node, next.node? place = some node ∧
        ∀ content, node = .file content → content = .ofList bytes := by
  obtain ⟨place, hlocate, h⟩ := Failing.bind_eq_ok_iff.mp h
  split at h
  · rename_i file hfile
    have hnodes : next.nodes = store.nodes := by
      cases file with
      | null => cases h; rfl
      | zero => cases h; rfl
      | output => cases h; rfl
      | full =>
          unfold writeSpecial at h
          dsimp only at h
          split at h
          · cases h; rfl
          · cases h
    have hsame (other : Place) : next.node? other = store.node? other := by
      unfold node?
      rw [hnodes]
    have hrewrites : Rewrites [place] store next :=
      ⟨fun other _ ↦ hsame other, fun other hother ↦ (hsame other).trans hother⟩
    obtain ⟨start, names, horigin, _, hfollow, _⟩ := locate_file_eq_ok_iff.mp hlocate
    refine ⟨place, hrewrites.directories.locate (Failing.bind_eq_ok_iff.mpr ⟨_, horigin, hfollow⟩),
      hrewrites, .special file, (hsame place).trans hfile, nofun⟩
  · rename_i hspecial
    cases h
    obtain ⟨hfile, hrewrites⟩ := has_file_made (.ofList bytes) hlocate hspecial
    refine ⟨place, hfile.located, hrewrites, _, hfile.node, fun content hcontent ↦ ?_⟩
    cases hcontent
    rfl

end Panorama.FileStore
