import Panorama.CommandLine.Stitch
import Panorama.Proofs.Files.Store

/-!
# Opening files

When the files for the outputs are made, what else there is stays, and every path leads to an empty
file or to a special one. A file is read from its start on, whatever is made beside it.
-/

namespace Panorama.CommandLine

open FileStore (Rewrites)

variable {store next created : FileStore} {path : String} {paths : List String} {place : Place}
  {content : FileContent}

/-- Files were made or emptied at some paths. Directories may be new, and what stood at no such path
still stands. -/
structure Opened (store : FileStore) (paths : List String) (created : FileStore) : Prop where
  directories : store.KeepsDirectories created
  elsewhere : ∀ place node, store.node? place = some node →
    (∀ path ∈ paths, created.locate path ≠ .ok place) → created.node? place = some node
  made : ∀ path ∈ paths, ∃ place node, created.locate path = .ok place ∧
    created.node? place = some node ∧ ∀ content, node = .file content → content = .ofList []

/-- A file that is opened for writing has been written. -/
theorem write_of_create {middle : FileStore} (h : (match middle.writeFile path [] with
    | .ok store => pure store
    | .error failure => throw (.ofDevice s!"create '{path}'" failure) : Except Report FileStore)
      = .ok next) : middle.writeFile path [] = .ok next := by
  split at h
  · rename_i hwrite
    cases h
    exact hwrite
  · cases h

/-- A file that is opened for writing is empty or special, and the rest still stands. -/
theorem create_ok (h : create store path = .ok next) :
    ∃ place node, store.KeepsDirectories next ∧ next.locate path = .ok place ∧
      (∀ other held, other ≠ place → store.node? other = some held →
        next.node? other = some held) ∧
      next.node? place = some node ∧ ∀ content, node = .file content → content = .ofList [] := by
  obtain ⟨middle, hextends, hwrite⟩ : ∃ middle, store.Extends middle ∧
      middle.writeFile path [] = .ok next := by
    unfold create at h
    split at h
    · exact ⟨store, fun _ _ hnode ↦ hnode, write_of_create h⟩
    · exact ⟨store, fun _ _ hnode ↦ hnode, write_of_create h⟩
    · split at h
      · rename_i middle hmade
        exact ⟨middle, FileStore.ensure_all_extends hmade, write_of_create h⟩
      · cases h
  obtain ⟨place, hlocated, hrewrites, node, hnode, hempty⟩ := FileStore.write_file_cases hwrite
  refine ⟨place, node, ?_, hlocated, ?_, hnode, hempty⟩
  · exact fun other hother ↦ hrewrites.directories other (hextends other _ hother)
  · intro other held hother hheld
    rw [hrewrites.elsewhere other fun hmem ↦ hother (List.mem_singleton.mp hmem)]
    exact hextends other held hheld

/-- Files that are opened for writing are empty or special, and the rest still stands. -/
theorem create_all_ok (h : createAll store paths = (.ok (), created)) :
    Opened store paths created := by
  induction paths generalizing store with
  | nil =>
      cases h
      exact ⟨fun _ hplace ↦ hplace, fun _ _ hnode _ ↦ hnode, nofun⟩
  | cons path paths ih =>
      unfold createAll at h
      split at h
      · rename_i next hcreate
        obtain ⟨place, node, hdirectories, hlocated, hothers, hnode, hempty⟩ := create_ok hcreate
        have hrest := ih h
        have hplace : created.locate path = .ok place := hrest.directories.locate hlocated
        refine ⟨fun other hother ↦ hrest.directories other (hdirectories other hother), ?_, ?_⟩
        · intro other held hheld hfree
          obtain ⟨hfirst, hlater⟩ := List.forall_mem_cons.mp hfree
          refine hrest.elsewhere other held (hothers other held ?_ hheld) hlater
          rintro rfl
          exact hfirst hplace
        · refine List.forall_mem_cons.mpr ⟨?_, hrest.made⟩
          -- A later path may lead to the same file, and then empties it again.
          by_cases hfree : ∀ other ∈ paths, created.locate other ≠ .ok place
          · exact ⟨place, node, hplace, hrest.elsewhere place node hnode hfree, hempty⟩
          · obtain ⟨other, hother, hsame⟩ := by simpa using hfree
            obtain ⟨_, held, hlocate, hheld⟩ := hrest.made other hother
            rw [hsame, Except.ok.injEq] at hlocate
            exact ⟨place, held, hplace, hlocate ▸ hheld⟩
      · cases h

namespace Opened

/-- A file that was made is empty. -/
theorem empty (h : Opened store paths created) (hpath : path ∈ paths)
    (hfile : created.HasFile path place content) : created.HasFile path place (.ofList []) := by
  obtain ⟨other, node, hlocated, hnode, hempty⟩ := h.made path hpath
  rw [hfile.located, Except.ok.injEq] at hlocated
  rw [← hlocated, hfile.node, Option.some.injEq] at hnode
  rw [← hempty content hnode.symm]
  exact hfile

/-- A file elsewhere is what it was. -/
theorem has_file (h : Opened store paths created) (hfile : store.HasFile path place content)
    (hfree : ∀ other ∈ paths, created.locate other ≠ .ok place) :
    created.HasFile path place content :=
  ⟨h.directories.locate hfile.located, h.elsewhere place _ hfile.node hfree⟩

end Opened

end Panorama.CommandLine
