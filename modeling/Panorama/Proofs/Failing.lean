import Mathlib
import Panorama.Error

/-!
# Computations that may fail

Two computations in a row have a result if both have. A loop over a list or an array has a result
if every step has one, and the result has the results of the steps in order.
-/

namespace Panorama.Failing

variable {α β ε : Type}

/-- Two computations in a row have a result if both have. -/
theorem bind_eq_ok_iff {first : Except ε α} {next : α → Except ε β} {result : β} :
    (first >>= next) = .ok result ↔ ∃ middle, first = .ok middle ∧ next middle = .ok result := by
  cases first with
  | error failure => simp [bind, Except.bind]
  | ok middle => simp [bind, Except.bind]

/-- Two computations in a row fail if the first one does, or the second with the result of it. -/
theorem bind_eq_error_iff {first : Except ε α} {next : α → Except ε β} {failure : ε} :
    (first >>= next) = .error failure ↔
      first = .error failure ∨ ∃ middle, first = .ok middle ∧ next middle = .error failure := by
  cases first with
  | error failure => simp [bind, Except.bind]
  | ok middle => simp [bind, Except.bind]

/-- A check in front of a computation passes if its condition does not hold. -/
theorem guard_eq_ok_iff {condition : Prop} [Decidable condition] {failure : ε}
    {next : Unit → Except ε α} {result : α} :
    (if condition then throw failure >>= next else next ()) = .ok result ↔
      ¬condition ∧ next () = .ok result := by
  by_cases h : condition
  · rw [if_pos h]
    exact ⟨nofun, fun hparts ↦ absurd h hparts.1⟩
  · rw [if_neg h]
    exact (and_iff_right h).symm

/-- A check of a value passes if there is none, or if it passes for the value. -/
theorem for_option_eq_ok_iff {item? : Option α} {action : α → Except ε PUnit} :
    item?.forM action = .ok () ↔ ∀ item, item? = some item → action item = .ok () := by
  cases item? with
  | none => exact ⟨fun _ ↦ nofun, fun _ ↦ rfl⟩
  | some item => simp [Option.forM]

/-- An operation that may be refused has the same result as one with preconditions. -/
theorem of_result_eq_ok_iff {result : Result α} {value : α} :
    Outcome.ofResult result = .ok value ↔ result = .ok value := by
  cases result <;> simp [Outcome.ofResult]

/-- An operation with only preconditions has a result if none was broken. -/
theorem of_option_eq_ok_iff {value? : Option α} {value : α} :
    Outcome.ofOption value? = .ok value ↔ value? = some value := by
  cases value? <;> simp [Outcome.ofOption]

/-- Lists that are related item by item have related items at every position. -/
theorem exists_of_forall₂ {R : α → β → Prop} {items : List α} {results : List β} {index : Nat}
    {item : α} (h : List.Forall₂ R items results) (hitem : items[index]? = some item) :
    ∃ result, results[index]? = some result ∧ R item result := by
  induction h generalizing index with
  | nil => cases hitem
  | cons hfirst _ ih =>
      cases index with
      | zero =>
          cases hitem
          exact ⟨_, rfl, hfirst⟩
      | succ index => exact ih hitem

/-- Items that each have a related one are a list that has a related one. -/
theorem exists_related {R : α → β → Prop} {items : List α}
    (h : ∀ item ∈ items, ∃ result, R item result) : ∃ results, List.Forall₂ R items results := by
  induction items with
  | nil => exact ⟨[], .nil⟩
  | cons item items ih =>
      obtain ⟨⟨first, hfirst⟩, hothers⟩ := List.forall_mem_cons.mp h
      obtain ⟨rest, hrest⟩ := ih hothers
      exact ⟨first :: rest, .cons hfirst hrest⟩

/-- Two computations in a row have a result if both have one. -/
theorem exists_bind_eq_some {first : Option α} {next : α → Option β}
    (hfirst : ∃ middle, first = some middle)
    (hnext : ∀ middle, ∃ result, next middle = some result) :
    ∃ result, (first >>= next) = some result := by
  obtain ⟨middle, rfl⟩ := hfirst
  exact hnext middle

/-- Beside its items a list has their positions. -/
theorem zip_idx_get {items : List α} {index : Nat} {item : α} (h : items[index]? = some item) :
    items.zipIdx[index]? = some (item, index) := by
  rw [List.getElem?_zipIdx, h, Nat.zero_add]
  rfl

/-- Loops with the same steps have the same result. -/
theorem map_congr {m : Type → Type} [Monad m] [LawfulMonad m] {γ : Type} {R : α → β → Prop}
    {items : List α} {others : List β} {action : α → m γ} {otherAction : β → m γ}
    (h : List.Forall₂ R items others)
    (hsame : ∀ item other, R item other → action item = otherAction other) :
    items.mapM action = others.mapM otherAction := by
  induction h with
  | nil => rfl
  | cons hfirst _ ih =>
      rw [List.mapM_cons, List.mapM_cons, hsame _ _ hfirst, ih]

/-- Related lists lead to the same at every position if related items do. -/
theorem position_congr {R : α → β → Prop} {γ : Type} {items : List α} {others : List β}
    {next : α → Option γ} {otherNext : β → Option γ} {index : Nat}
    (h : List.Forall₂ R items others)
    (hsame : ∀ item other, R item other → next item = otherNext other) :
    (items[index]? >>= next) = (others[index]? >>= otherNext) := by
  induction h generalizing index with
  | nil => rfl
  | cons hfirst _ ih =>
      cases index with
      | zero => exact hsame _ _ hfirst
      | succ index => exact ih

/-- Lists that are related item by item are so beside the items of a third list. -/
theorem zip_related {R : α → β → Prop} {γ : Type} {items : List α} {others : List β}
    (h : List.Forall₂ R items others) (beside : List γ) :
    List.Forall₂ (fun left right ↦ R left.1 right.1 ∧ left.2 = right.2) (items.zip beside)
      (others.zip beside) := by
  induction h generalizing beside with
  | nil => exact .nil
  | cons hfirst _ ih =>
      cases beside with
      | nil => exact .nil
      | cons item beside => exact .cons ⟨hfirst, rfl⟩ (ih beside)

/-- A loop over a list has a result if every step has. -/
theorem map_eq_some_iff {action : α → Option β} {items : List α} {results : List β} :
    items.mapM action = some results
      ↔ List.Forall₂ (fun item result ↦ action item = some result) items results := by
  induction items generalizing results with
  | nil => simp [eq_comm]
  | cons item items ih =>
      rw [List.mapM_cons, List.forall₂_cons_left_iff]
      simp only [Option.bind_eq_bind, Option.bind_eq_some_iff, Option.pure_def, Option.some.injEq,
        ih]
      constructor
      · intro hparts
        obtain ⟨first, hfirst, rest, hrest, hresults⟩ := hparts
        exact ⟨first, rest, hfirst, hrest, hresults.symm⟩
      · intro hparts
        obtain ⟨first, rest, hfirst, hrest, hresults⟩ := hparts
        exact ⟨first, hfirst, rest, hrest, hresults.symm⟩

/-- A loop over a list that may be refused has a result if every step has. -/
theorem map_eq_ok_iff {action : α → Except ε β} {items : List α} {results : List β} :
    items.mapM action = .ok results
      ↔ List.Forall₂ (fun item result ↦ action item = .ok result) items results := by
  induction items generalizing results with
  | nil =>
      simp [pure, Except.pure, eq_comm]
  | cons item items ih =>
      rw [List.mapM_cons, List.forall₂_cons_left_iff]
      simp only [bind_eq_ok_iff, ih, pure, Except.pure, Except.ok.injEq]
      constructor
      · intro hparts
        obtain ⟨first, hfirst, rest, hrest, hresults⟩ := hparts
        exact ⟨first, rest, hfirst, hrest, hresults.symm⟩
      · intro hparts
        obtain ⟨first, rest, hfirst, hrest, hresults⟩ := hparts
        exact ⟨first, hfirst, rest, hrest, hresults.symm⟩

/-- A check of every item of a list passes if it passes for each. -/
theorem for_eq_ok_iff {action : α → Except ε Unit} {items : List α} :
    items.forM action = .ok () ↔ ∀ item ∈ items, action item = .ok () := by
  induction items with
  | nil => simp [List.forM, pure, Except.pure]
  | cons item items ih =>
      show (action item >>= fun _ ↦ items.forM action) = .ok () ↔ _
      rw [bind_eq_ok_iff, List.forall_mem_cons, ← ih]
      constructor
      · intro hparts
        obtain ⟨_, hfirst, hrest⟩ := hparts
        exact ⟨hfirst, hrest⟩
      · intro hparts
        obtain ⟨hfirst, hrest⟩ := hparts
        exact ⟨(), hfirst, hrest⟩

/-- A loop over a list has a result if every step has one. -/
theorem exists_map_eq_some {action : α → Option β} {items : List α}
    (h : ∀ item ∈ items, ∃ result, action item = some result) :
    ∃ results, items.mapM action = some results := by
  induction items with
  | nil => exact ⟨[], rfl⟩
  | cons item items ih =>
      obtain ⟨first, hfirst⟩ := h item List.mem_cons_self
      obtain ⟨rest, hrest⟩ := ih fun other hother ↦ h other (List.mem_cons_of_mem _ hother)
      refine ⟨first :: rest, ?_⟩
      rw [List.mapM_cons, hfirst, hrest]
      rfl

/-- A loop over a list has related results if every step has a related one. -/
theorem exists_map_related {R : α → β → Prop} {action : α → Option β} {items : List α}
    (h : ∀ item ∈ items, ∃ result, action item = some result ∧ R item result) :
    ∃ results, items.mapM action = some results ∧ List.Forall₂ R items results := by
  induction items with
  | nil => exact ⟨[], rfl, .nil⟩
  | cons item items ih =>
      obtain ⟨⟨first, hfirst, hrelated⟩, hothers⟩ := List.forall_mem_cons.mp h
      obtain ⟨rest, hrest, hall⟩ := ih hothers
      refine ⟨first :: rest, ?_, .cons hrelated hall⟩
      rw [List.mapM_cons, hfirst, hrest]
      rfl

/-- A loop over a list with a state has a result if every step has one. -/
theorem exists_fold_eq_some {action : β → α → Option β} {items : List α}
    (h : ∀ state, ∀ item ∈ items, ∃ result, action state item = some result) (state : β) :
    ∃ result, items.foldlM action state = some result := by
  induction items generalizing state with
  | nil => exact ⟨state, rfl⟩
  | cons item items ih =>
      obtain ⟨next, hnext⟩ := h state item List.mem_cons_self
      obtain ⟨result, hresult⟩ :=
        ih (fun state other hother ↦ h state other (List.mem_cons_of_mem _ hother)) next
      refine ⟨result, ?_⟩
      rw [List.foldlM_cons, hnext]
      exact hresult

/-- Loops with a state and the same steps have the same result. -/
theorem fold_congr {action other : β → α → Option β} {items : List α}
    (h : ∀ state, ∀ item ∈ items, action state item = other state item) (state : β) :
    items.foldlM action state = items.foldlM other state := by
  induction items generalizing state with
  | nil => rfl
  | cons item items ih =>
      obtain ⟨hfirst, hrest⟩ : (∀ state, action state item = other state item) ∧
          ∀ state, ∀ item ∈ items, action state item = other state item :=
        ⟨fun state ↦ h state item List.mem_cons_self,
          fun state later hlater ↦ h state later (List.mem_cons_of_mem _ hlater)⟩
      rw [List.foldlM_cons, List.foldlM_cons, hfirst]
      exact congrArg _ (funext fun next ↦ ih hrest next)

/-- A loop over a list that may be refused has a result if every step has one. -/
theorem exists_map_eq_ok {action : α → Except ε β} {items : List α}
    (h : ∀ item ∈ items, ∃ result, action item = .ok result) :
    ∃ results, items.mapM action = .ok results := by
  induction items with
  | nil => exact ⟨[], rfl⟩
  | cons item items ih =>
      obtain ⟨first, hfirst⟩ := h item List.mem_cons_self
      obtain ⟨rest, hrest⟩ := ih fun other hother ↦ h other (List.mem_cons_of_mem _ hother)
      refine ⟨first :: rest, ?_⟩
      rw [List.mapM_cons, hfirst, hrest]
      rfl

/-- A loop over a list with positions is a loop over the list of items with their positions. -/
theorem map_idx_go (action : Nat → α → Option β) (items : List α) (front : Array β) :
    List.mapIdxM.go action items front
      = ((items.zipIdx front.size).mapM fun (item, index) ↦ action index item).map
          (front.toList ++ ·) := by
  induction items generalizing front with
  | nil => exact congrArg some (List.append_nil _).symm
  | cons item items ih =>
      rw [List.mapIdxM.go, List.zipIdx_cons, List.mapM_cons]
      dsimp only
      cases action front.size item with
      | none => rfl
      | some result =>
          simp only [Option.bind_eq_bind, Option.bind_some, ih, Array.size_push,
            Array.toList_push, List.append_assoc]
          cases (items.zipIdx (front.size + 1)).mapM fun (item, index) ↦ action index item <;> rfl

/-- A loop over an array with positions is a loop over the list of items with their positions. -/
theorem map_idx_eq_some_iff_map (action : Nat → α → Option β) (items : Array α)
    (results : Array β) : items.mapIdxM action = some results ↔
      (items.toList.zipIdx.mapM fun (item, index) ↦ action index item) = some results.toList := by
  have hlist : items.mapIdxM action = some results
      ↔ items.toList.mapIdxM action = some results.toList := by
    rw [← Array.toList_mapIdxM]
    cases items.mapIdxM action with
    | none => simp
    | some other => simp [Array.toList_inj]
  rw [hlist, List.mapIdxM, map_idx_go]
  simp only [List.size_toArray, List.length_nil, List.nil_append, Option.map_id_fun', id]

/-- A loop over an array with positions has a result if every step has. -/
theorem map_idx_eq_some_iff {action : Nat → α → Option β} {items : Array α} {results : Array β} :
    items.mapIdxM action = some results ↔ results.size = items.size ∧
      ∀ index item, items[index]? = some item → action index item = results[index]? := by
  simp only [map_idx_eq_some_iff_map, map_eq_some_iff, List.forall₂_iff_get, List.length_zipIdx,
    Array.length_toList]
  constructor
  · intro hparts
    obtain ⟨hsize, hall⟩ := hparts
    refine ⟨hsize.symm, fun index item hitem ↦ ?_⟩
    obtain ⟨hindex, rfl⟩ := Array.getElem?_eq_some_iff.mp hitem
    have hstep := hall index hindex (hsize ▸ hindex)
    rw [Array.getElem?_eq_getElem (hsize ▸ hindex)]
    simpa using hstep
  · intro hparts
    obtain ⟨hsize, hall⟩ := hparts
    refine ⟨hsize.symm, fun index hindex hresult ↦ ?_⟩
    have hstep := hall index items[index] (Array.getElem?_eq_getElem hindex)
    rw [Array.getElem?_eq_getElem (hsize ▸ hindex)] at hstep
    simpa using hstep

/-- A loop over an array with positions has a result if every step has one. -/
theorem exists_map_idx_eq_some {action : Nat → α → Option β} {items : Array α}
    (h : ∀ index item, items[index]? = some item → ∃ result, action index item = some result) :
    ∃ results, items.mapIdxM action = some results := by
  have hall (item : α × Nat) (hitem : item ∈ items.toList.zipIdx) :
      ∃ result, (fun (item, index) ↦ action index item) item = some result :=
    h item.2 item.1 (by simpa using List.mem_zipIdx_iff_getElem?.mp hitem)
  obtain ⟨results, hresults⟩ := exists_map_eq_some hall
  exact ⟨results.toArray, (map_idx_eq_some_iff_map ..).mpr (by simpa using hresults)⟩

end Panorama.Failing
