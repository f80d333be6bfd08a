/-!
# Trees of prefix codes

The tree of a prefix code joins the two lightest trees again and again. Trees wait in a heap: an
array in which the children of place `n` are at places `2 * n + 1` and `2 * n + 2` and are not
lighter. Which of two equally heavy trees is joined first is decided by their places.
-/

namespace Panorama.PrefixCode

/-- A tree with symbols at its leaves. -/
inductive Tree where
  /-- A symbol. -/
  | leaf (symbol : Nat)
  /-- Two trees. -/
  | join (left right : Tree)
  deriving DecidableEq, Repr

/-- The symbols of a tree and their depths, where the root is at a depth. -/
def Tree.depths (depth : Nat) : Tree → List (Nat × Nat)
  | leaf symbol => [(symbol, depth)]
  | join left right => left.depths (depth + 1) ++ right.depths (depth + 1)

/-- A tree and how often its symbols occur. -/
structure Weighted where
  /-- How often the symbols occur in all. -/
  weight : Nat
  /-- The tree. -/
  tree : Tree
  deriving DecidableEq, Repr

/-- Trees in the order of a heap. -/
abbrev Heap := Array Weighted

namespace Heap

/-- The lighter child of a place, and the right one of two equally heavy ones. -/
def lighterChild? (heap : Heap) (place : Nat) : Option { child : Nat // child < heap.size } :=
  if hasLeft : 2 * place + 1 < heap.size then
    if hasRight : 2 * place + 2 < heap.size then
      if heap[2 * place + 2].weight ≤ heap[2 * place + 1].weight then some ⟨_, hasRight⟩
      else some ⟨_, hasLeft⟩
    else some ⟨_, hasLeft⟩
  else none

/-- A child is behind its parent. -/
theorem lt_lighterChild {heap : Heap} {place : Nat} {child : { child : Nat // child < heap.size }}
    (found : lighterChild? heap place = some child) : place < child.val := by
  unfold lighterChild? at found
  split at found
  · split at found
    · split at found <;> · cases found; simp only; omega
    · cases found; simp only; omega
  · cases found

/-- Move a tree down as long as a child is lighter, or to the bottom. -/
def sink (heap : Heap) (place : Nat) (toBottom : Bool) : Heap × Nat :=
  match found : lighterChild? heap place with
  | none => (heap, place)
  | some child =>
    have : place < child.val := lt_lighterChild found
    have := child.property
    if toBottom ∨ heap[child.val].weight < heap[place].weight then
      sink (heap.swap place child.val) child.val toBottom
    else (heap, place)
termination_by heap.size - place
decreasing_by simp only [Array.size_swap]; omega

/-- Move a tree up as long as its parent is heavier. -/
def rise (heap : Heap) (place : Nat) : Heap :=
  if inside : 0 < place ∧ place < heap.size then
    have : (place - 1) / 2 < place := by omega
    if heap[place].weight < heap[(place - 1) / 2].weight then
      rise (heap.swap place ((place - 1) / 2)) ((place - 1) / 2)
    else heap
  else heap
termination_by place

/-- Trees as a heap: all parents sink, the last one first. -/
def ofArray (trees : Array Weighted) : Heap :=
  (List.range (trees.size / 2)).reverse.foldl (fun heap place ↦ (sink heap place false).1) trees

/-- Take out the lightest tree. The last one takes its place, sinks to the bottom and rises. -/
def pop? (heap : Heap) : Option (Weighted × Heap) :=
  match heap.back? with
  | none => none
  | some last =>
    let rest := heap.pop
    match rest[0]? with
    | none => some (last, rest)
    | some lightest =>
      let (sunk, place) := sink (rest.setIfInBounds 0 last) 0 true
      some (lightest, rise sunk place)

/-- Join the two lightest trees. The joined tree takes the place of the second one. -/
def joinLightest (heap : Heap) : Heap :=
  match pop? heap with
  | none => heap
  | some (first, rest) =>
    match rest[0]? with
    | none => heap
    | some second =>
      let joined := ⟨first.weight + second.weight, .join first.tree second.tree⟩
      (sink (rest.setIfInBounds 0 joined) 0 false).1

end Heap

/-- The symbols that occur, and their depths in the tree of the code. -/
def depths (frequencies : Array Nat) : List (Nat × Nat) :=
  let leaves := frequencies.mapIdx fun symbol weight ↦ (⟨weight, .leaf symbol⟩ : Weighted)
  let heap := Heap.ofArray (leaves.filter (0 < ·.weight))
  match (Nat.repeat Heap.joinLightest (heap.size - 1) heap)[0]? with
  | none => []
  | some joined => joined.tree.depths 0

end Panorama.PrefixCode
