import Mathlib

/-! # Binary Merkle trees over an arbitrary node hash

A tree of height `d` over a leaf function, built the way a layer-by-layer loop
builds it (`foldLayers`), its value as a recursive function (`treeRoot`), and the
inclusion paths a verifier folds from a leaf to the root (`pathRoot`).

* `foldLayers_range` — the loop computes `treeRoot`.
* `pathRoot_pathTo` — the path read off the tree folds to its root.
* `leaf_of_pathRoot_eq` — conversely, a path that folds to the root of a tree
  starts at one of its leaves, as long as the node hash does not collide on the
  pairs hashed by the tree and by the path.  Nothing is assumed about the other
  inputs of the hash, so the hypothesis is satisfiable by a hash into a finite
  type.  `leaf_eq_of_treeRoot_eq` is the same for two trees.
* `treeRoot_eq_sparseRoot`, `treePairs_subset_sparsePairs` — a tree that is mostly
  padding, evaluated without visiting the padding.
-/

namespace OwlId.Lib.Merkle

variable {F : Type*} (node : F → F → F)

/-! ## The layer loop -/

/-- One pass of the loop: adjacent nodes are paired, a lone last node is dropped. -/
def nextLayer : List F → List F
  | a :: b :: rest => node a b :: nextLayer rest
  | _ => []

/-- `while layer.len() > 1`, for at most the given number of rounds. -/
def foldLayers : Nat → List F → List F
  | 0, layer => layer
  | rounds + 1, layer =>
    if 1 < layer.length then foldLayers rounds (nextLayer node layer) else layer

/-! ## Trees over a leaf function -/

/-- The node of height `d` at horizontal position `i`. -/
def treeRoot : Nat → (Nat → F) → Nat → F
  | 0, leaf, i => leaf i
  | d + 1, leaf, i => node (treeRoot d leaf (2 * i)) (treeRoot d leaf (2 * i + 1))

/-- The pairs hashed below the node of height `d` at position `i`. -/
def treePairs : Nat → (Nat → F) → Nat → List (F × F)
  | 0, _, _ => []
  | d + 1, leaf, i =>
    (treeRoot node d leaf (2 * i), treeRoot node d leaf (2 * i + 1)) ::
      (treePairs d leaf (2 * i) ++ treePairs d leaf (2 * i + 1))

theorem nextLayer_range (leaf : Nat → F) (n : Nat) :
    nextLayer node ((List.range (2 * n)).map leaf) =
      (List.range n).map fun i => node (leaf (2 * i)) (leaf (2 * i + 1)) := by
  induction n generalizing leaf with
  | zero => rfl
  | succ n ih =>
    rw [show 2 * (n + 1) = 2 * n + 1 + 1 by ring, List.range_succ_eq_map, List.range_succ_eq_map,
      List.range_succ_eq_map]
    have shifted := ih (fun i => leaf (i + 2))
    simp only [List.map_cons, List.map_map, nextLayer, Function.comp_def, List.cons.injEq]
    refine ⟨trivial, ?_⟩
    rw [shifted]
    apply List.map_congr_left
    intro i _
    congr 2

theorem treeRoot_succ (d : Nat) (leaf : Nat → F) (i : Nat) :
    treeRoot node (d + 1) leaf i =
      treeRoot node d (fun i => node (leaf (2 * i)) (leaf (2 * i + 1))) i := by
  induction d generalizing i with
  | zero => rfl
  | succ d ih => rw [treeRoot, ih, ih, treeRoot]

/-- On `2 ^ d` leaves the loop stops after `d` rounds with the root alone. -/
theorem foldLayers_range (d : Nat) (leaf : Nat → F) :
    foldLayers node d ((List.range (2 ^ d)).map leaf) = [treeRoot node d leaf 0] := by
  induction d generalizing leaf with
  | zero => rfl
  | succ d ih =>
    have big : 1 < ((List.range (2 ^ (d + 1))).map leaf).length := by
      simp
    rw [foldLayers, if_pos big, pow_succ, Nat.mul_comm, nextLayer_range, ih, treeRoot_succ]

/-! ## Inclusion paths -/

structure PathEntry (F : Type*) where
  sibling : F
  goesLeft : Bool
deriving DecidableEq

/-- The two inputs of the node above `acc`, in order. -/
def entryPair (acc : F) (entry : PathEntry F) : F × F :=
  if entry.goesLeft then (acc, entry.sibling) else (entry.sibling, acc)

/-- Fold a path upwards from `acc`. -/
def pathRoot (acc : F) : List (PathEntry F) → F
  | [] => acc
  | entry :: rest => pathRoot (node (entryPair acc entry).1 (entryPair acc entry).2) rest

/-- The pairs hashed while folding a path. -/
def pathPairs (acc : F) : List (PathEntry F) → List (F × F)
  | [] => []
  | entry :: rest =>
    entryPair acc entry :: pathPairs (node (entryPair acc entry).1 (entryPair acc entry).2) rest

/-- The path from leaf `j` to the top of the tree of height `d` that holds it. -/
def pathTo : Nat → (Nat → F) → Nat → List (PathEntry F)
  | 0, _, _ => []
  | d + 1, leaf, j =>
    pathTo d leaf j ++
      [if j / 2 ^ d % 2 = 0 then ⟨treeRoot node d leaf (j / 2 ^ d + 1), true⟩
       else ⟨treeRoot node d leaf (j / 2 ^ d - 1), false⟩]

@[simp] theorem pathTo_length (d : Nat) (leaf : Nat → F) (j : Nat) :
    (pathTo node d leaf j).length = d := by
  induction d with
  | zero => rfl
  | succ d ih => simp [pathTo, ih]

theorem pathRoot_concat (acc : F) (path : List (PathEntry F)) (entry : PathEntry F) :
    pathRoot node acc (path ++ [entry]) =
      node (entryPair (pathRoot node acc path) entry).1
        (entryPair (pathRoot node acc path) entry).2 := by
  induction path generalizing acc with
  | nil => rfl
  | cons head rest ih => exact ih _

theorem pathPairs_concat (acc : F) (path : List (PathEntry F)) (entry : PathEntry F) :
    pathPairs node acc (path ++ [entry]) =
      pathPairs node acc path ++ [entryPair (pathRoot node acc path) entry] := by
  induction path generalizing acc with
  | nil => rfl
  | cons head rest ih => simp [pathPairs, pathRoot, ih]

theorem pathRoot_pathTo (d : Nat) (leaf : Nat → F) (j : Nat) :
    pathRoot node (leaf j) (pathTo node d leaf j) = treeRoot node d leaf (j / 2 ^ d) := by
  induction d with
  | zero => simp [pathTo, pathRoot, treeRoot]
  | succ d ih =>
    have half : j / 2 ^ (d + 1) = j / 2 ^ d / 2 := by rw [pow_succ, Nat.div_div_eq_div_mul]
    rw [pathTo, pathRoot_concat, ih, treeRoot, half]
    -- `i` is the position at height `d`; its parity says which child it is.
    generalize j / 2 ^ d = i
    by_cases even : i % 2 = 0
    · simp only [even, if_true, entryPair]
      rw [show 2 * (i / 2) = i by omega]
    · simp only [even, if_false, entryPair, Bool.false_eq_true]
      rw [show 2 * (i / 2) = i - 1 by omega, show i - 1 + 1 = i by omega]

/-- Inversion: a path that folds to a tree's root begins at one of its leaves. -/
theorem leaf_of_pathRoot_eq {d : Nat} {leaf : Nat → F} {i : Nat} {acc : F}
    {path : List (PathEntry F)} (length : path.length = d)
    (injective : Set.InjOn (fun p : F × F => node p.1 p.2)
      {p | p ∈ treePairs node d leaf i ∨ p ∈ pathPairs node acc path})
    (root : pathRoot node acc path = treeRoot node d leaf i) :
    ∃ j, j < 2 ^ d ∧ acc = leaf (i * 2 ^ d + j) := by
  induction d generalizing i path with
  | zero =>
    obtain rfl := List.length_eq_zero_iff.mp length
    exact ⟨0, by simp, by simpa [pathRoot, treeRoot] using root⟩
  | succ d ih =>
    obtain ⟨init, entry, rfl⟩ : ∃ init entry, path = init ++ [entry] := by
      rcases List.eq_nil_or_concat path with rfl | ⟨init, entry, rfl⟩
      · simp at length
      · exact ⟨init, entry, by simp⟩
    rw [pathRoot_concat, treeRoot] at root
    have pairs : entryPair (pathRoot node acc init) entry =
        (treeRoot node d leaf (2 * i), treeRoot node d leaf (2 * i + 1)) :=
      injective (by simp [pathPairs_concat]) (by simp [treePairs]) root
    have below : ∀ k, (k = 2 * i ∨ k = 2 * i + 1) →
        pathRoot node acc init = treeRoot node d leaf k →
        ∃ j, j < 2 ^ d ∧ acc = leaf (k * 2 ^ d + j) := by
      intro k hk hroot
      refine ih (by simpa using length) (injective.mono ?_) hroot
      rintro p (hp | hp)
      · left
        rcases hk with rfl | rfl <;> simp [treePairs, hp]
      · right
        simp [pathPairs_concat, hp]
    -- The last entry says into which half of the tree the path descends.
    unfold entryPair at pairs
    split at pairs
    · obtain ⟨j, bound, rfl⟩ := below (2 * i) (.inl rfl) (congrArg Prod.fst pairs)
      exact ⟨j, by rw [pow_succ]; omega, by congr 1; ring⟩
    · obtain ⟨j, bound, rfl⟩ := below (2 * i + 1) (.inr rfl) (congrArg Prod.snd pairs)
      exact ⟨2 ^ d + j, by rw [pow_succ]; omega, by congr 1; ring⟩

/-- Binding: two trees of one height with the same root have the same leaves. -/
theorem leaf_eq_of_treeRoot_eq {d : Nat} {leaf leaf' : Nat → F} {i : Nat}
    (injective : Set.InjOn (fun p : F × F => node p.1 p.2)
      {p | p ∈ treePairs node d leaf i ∨ p ∈ treePairs node d leaf' i})
    (root : treeRoot node d leaf i = treeRoot node d leaf' i) :
    ∀ j < 2 ^ d, leaf (i * 2 ^ d + j) = leaf' (i * 2 ^ d + j) := by
  induction d generalizing i with
  | zero =>
    intro j bound
    obtain rfl : j = 0 := by simpa using bound
    simpa [treeRoot] using root
  | succ d ih =>
    intro j bound
    rw [treeRoot, treeRoot] at root
    have pairs : (treeRoot node d leaf (2 * i), treeRoot node d leaf (2 * i + 1)) =
        (treeRoot node d leaf' (2 * i), treeRoot node d leaf' (2 * i + 1)) :=
      injective (by simp [treePairs]) (by simp [treePairs]) root
    have below : ∀ k, (k = 2 * i ∨ k = 2 * i + 1) →
        treeRoot node d leaf k = treeRoot node d leaf' k →
        ∀ j < 2 ^ d, leaf (k * 2 ^ d + j) = leaf' (k * 2 ^ d + j) := by
      intro k child hroot
      apply ih (injective.mono ?_) hroot
      intro p member
      cases child with
      | inl left => cases member <;> simp_all [treePairs]
      | inr right => cases member <;> simp_all [treePairs]
    -- the leaf lies below the left child or below the right one
    rw [pow_succ] at bound ⊢
    by_cases left : j < 2 ^ d
    · have same := below (2 * i) (.inl rfl) (congrArg Prod.fst pairs) j left
      rwa [show 2 * i * 2 ^ d + j = i * (2 ^ d * 2) + j by ring] at same
    · have same := below (2 * i + 1) (.inr rfl) (congrArg Prod.snd pairs) (j - 2 ^ d) (by omega)
      rwa [show (2 * i + 1) * 2 ^ d + (j - 2 ^ d) = i * (2 ^ d * 2) + (2 ^ d + (j - 2 ^ d)) by ring,
        show 2 ^ d + (j - 2 ^ d) = j by omega] at same

/-! ## Sparse trees

A tree that repeats one value past a short list of leaves has few distinct nodes;
`sparseRoot` and `sparsePairs` visit each of them once.
-/

/-- The pairs of a layer whose tail repeats `filler`. -/
def pairUp (filler : F) : List F → List (F × F)
  | a :: b :: rest => (a, b) :: pairUp filler rest
  | [a] => [(a, filler)]
  | [] => []

def sparseLayer (filler : F) (layer : List F) : List F :=
  (pairUp filler layer).map fun p => node p.1 p.2

def sparseRoot : Nat → F → List F → F
  | 0, filler, layer => layer.headD filler
  | d + 1, filler, layer => sparseRoot d (node filler filler) (sparseLayer node filler layer)

def sparsePairs : Nat → F → List F → List (F × F)
  | 0, _, _ => []
  | d + 1, filler, layer =>
    (filler, filler) ::
      (pairUp filler layer ++ sparsePairs d (node filler filler) (sparseLayer node filler layer))

theorem getD_pairUp (filler : F) (layer : List F) (i : Nat) :
    (pairUp filler layer).getD i (filler, filler) =
      (layer.getD (2 * i) filler, layer.getD (2 * i + 1) filler) := by
  induction layer using pairUp.induct generalizing i with
  | case1 a b rest ih =>
    cases i with
    | zero => rfl
    | succ i =>
      simp only [pairUp, List.getD_cons_succ, ih]
      rfl
  | case2 a => cases i <;> rfl
  | case3 => simp [pairUp]

theorem getD_sparseLayer (filler : F) (layer : List F) (i : Nat) :
    (sparseLayer node filler layer).getD i (node filler filler) =
      node (layer.getD (2 * i) filler) (layer.getD (2 * i + 1) filler) := by
  have mapped := List.getD_map (l := pairUp filler layer) (d := (filler, filler)) (n := i)
    (fun p : F × F => node p.1 p.2)
  rw [getD_pairUp] at mapped
  exact mapped

theorem treeRoot_eq_sparseRoot (d : Nat) (filler : F) (layer : List F) :
    treeRoot node d (fun i => layer.getD i filler) 0 = sparseRoot node d filler layer := by
  induction d generalizing filler layer with
  | zero => cases layer <;> rfl
  | succ d ih =>
    rw [treeRoot_succ, sparseRoot, ← ih]
    simp only [getD_sparseLayer]

/-- The pairs below a node are those of the layer above the leaves, or pairs of leaves. -/
theorem mem_treePairs_succ {d : Nat} {leaf : Nat → F} {i : Nat} {p : F × F}
    (member : p ∈ treePairs node (d + 1) leaf i) :
    p ∈ treePairs node d (fun i => node (leaf (2 * i)) (leaf (2 * i + 1))) i ∨
      ∃ j, p = (leaf (2 * j), leaf (2 * j + 1)) := by
  induction d generalizing i with
  | zero =>
    simp only [treePairs, treeRoot, List.append_nil, List.mem_singleton] at member
    exact .inr ⟨i, member⟩
  | succ d ih =>
    rw [treePairs, List.mem_cons, List.mem_append] at member
    rw [treePairs, List.mem_cons, List.mem_append]
    rcases member with top | left | right
    · exact .inl (.inl (by rw [top, treeRoot_succ, treeRoot_succ]))
    · exact (ih left).imp_left fun h => .inr (.inl h)
    · exact (ih right).imp_left fun h => .inr (.inr h)

theorem treePairs_subset_sparsePairs (d : Nat) (filler : F) (layer : List F) :
    treePairs node d (fun i => layer.getD i filler) 0 ⊆ sparsePairs node d filler layer := by
  induction d generalizing filler layer with
  | zero => simp [treePairs]
  | succ d ih =>
    intro p member
    rw [sparsePairs, List.mem_cons, List.mem_append]
    rcases mem_treePairs_succ node member with above | ⟨j, rfl⟩
    · simp only [← getD_sparseLayer] at above
      exact .inr (.inr (ih _ _ above))
    · rw [← getD_pairUp]
      by_cases bound : j < (pairUp filler layer).length
      · rw [List.getD_eq_getElem _ _ bound]
        exact .inr (.inl (List.getElem_mem bound))
      · exact .inl (List.getD_eq_default _ _ (by omega))

end OwlId.Lib.Merkle
