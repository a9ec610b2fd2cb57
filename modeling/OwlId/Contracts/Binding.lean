import Mathlib
import OwlId.Contracts.Predicate

/-! # Binding of witnesses to a credential

A circuit accepts a claim commitment because a Merkle path leads from it to the
issuer-signed root.  This module says what that is worth: when the root was
computed by the issuer from a list of claims, the commitment is one the issuer made.

The hash functions are not assumed injective, which no function into 32 bytes is.
The results name the inputs they rely on (`HashInput`) and ask that the functions
do not collide on those, and that none of them hashes to the padding leaf.
-/

namespace OwlId.Contracts

open OwlId.Lib
open OwlId.ProofSystem

/-! ## Hash inputs -/

/-- One evaluation of a hash function. -/
inductive HashInput where
  | sha (message : Bytes)
  | leaf (data : Bytes32)
  | node (left right : Fr)
deriving DecidableEq

structure CollisionFree (H : Hashes) (inputs : List HashInput) : Prop where
  sha : ∀ m m', .sha m ∈ inputs → .sha m' ∈ inputs → H.sha256 m = H.sha256 m' → m = m'
  leaf : ∀ b b', .leaf b ∈ inputs → .leaf b' ∈ inputs →
    countryLeafFr H b = countryLeafFr H b' → b = b'
  node : ∀ l r l' r', .node l r ∈ inputs → .node l' r' ∈ inputs →
    merkleNode H l r = merkleNode H l' r' → l = l' ∧ r = r'
  /-- The padding leaf is not the hash of anything. -/
  nonzero : ∀ m, .sha m ∈ inputs → H.sha256 m ≠ zero32

theorem CollisionFree.mono {H : Hashes} {small large : List HashInput}
    (free : CollisionFree H large) (subset : small ⊆ large) : CollisionFree H small where
  sha m m' hm hm' := free.sha m m' (subset hm) (subset hm')
  leaf b b' hb hb' := free.leaf b b' (subset hb) (subset hb')
  node l r l' r' h h' := free.node l r l' r' (subset h) (subset h')
  nonzero m hm := free.nonzero m (subset hm)

theorem append_subset_append {a a' b b' : List HashInput} (left : a ⊆ a') (right : b ⊆ b') :
    a ++ b ⊆ a' ++ b' :=
  List.append_subset.mpr
    ⟨List.subset_append_of_subset_left _ left, List.subset_append_of_subset_right _ right⟩

/-- No collision between two evaluations, and neither is the padding leaf. -/
def HashInput.Apart (H : Hashes) : HashInput → HashInput → Prop
  | .sha m, .sha m' => (H.sha256 m = H.sha256 m' → m = m') ∧ H.sha256 m ≠ zero32
  | .leaf b, .leaf b' => countryLeafFr H b = countryLeafFr H b' → b = b'
  | .node l r, .node l' r' => merkleNode H l r = merkleNode H l' r' → l = l' ∧ r = r'
  | _, _ => True

instance (H : Hashes) : (x y : HashInput) → Decidable (x.Apart H y)
  | .sha _, .sha _ => inferInstanceAs (Decidable ((_ → _) ∧ _ ≠ _))
  | .leaf _, .leaf _ => inferInstanceAs (Decidable (_ → _))
  | .node _ _, .node _ _ => inferInstanceAs (Decidable (_ → _))
  | .sha _, .leaf _ | .sha _, .node _ _ | .leaf _, .sha _ | .leaf _, .node _ _
  | .node _ _, .sha _ | .node _ _, .leaf _ => inferInstanceAs (Decidable True)

theorem collisionFree_iff {H : Hashes} {inputs : List HashInput} :
    CollisionFree H inputs ↔ ∀ x ∈ inputs.dedup, ∀ y ∈ inputs.dedup, x.Apart H y := by
  simp only [List.mem_dedup]
  constructor
  · intro free x hx y hy
    cases x <;> cases y <;> try exact trivial
    · exact ⟨free.sha _ _ hx hy, free.nonzero _ hx⟩
    · exact free.leaf _ _ hx hy
    · exact free.node _ _ _ _ hx hy
  · intro apart
    exact ⟨fun m m' hm hm' => (apart _ hm _ hm').1, fun b b' hb hb' => apart _ hb _ hb',
      fun l r l' r' h h' => apart _ h _ h', fun m hm => (apart _ hm _ hm).2⟩

instance (H : Hashes) (inputs : List HashInput) : Decidable (CollisionFree H inputs) :=
  decidable_of_iff _ collisionFree_iff.symm

/-- What the evaluation returns; a digest stands for the bytes of a SHA-256 value. -/
def HashInput.output (H : Hashes) (digest : Bytes → Nat) : HashInput → Nat × Nat
  | .sha m => (0, digest m)
  | .leaf b => (1, (countryLeafFr H b).val)
  | .node l r => (2, (merkleNode H l r).val)

/-- Distinct inputs with distinct outputs: one comparison of numbers a pair. -/
theorem collisionFree_of_outputs {H : Hashes} {digest : Bytes → Nat}
    (digested : ∀ m m', H.sha256 m = H.sha256 m' → digest m = digest m')
    (nonzero : ∀ m, H.sha256 m ≠ zero32) {inputs : List HashInput}
    (apart : inputs.Pairwise fun x y => x.output H digest = y.output H digest → x = y) :
    CollisionFree H inputs := by
  have same : ∀ x ∈ inputs, ∀ y ∈ inputs, x.output H digest = y.output H digest → x = y := by
    intro x hx y hy
    refine List.Pairwise.forall_of_forall_of_flip (R := fun x y =>
      x.output H digest = y.output H digest → x = y) ?_ apart ?_ hx hy
    · intro x _ _
      rfl
    · exact apart.imp fun separate equal => (separate equal.symm).symm
  constructor
  · intro m m' hm hm' equal
    have inputs := same _ hm _ hm' (congrArg (Prod.mk 0) (digested m m' equal))
    exact HashInput.sha.inj inputs
  · intro b b' hb hb' equal
    exact HashInput.leaf.inj (same _ hb _ hb' (congrArg (fun f : Fr => (1, f.val)) equal))
  · intro l r l' r' h h' equal
    exact HashInput.node.inj (same _ h _ h' (congrArg (fun f : Fr => (2, f.val)) equal))
  · intro m _
    exact nonzero m

theorem sampleHashes_collisionFree {inputs : List HashInput}
    (apart : inputs.Pairwise fun x y =>
      x.output sampleHashes sampleDigest = y.output sampleHashes sampleDigest → x = y) :
    CollisionFree sampleHashes inputs :=
  collisionFree_of_outputs (fun _ _ => sampleDigest_eq) sampleHashes_ne_zero apart

def wordsInput (words : List Bytes32) : HashInput := .sha (concat32 words)

theorem CollisionFree.words {H : Hashes} {inputs : List HashInput} (free : CollisionFree H inputs)
    (words words' : List Bytes32) (member : wordsInput words ∈ inputs)
    (member' : wordsInput words' ∈ inputs)
    (equal : persistentHash H words = persistentHash H words') : words = words' :=
  concat32_injective (free.sha _ _ member member' equal)

section Inputs

variable (H : Hashes)

def pairInput (pair : Fr × Fr) : HashInput := .node pair.1 pair.2

/-- What folding a path hashes. -/
def pathInputs (path : MerkleTreePath) : List HashInput :=
  .leaf path.leaf ::
    (Merkle.pathPairs (merkleNode H) (countryLeafFr H path.leaf) path.path.toList).map pairInput

/-- What building the padded tree over the slots hashes. -/
def treeInputs (slots : List Bytes32) : List HashInput :=
  .leaf zero32 :: (slots.map .leaf ++
    (Merkle.treePairs (merkleNode H) merkleDepth
      (fun i => countryLeafFr H (slots.getD i zero32)) 0).map pairInput)

def commitInput (name : String) (value salt : Bytes32) : HashInput :=
  wordsInput [pad32 name, value, salt]

/-- The commitments of a credential's predicate-bearing claims. -/
def entryInputs (entries : List ClaimEntry) : List HashInput :=
  entries.filterMap fun entry =>
    (claimValue32 entry.name entry.value).map fun value =>
      commitInput entry.name value (salt32For H entry.salt)

/-- What computing a credential's root hashes. -/
def credentialInputs (entries : List ClaimEntry) : List HashInput :=
  entryInputs H entries ++ treeInputs H (claimLeaves H entries)

end Inputs

/-! ## Inverting a path -/

theorem mem_inputs_of_getD {H : Hashes} (slots : List Bytes32) (i : Nat) :
    .leaf (slots.getD i zero32) ∈ treeInputs H slots := by
  by_cases bound : i < slots.length
  · rw [List.getD_eq_getElem _ _ bound]
    simp [treeInputs]
  · rw [List.getD_eq_default _ _ (by omega)]
    simp [treeInputs]

/-- A path to the root of a padded tree starts at one of its slots or at the padding. -/
theorem slot_of_path {H : Hashes} {slots : List Bytes32} {path : MerkleTreePath}
    (free : CollisionFree H (pathInputs H path ++ treeInputs H slots))
    (root : merkleTreePathRoot H path = merkleRootOf H slots) :
    path.leaf = zero32 ∨ path.leaf ∈ slots := by
  rw [merkleRootOf_eq_treeRoot] at root
  have injective : Set.InjOn (fun p : Fr × Fr => merkleNode H p.1 p.2)
      {p | p ∈ Merkle.treePairs (merkleNode H) merkleDepth
            (fun i => countryLeafFr H (slots.getD i zero32)) 0 ∨
          p ∈ Merkle.pathPairs (merkleNode H) (countryLeafFr H path.leaf) path.path.toList} := by
    have hashed : ∀ p : Fr × Fr,
        (p ∈ Merkle.treePairs (merkleNode H) merkleDepth
            (fun i => countryLeafFr H (slots.getD i zero32)) 0 ∨
          p ∈ Merkle.pathPairs (merkleNode H) (countryLeafFr H path.leaf) path.path.toList) →
        .node p.1 p.2 ∈ pathInputs H path ++ treeInputs H slots := by
      rintro p (member | member)
      · exact List.mem_append_right _ (List.mem_cons_of_mem _
          (List.mem_append_right _ (List.mem_map.mpr ⟨p, member, rfl⟩)))
      · exact List.mem_append_left _ (List.mem_cons_of_mem _ (List.mem_map.mpr ⟨p, member, rfl⟩))
    intro p hp q hq equal
    obtain ⟨left, right⟩ := free.node _ _ _ _ (hashed p hp) (hashed q hq) equal
    exact Prod.ext left right
  obtain ⟨j, _, leaf⟩ := Merkle.leaf_of_pathRoot_eq _ (by simp) injective root
  have leafEq : path.leaf = slots.getD (0 * 2 ^ merkleDepth + j) zero32 :=
    free.leaf _ _ (by simp [pathInputs])
      (List.mem_append_right _ (mem_inputs_of_getD slots _)) leaf
  by_cases bound : 0 * 2 ^ merkleDepth + j < slots.length
  · rw [List.getD_eq_getElem _ _ bound] at leafEq
    exact .inr (leafEq ▸ List.getElem_mem bound)
  · rw [List.getD_eq_default _ _ (by omega)] at leafEq
    exact .inl leafEq

/-! ## Claims a predicate can bind to -/

theorem pad32_injOn_bearingNames :
    ∀ a ∈ bearingNames, ∀ b ∈ bearingNames, pad32 a = pad32 b → a = b := by
  have fit : ∀ a ∈ bearingNames, (asBytes a).length ≤ 32 ∧ 0 ∉ asBytes a := by decide
  intro a bearing b bearing'
  exact pad32_inj (fit a bearing) (fit b bearing')

/-- A committed claim under a credential's root is one of the credential's claims. -/
theorem entry_of_path {H : Hashes} {entries : List ClaimEntry} {path : MerkleTreePath}
    {name : String} {value salt : Bytes32} (bearing : name ∈ bearingNames)
    (free : CollisionFree H
      (commitInput name value salt :: pathInputs H path ++ credentialInputs H entries))
    (leaf : path.leaf = claimCommit H name value salt)
    (root : owlRootForClaims H entries = some (frToLeBytes32 (merkleTreePathRoot H path))) :
    ∃ entry ∈ entries, entry.name = name ∧ claimValue32 entry.name entry.value = some value ∧
      salt = salt32For H entry.salt := by
  have rootEq : merkleTreePathRoot H path = merkleRootOf H (claimLeaves H entries) := by
    unfold owlRootForClaims owlClaimsRoot at root
    split at root
    · exact (frToLeBytes32_injective (Option.some.inj root)).symm
    · cases root
  have inTree : CollisionFree H (pathInputs H path ++ treeInputs H (claimLeaves H entries)) :=
    free.mono (append_subset_append (List.subset_cons_self _ _) (List.subset_append_right _ _))
  have committed : path.leaf ∈ claimLeaves H entries := by
    rcases slot_of_path inTree rootEq with padding | member
    · exact absurd (leaf.symm.trans padding) (free.nonzero _ (by simp [commitInput, wordsInput]))
    · exact member
  obtain ⟨entry, member, word, bears, leafEq⟩ := (mem_claimLeaves H).mp committed
  have hashed : commitInput entry.name word (salt32For H entry.salt) ∈ entryInputs H entries :=
    List.mem_filterMap.mpr ⟨entry, member, by simp [bears]⟩
  have opened : [pad32 name, value, salt] = [pad32 entry.name, word, salt32For H entry.salt] :=
    free.words _ _ (by simp [commitInput])
      (List.mem_append_right _ (List.mem_append_left _ hashed)) (leaf.symm.trans leafEq)
  simp only [List.cons.injEq, and_true] at opened
  obtain ⟨names, rfl, rfl⟩ := opened
  exact ⟨entry, member,
    (pad32_injOn_bearingNames _ bearing _ (mem_bearingNames bears) names).symm, bears, rfl⟩

/-! ## Trees that are mostly padding -/

/-- The path of the first leaf of a tree with no other. -/
def lonePath (H : Hashes) (leaf : Bytes32) : MerkleTreePath where
  leaf := leaf
  path := Vector.ofFn fun level =>
    ⟨Merkle.sparseRoot (merkleNode H) level (countryLeafFr H zero32) [], true⟩

/-- What building a padded tree hashes, without visiting its padding. -/
def sparseInputs (H : Hashes) (slots : List Bytes32) : List HashInput :=
  .leaf zero32 :: (slots.map .leaf ++
    (Merkle.sparsePairs (merkleNode H) merkleDepth (countryLeafFr H zero32)
      (slots.map (countryLeafFr H))).map pairInput)

theorem treeInputs_subset_sparseInputs (H : Hashes) (slots : List Bytes32) :
    treeInputs H slots ⊆ sparseInputs H slots := by
  have pairs := Merkle.treePairs_subset_sparsePairs (merkleNode H) merkleDepth
    (countryLeafFr H zero32) (slots.map (countryLeafFr H))
  simp only [List.getD_map] at pairs
  exact List.cons_subset_cons _
    (append_subset_append (List.Subset.refl _) (List.map_subset _ pairs))

/-- The path of a lone leaf leads to the root of its tree. -/
theorem merkleTreePathRoot_lonePath (H : Hashes) (leaf : Bytes32) :
    merkleTreePathRoot H (lonePath H leaf) = merkleRootOf H [leaf] := by
  rw [merkleRootOf_eq_sparseRoot]
  rfl

section Lone

variable {H : Hashes} {entry : ClaimEntry} {value : Bytes32}

theorem claimLeaves_singleton (bears : claimValue32 entry.name entry.value = some value) :
    claimLeaves H [entry] = [claimCommit H entry.name value (salt32For H entry.salt)] := by
  simp [claimLeaves, entryCommit, bears]

theorem entryInputs_singleton (bears : claimValue32 entry.name entry.value = some value) :
    entryInputs H [entry] = [commitInput entry.name value (salt32For H entry.salt)] := by
  simp [entryInputs, bears]

/-- The root of a credential with one claim. -/
theorem owlRootForClaims_singleton (bears : claimValue32 entry.name entry.value = some value) :
    owlRootForClaims H [entry] = some (frToLeBytes32 (merkleTreePathRoot H
      (lonePath H (claimCommit H entry.name value (salt32For H entry.salt))))) := by
  have one : 1 ≤ countrySetSlots := by decide
  rw [owlRootForClaims, claimLeaves_singleton bears, merkleTreePathRoot_lonePath, owlClaimsRoot,
    if_pos (by simpa using one)]

/-- What it takes to compute that root, without visiting the padding. -/
theorem credentialInputs_singleton (bears : claimValue32 entry.name entry.value = some value) :
    credentialInputs H [entry] ⊆ commitInput entry.name value (salt32For H entry.salt) ::
      sparseInputs H [claimCommit H entry.name value (salt32For H entry.salt)] := by
  rw [credentialInputs, entryInputs_singleton bears, claimLeaves_singleton bears]
  exact List.cons_subset_cons _ (treeInputs_subset_sparseInputs H _)

end Lone

end OwlId.Contracts
