import Mathlib
import OwlId.ProofSystem.Countries
import OwlId.Contracts.Binding

/-! # Separation of attestation keys

The seven key recipes share one space of 32-byte keys.  Each hashes its tag, the
credential's root and one parameter word, so equal keys have equal tags, roots and
parameter words; what is left is that each recipe's parameter word determines the
arguments it was made from, up to the codes that have no slot in the country tree.

As in `Binding`, the hash functions are only asked not to collide on the inputs the
two calls hash.
-/

namespace OwlId.Contracts

open OwlId.Lib OwlId.ProofSystem

/-! ## Calls of the recipes -/

/-- What a key says about a credential, with the argument types of the recipes. -/
inductive KeyFact where
  | age (threshold : Fin (2 ^ 128)) (epochYmd : UInt32)
  | ageRange (minAge maxAge : UInt16) (epochYmd : UInt32)
  | kyc (threshold : Fin (2 ^ 128))
  | nationality (clientId : String) (countries : List String)
  | residency (clientId : String) (countries : List String)
  | emailVerified
  | uniquePersonhood (epoch campaign : Bytes32) (clientId : String)
deriving DecidableEq

namespace KeyFact

section

variable (H : Hashes)

/-- The recipe of the fact; personhood is composed with `personhood_app_id`. -/
def key (owlRoot : Bytes32) : KeyFact → Bytes32
  | .age threshold epochYmd => ageKey H owlRoot threshold.val epochYmd.toNat
  | .ageRange minAge maxAge epochYmd =>
    ageRangeKey H owlRoot minAge.toNat maxAge.toNat epochYmd.toNat
  | .kyc threshold => kycKey H owlRoot threshold.val
  | .nationality clientId countries => nationalityKey H owlRoot clientId countries
  | .residency clientId countries => residencyKey H owlRoot clientId countries
  | .emailVerified => emailVerifiedKey H owlRoot
  | .uniquePersonhood epoch campaign clientId =>
    uniquePersonhoodKey H owlRoot epoch (personhoodAppId H clientId campaign)

def tag : KeyFact → String
  | .age .. => tagAge
  | .ageRange .. => tagAgeRange
  | .kyc .. => tagKyc
  | .nationality .. => tagNationality
  | .residency .. => tagResidency
  | .emailVerified => tagEmailVerified
  | .uniquePersonhood .. => tagUniquePersonhood

def param : KeyFact → Bytes32
  | .age threshold epochYmd => hashPair H (u128Le32 threshold.val) (u128Le32 epochYmd.toNat)
  | .ageRange minAge maxAge epochYmd =>
    persistentHash H [u16Le32 minAge.toNat, u16Le32 maxAge.toNat, u128Le32 epochYmd.toNat]
  | .kyc threshold => u128Le32 threshold.val
  | .nationality clientId countries => allowedCountrySetHash H clientId countries
  | .residency clientId countries => allowedCountrySetHash H clientId countries
  | .emailVerified => zero32
  | .uniquePersonhood epoch campaign clientId =>
    hashPair H epoch (personhoodAppId H clientId campaign)

/-- Every recipe is the same hash of its tag, the root and its parameter. -/
theorem key_eq (owlRoot : Bytes32) (fact : KeyFact) :
    fact.key H owlRoot = ProofSystem.key H fact.tag owlRoot (fact.param H) := by
  cases fact <;> rfl

/-! ## What a call hashes -/

def setHashInputs (clientId : String) (countries : List String) : List HashInput :=
  .sha (asBytes clientId) ::
    wordsInput [verifierIdHash H clientId, frToLeBytes32 (allowedCountryMerkleRoot H countries)] ::
    treeInputs H (countrySlots countries)

def paramInputs : KeyFact → List HashInput
  | .age threshold epochYmd => [wordsInput [u128Le32 threshold.val, u128Le32 epochYmd.toNat]]
  | .ageRange minAge maxAge epochYmd =>
    [wordsInput [u16Le32 minAge.toNat, u16Le32 maxAge.toNat, u128Le32 epochYmd.toNat]]
  | .kyc _ => []
  | .nationality clientId countries => setHashInputs H clientId countries
  | .residency clientId countries => setHashInputs H clientId countries
  | .emailVerified => []
  | .uniquePersonhood epoch campaign clientId =>
    [.sha (asBytes clientId), wordsInput [verifierIdHash H clientId, campaign],
      wordsInput [epoch, personhoodAppId H clientId campaign]]

def inputs (owlRoot : Bytes32) (fact : KeyFact) : List HashInput :=
  wordsInput [pad32 fact.tag, owlRoot, fact.param H] :: fact.paramInputs H

end

end KeyFact

/-- The hash functions are injective on the inputs. -/
structure Injective (H : Hashes) (inputs : List HashInput) : Prop where
  sha : ∀ m m', .sha m ∈ inputs → .sha m' ∈ inputs → H.sha256 m = H.sha256 m' → m = m'
  leaf : ∀ b b', .leaf b ∈ inputs → .leaf b' ∈ inputs →
    countryLeafFr H b = countryLeafFr H b' → b = b'
  node : ∀ l r l' r', .node l r ∈ inputs → .node l' r' ∈ inputs →
    merkleNode H l r = merkleNode H l' r' → l = l' ∧ r = r'

theorem CollisionFree.injective {H : Hashes} {inputs : List HashInput}
    (free : CollisionFree H inputs) : Injective H inputs := ⟨free.sha, free.leaf, free.node⟩

namespace Injective

variable {H : Hashes} {inputs : List HashInput}

theorem mono {small : List HashInput} (injective : Injective H inputs) (subset : small ⊆ inputs) :
    Injective H small where
  sha m m' hm hm' := injective.sha m m' (subset hm) (subset hm')
  leaf b b' hb hb' := injective.leaf b b' (subset hb) (subset hb')
  node l r l' r' h h' := injective.node l r l' r' (subset h) (subset h')

theorem words (injective : Injective H inputs) {words words' : List Bytes32}
    (member : wordsInput words ∈ inputs) (member' : wordsInput words' ∈ inputs)
    (equal : persistentHash H words = persistentHash H words') : words = words' :=
  concat32_injective (injective.sha _ _ member member' equal)

theorem verifierId (injective : Injective H inputs) {clientId clientId' : String}
    (member : .sha (asBytes clientId) ∈ inputs) (member' : .sha (asBytes clientId') ∈ inputs)
    (equal : verifierIdHash H clientId = verifierIdHash H clientId') : clientId = clientId' :=
  asBytes_injective (injective.sha _ _ member member' equal)

/-- Two padded trees with one root have the same slots. -/
theorem slots {slots slots' : List Bytes32}
    (injective : Injective H (treeInputs H slots ++ treeInputs H slots'))
    (fits : slots.length ≤ countrySetSlots) (fits' : slots'.length ≤ countrySetSlots)
    (nonzero : zero32 ∉ slots) (nonzero' : zero32 ∉ slots')
    (root : merkleRootOf H slots = merkleRootOf H slots') : slots = slots' := by
  rw [merkleRootOf_eq_treeRoot, merkleRootOf_eq_treeRoot] at root
  have hashed : ∀ p : Fr × Fr,
      (p ∈ Merkle.treePairs (merkleNode H) merkleDepth
          (fun i => countryLeafFr H (slots.getD i zero32)) 0 ∨
        p ∈ Merkle.treePairs (merkleNode H) merkleDepth
          (fun i => countryLeafFr H (slots'.getD i zero32)) 0) →
      .node p.1 p.2 ∈ treeInputs H slots ++ treeInputs H slots' := by
    intro p member
    cases member with
    | inl first =>
      exact List.mem_append_left _ (List.mem_cons_of_mem _
        (List.mem_append_right _ (List.mem_map.mpr ⟨p, first, rfl⟩)))
    | inr second =>
      exact List.mem_append_right _ (List.mem_cons_of_mem _
        (List.mem_append_right _ (List.mem_map.mpr ⟨p, second, rfl⟩)))
  have leaves := Merkle.leaf_eq_of_treeRoot_eq _ (fun p hp q hq equal => by
    obtain ⟨left, right⟩ := injective.node _ _ _ _ (hashed p hp) (hashed q hq) equal
    exact Prod.ext left right) root
  apply eq_of_getD fits fits' nonzero nonzero'
  intro i bound
  have leafEq := leaves i bound
  rw [Nat.zero_mul, Nat.zero_add] at leafEq
  exact injective.leaf _ _ (List.mem_append_left _ (mem_inputs_of_getD slots i))
    (List.mem_append_right _ (mem_inputs_of_getD slots' i)) leafEq

/-- A set hash determines the verifier and the codes that have a slot. -/
theorem setHash {clientId clientId' : String} {countries countries' : List String}
    (injective : Injective H
      (KeyFact.setHashInputs H clientId countries ++ KeyFact.setHashInputs H clientId' countries'))
    (equal : allowedCountrySetHash H clientId countries =
      allowedCountrySetHash H clientId' countries') :
    clientId = clientId' ∧ heldCountries countries = heldCountries countries' := by
  have words := injective.words (by simp [KeyFact.setHashInputs]) (by simp [KeyFact.setHashInputs])
    equal
  simp only [List.cons.injEq, and_true] at words
  obtain ⟨verifiers, roots⟩ := words
  refine ⟨injective.verifierId (by simp [KeyFact.setHashInputs]) (by simp [KeyFact.setHashInputs])
    verifiers, ?_⟩
  have root := frToLeBytes32_injective roots
  rw [allowedCountryMerkleRoot_eq, allowedCountryMerkleRoot_eq] at root
  have trees : Injective H
      (treeInputs H (countrySlots countries) ++ treeInputs H (countrySlots countries')) :=
    injective.mono (append_subset_append
      (List.subset_cons_of_subset _ (List.subset_cons_self _ _))
      (List.subset_cons_of_subset _ (List.subset_cons_self _ _)))
  exact heldCountries_of_slots (trees.slots (countrySlots_length _) (countrySlots_length _)
    (zero_notMem_countrySlots _) (zero_notMem_countrySlots _) root)

end Injective

/-! ## Equal keys -/

theorem u128Le32_inj {m n : Nat} (hm : m < 2 ^ 128) (hn : n < 2 ^ 128)
    (same : u128Le32 m = u128Le32 n) : m = n := by
  rw [u128Le32, u128Le32, Nat.mod_eq_of_lt hm, Nat.mod_eq_of_lt hn] at same
  exact leBytes32_inj (by omega) (by omega) same

theorem u128Le32_uint32_inj {m n : UInt32} (same : u128Le32 m.toNat = u128Le32 n.toNat) : m = n := by
  have hm := m.toNat_lt
  have hn := n.toNat_lt
  exact UInt32.toNat_inj.mp (u128Le32_inj (by omega) (by omega) same)

theorem u16Le32_inj {m n : UInt16} (same : u16Le32 m.toNat = u16Le32 n.toNat) : m = n := by
  have hm := m.toNat_lt
  have hn := n.toNat_lt
  rw [u16Le32, u16Le32, Nat.mod_eq_of_lt (by omega), Nat.mod_eq_of_lt (by omega)] at same
  exact UInt16.toNat_inj.mp (leBytes32_inj (by omega) (by omega) same)

namespace KeyFact

variable {H : Hashes}

/-- The fact with its country list replaced by the codes the tree holds. -/
def held : KeyFact → KeyFact
  | .nationality clientId countries => .nationality clientId (heldCountries countries)
  | .residency clientId countries => .residency clientId (heldCountries countries)
  | fact => fact

/-- Facts of different kinds have different padded tags. -/
def kind : KeyFact → Fin 7
  | .age .. => 0
  | .ageRange .. => 1
  | .kyc .. => 2
  | .nationality .. => 3
  | .residency .. => 4
  | .emailVerified => 5
  | .uniquePersonhood .. => 6

def tagOf (kind : Fin 7) : String :=
  [tagAge, tagAgeRange, tagKyc, tagNationality, tagResidency, tagEmailVerified,
    tagUniquePersonhood].get kind

theorem tag_eq_tagOf (fact : KeyFact) : fact.tag = tagOf fact.kind := by
  cases fact <;> rfl

theorem tagOf_distinct : (∀ kind kind' : Fin 7, tagOf kind = tagOf kind' → kind = kind') ∧
    ∀ kind : Fin 7, (asBytes (tagOf kind)).length ≤ 32 ∧ 0 ∉ asBytes (tagOf kind) := by
  decide

theorem pad32_tagOf_inj (kind kind' : Fin 7) (same : pad32 (tagOf kind) = pad32 (tagOf kind')) :
    kind = kind' :=
  tagOf_distinct.1 kind kind' (pad32_inj (tagOf_distinct.2 kind) (tagOf_distinct.2 kind') same)

theorem held_eq_of_param {fact fact' : KeyFact}
    (injective : Injective H (fact.paramInputs H ++ fact'.paramInputs H))
    (sameKind : fact.kind = fact'.kind) (param : fact.param H = fact'.param H) :
    fact.held = fact'.held := by
  cases fact with
  | age threshold epochYmd =>
    cases fact' with
    | age threshold' epochYmd' =>
      have words := injective.words (by simp [paramInputs]) (by simp [paramInputs]) param
      simp only [List.cons.injEq, and_true] at words
      rw [Fin.ext (u128Le32_inj threshold.isLt threshold'.isLt words.1),
        u128Le32_uint32_inj words.2]
    | _ => cases sameKind
  | ageRange minAge maxAge epochYmd =>
    cases fact' with
    | ageRange minAge' maxAge' epochYmd' =>
      have words := injective.words (by simp [paramInputs]) (by simp [paramInputs]) param
      simp only [List.cons.injEq, and_true] at words
      rw [u16Le32_inj words.1, u16Le32_inj words.2.1, u128Le32_uint32_inj words.2.2]
    | _ => cases sameKind
  | kyc threshold =>
    cases fact' with
    | kyc threshold' => rw [Fin.ext (u128Le32_inj threshold.isLt threshold'.isLt param)]
    | _ => cases sameKind
  | nationality clientId countries =>
    cases fact' with
    | nationality clientId' countries' =>
      obtain ⟨verifier, codes⟩ := injective.setHash param
      rw [held, held, verifier, codes]
    | _ => cases sameKind
  | residency clientId countries =>
    cases fact' with
    | residency clientId' countries' =>
      obtain ⟨verifier, codes⟩ := injective.setHash param
      rw [held, held, verifier, codes]
    | _ => cases sameKind
  | emailVerified =>
    cases fact' with
    | emailVerified => rfl
    | _ => cases sameKind
  | uniquePersonhood epoch campaign clientId =>
    cases fact' with
    | uniquePersonhood epoch' campaign' clientId' =>
      have words := injective.words (by simp [paramInputs]) (by simp [paramInputs]) param
      simp only [List.cons.injEq, and_true] at words
      obtain ⟨epochs, scopes⟩ := words
      have scope := injective.words (by simp [paramInputs]) (by simp [paramInputs]) scopes
      simp only [List.cons.injEq, and_true] at scope
      rw [epochs, scope.2,
        injective.verifierId (by simp [paramInputs]) (by simp [paramInputs]) scope.1]
    | _ => cases sameKind

/-- Equal keys are keys of one credential and of one fact, up to codes without a slot. -/
theorem held_eq_of_key {owlRoot owlRoot' : Bytes32} {fact fact' : KeyFact}
    (injective : Injective H (fact.inputs H owlRoot ++ fact'.inputs H owlRoot'))
    (same : fact.key H owlRoot = fact'.key H owlRoot') :
    owlRoot = owlRoot' ∧ fact.held = fact'.held := by
  rw [key_eq, key_eq] at same
  have words := injective.words (by simp [inputs]) (by simp [inputs]) same
  simp only [List.cons.injEq, and_true] at words
  obtain ⟨tags, roots, params⟩ := words
  rw [tag_eq_tagOf, tag_eq_tagOf] at tags
  refine ⟨roots, held_eq_of_param (injective.mono ?_) (pad32_tagOf_inj _ _ tags) params⟩
  exact append_subset_append (List.subset_cons_self _ _) (List.subset_cons_self _ _)

/-- Codes without a slot do not reach the key. -/
theorem key_eq_of_held {owlRoot : Bytes32} {fact fact' : KeyFact} (same : fact.held = fact'.held) :
    fact.key H owlRoot = fact'.key H owlRoot := by
  have sets : ∀ {clientId : String} {countries countries' : List String},
      heldCountries countries = heldCountries countries' →
      allowedCountrySetHash H clientId countries = allowedCountrySetHash H clientId countries' := by
    intro clientId countries countries' codes
    rw [allowedCountrySetHash, allowedCountrySetHash, allowedCountryMerkleRoot_eq,
      allowedCountryMerkleRoot_eq, countrySlots, countrySlots, codes]
  cases fact with
  | nationality clientId countries =>
    cases fact' with
    | nationality clientId' countries' =>
      simp only [held, nationality.injEq] at same
      rw [key, key, nationalityKey, nationalityKey, same.1, sets same.2]
    | _ => cases same
  | residency clientId countries =>
    cases fact' with
    | residency clientId' countries' =>
      simp only [held, residency.injEq] at same
      rw [key, key, residencyKey, residencyKey, same.1, sets same.2]
    | _ => cases same
  | _ =>
    cases fact' with
    | _ => cases same <;> rfl

/-! ## Main result -/

/-- The canonical country set fits the tree. -/
def Fits : KeyFact → Prop
  | .nationality _ countries => (canonicaliseCountries countries).length ≤ countrySetSlots
  | .residency _ countries => (canonicaliseCountries countries).length ≤ countrySetSlots
  | _ => True

/-- The fact with its country list in canonical form. -/
def canonical : KeyFact → KeyFact
  | .nationality clientId countries => .nationality clientId (canonicaliseCountries countries)
  | .residency clientId countries => .residency clientId (canonicaliseCountries countries)
  | fact => fact

theorem held_eq_canonical {fact : KeyFact} (fits : fact.Fits) : fact.held = fact.canonical := by
  cases fact with
  | nationality clientId countries => rw [held, canonical, heldCountries_eq fits]
  | residency clientId countries => rw [held, canonical, heldCountries_eq fits]
  | _ => rfl

end KeyFact

/-- Domain separation: a key belongs to one credential and one fact. -/
theorem attestation_keys_separate (H : Hashes) (owlRoot owlRoot' : Bytes32) (fact fact' : KeyFact)
    (fits : fact.Fits) (fits' : fact'.Fits)
    (injective : Injective H (fact.inputs H owlRoot ++ fact'.inputs H owlRoot'))
    (same : fact.key H owlRoot = fact'.key H owlRoot') :
    owlRoot = owlRoot' ∧ fact.canonical = fact'.canonical := by
  obtain ⟨roots, facts⟩ := KeyFact.held_eq_of_key injective same
  rw [KeyFact.held_eq_canonical fits, KeyFact.held_eq_canonical fits'] at facts
  exact ⟨roots, facts⟩

/-! ### Two spellings of one allowed set -/

def sampleCodes : List String := ["FR", "DE"]

def sampleCodes' : List String := [" de", "fr", "DEU", "De"]

/-- What either call hashes, without visiting the padding of the tree. -/
def sampleSetInputs : List HashInput :=
  let slots := [padCountry "DE", padCountry "FR"]
  let root := frToLeBytes32 (Merkle.sparseRoot (merkleNode sampleHashes) merkleDepth
    (countryLeafFr sampleHashes zero32) (slots.map (countryLeafFr sampleHashes)))
  let setWords := [verifierIdHash sampleHashes "verifier", root]
  wordsInput [pad32 tagNationality, zero32, persistentHash sampleHashes setWords] ::
    .sha (asBytes "verifier") :: wordsInput setWords :: sparseInputs sampleHashes slots

theorem inputs_subset_sampleSetInputs {codes : List String}
    (slots : countrySlots codes = [padCountry "DE", padCountry "FR"]) :
    (KeyFact.nationality "verifier" codes).inputs sampleHashes zero32 ⊆ sampleSetInputs := by
  have root : allowedCountryMerkleRoot sampleHashes codes =
      Merkle.sparseRoot (merkleNode sampleHashes) merkleDepth (countryLeafFr sampleHashes zero32)
        ([padCountry "DE", padCountry "FR"].map (countryLeafFr sampleHashes)) := by
    rw [allowedCountryMerkleRoot_eq, slots, merkleRootOf_eq_sparseRoot]
  rw [KeyFact.inputs, KeyFact.param, KeyFact.paramInputs, KeyFact.setHashInputs,
    allowedCountrySetHash, root, slots]
  exact List.cons_subset_cons _ (List.cons_subset_cons _ (List.cons_subset_cons _
    (treeInputs_subset_sparseInputs _ _)))

theorem attestation_keys_separate_at_sample :
    (KeyFact.nationality "verifier" sampleCodes).key sampleHashes zero32 =
      (KeyFact.nationality "verifier" sampleCodes').key sampleHashes zero32 ∧
    canonicaliseCountries sampleCodes = canonicaliseCountries sampleCodes' := by
  obtain ⟨codes, codes'⟩ : canonicaliseCountries sampleCodes = ["DE", "FR"] ∧
      canonicaliseCountries sampleCodes' = ["DE", "FR"] := by decide
  have slots : countrySlots sampleCodes = [padCountry "DE", padCountry "FR"] := by
    rw [countrySlots, heldCountries, codes]
    rfl
  have slots' : countrySlots sampleCodes' = [padCountry "DE", padCountry "FR"] := by
    rw [countrySlots, heldCountries, codes']
    rfl
  have free : CollisionFree sampleHashes sampleSetInputs :=
    sampleHashes_collisionFree (by decide +kernel)
  have same : (KeyFact.nationality "verifier" sampleCodes).key sampleHashes zero32 =
      (KeyFact.nationality "verifier" sampleCodes').key sampleHashes zero32 :=
    KeyFact.key_eq_of_held (by simp only [KeyFact.held, heldCountries, codes, codes'])
  refine ⟨same, ?_⟩
  have fits : (canonicaliseCountries sampleCodes).length ≤ countrySetSlots := by
    rw [codes]
    decide
  have fits' : (canonicaliseCountries sampleCodes').length ≤ countrySetSlots := by
    rw [codes']
    decide
  have facts := (attestation_keys_separate sampleHashes zero32 zero32
    (.nationality "verifier" sampleCodes) (.nationality "verifier" sampleCodes') fits fits'
    (free.injective.mono (List.append_subset.mpr
      ⟨inputs_subset_sampleSetInputs slots, inputs_subset_sampleSetInputs slots'⟩)) same).2
  simpa [KeyFact.canonical] using facts

end OwlId.Contracts
