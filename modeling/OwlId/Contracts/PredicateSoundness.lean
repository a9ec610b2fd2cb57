import Mathlib
import OwlId.Contracts.Binding
import OwlId.Lib.Runs

/-! # Soundness of the predicate contracts

Every key a predicate contract ever records was opened by a claim commitment under
the root in the key, with a value that satisfies the predicate in the key.  Together
with the binding of commitments to credentials this is the guarantee a verifier
relies on: if the key it derives for a credential is recorded, the value the issuer
committed to satisfies the verifier's policy.

The argument is one inversion lemma for a call (`attest_returns`), one for a
transaction (`step_cases`), and an invariant over the history of transactions
(`Explained`).
-/

namespace OwlId.Contracts

open OwlId.Lib
open OwlId.ProofSystem

/-! ## What a call claims -/

def Kind.claimName : Kind → String
  | .kyc => "verification_level"
  | .age | .ageRange => "birthdate"
  | .nationality => "nationality"
  | .residency => "residentCountry"
  | .email => "email_verified"

def Kind.tag : Kind → String
  | .kyc => tagKyc
  | .age => tagAge
  | .ageRange => tagAgeRange
  | .nationality => tagNationality
  | .residency => tagResidency
  | .email => tagEmailVerified

theorem Kind.claimName_mem (kind : Kind) : kind.claimName ∈ bearingNames := by
  cases kind <;> decide

section

variable (H : Hashes)

/-- The predicate a public parameter encodes, of a committed value. -/
def PredicateHolds : Kind → Bytes32 → Bytes32 → Prop
  | .kyc, param, value => ∃ threshold level : UInt8,
      param = uintBytes threshold.toNat ∧ value = uintBytes level.toNat ∧ threshold ≤ level
  | .age, param, value => ∃ (threshold : UInt16) (asOfYmd dob : UInt32),
      param = ageParam H threshold asOfYmd ∧ value = uintBytes dob.toNat ∧
        threshold.toNat ≤ 150 ∧ dob.toNat + threshold.toNat * 10000 ≤ asOfYmd.toNat
  | .ageRange, param, value => ∃ (minAge maxAge : UInt16) (asOfYmd dob : UInt32),
      param = ageRangeParam H minAge maxAge asOfYmd ∧ value = uintBytes dob.toNat ∧
        minAge.toNat ≤ maxAge.toNat ∧ maxAge.toNat ≤ 150 ∧
        dob.toNat + minAge.toNat * 10000 ≤ asOfYmd.toNat ∧
        asOfYmd.toNat ≤ dob.toNat + maxAge.toNat * 10000
  | .nationality, param, value | .residency, param, value =>
      ∃ (verifierIdHash : Bytes32) (path : MerkleTreePath),
        param = persistentHash H [verifierIdHash, frToLeBytes32 (merkleTreePathRoot H path)] ∧
          path.leaf = value ∧ value ≠ zero32 ∧ verifierIdHash ≠ zero32
  | .email, param, value => ∃ flag : UInt8,
      param = zero32 ∧ value = uintBytes flag.toNat ∧ 1 ≤ flag

/-- The values a call opens, in the shape all circuits share. -/
structure Opening where
  owlRoot : Bytes32
  param : Bytes32
  value : Bytes32
  salt : Bytes32
  path : MerkleTreePath

def AttestCall.opening {kind : Kind} : AttestCall kind → Opening
  | .kycGte w owlRoot threshold =>
    ⟨owlRoot, uintBytes threshold.toNat, uintBytes w.value.toNat, w.claimSalt, w.claimPath⟩
  | .ageGte w owlRoot threshold asOfYmd =>
    ⟨owlRoot, ageParam H threshold asOfYmd, uintBytes w.value.toNat, w.claimSalt, w.claimPath⟩
  | .ageRange w owlRoot minAge maxAge asOfYmd =>
    ⟨owlRoot, ageRangeParam H minAge maxAge asOfYmd, uintBytes w.value.toNat, w.claimSalt,
      w.claimPath⟩
  | .nationalityIn w owlRoot setHash => ⟨owlRoot, setHash, w.country, w.claimSalt, w.claimPath⟩
  | .residencyIn w owlRoot setHash => ⟨owlRoot, setHash, w.country, w.claimSalt, w.claimPath⟩
  | .emailVerified w owlRoot =>
    ⟨owlRoot, pad32 "", uintBytes w.value.toNat, w.claimSalt, w.claimPath⟩

/-- The key a call asks the contract to record. -/
def AttestCall.key {kind : Kind} (call : AttestCall kind) : Bytes32 :=
  keyOf H (pad32 kind.tag) (call.opening H).owlRoot (call.opening H).param

/-- The predicate check of a call, on its own arguments. -/
def AttestCall.Holds {kind : Kind} : AttestCall kind → Prop
  | .kycGte w _ threshold => threshold ≤ w.value
  | .ageGte w _ threshold asOfYmd =>
    threshold.toNat ≤ 150 ∧ w.value.toNat + threshold.toNat * 10000 ≤ asOfYmd.toNat
  | .ageRange w _ minAge maxAge asOfYmd =>
    minAge.toNat ≤ maxAge.toNat ∧ maxAge.toNat ≤ 150 ∧
      w.value.toNat + minAge.toNat * 10000 ≤ asOfYmd.toNat ∧
      asOfYmd.toNat ≤ w.value.toNat + maxAge.toNat * 10000
  | .nationalityIn w _ setHash | .residencyIn w _ setHash =>
    setHash = persistentHash H
        [w.verifierIdHash, frToLeBytes32 (merkleTreePathRoot H w.allowedCountryPath)] ∧
      w.allowedCountryPath.leaf = w.country ∧ w.country ≠ zero32 ∧ w.verifierIdHash ≠ zero32
  | .emailVerified w _ => 1 ≤ w.value

/-- The call is bound to its root and its predicate holds. -/
structure AttestCall.Sound {kind : Kind} (call : AttestCall kind) : Prop where
  leaf : (call.opening H).path.leaf =
    claimCommit H kind.claimName (call.opening H).value (call.opening H).salt
  root : (call.opening H).owlRoot = frToLeBytes32 (merkleTreePathRoot H (call.opening H).path)
  holds : call.Holds H

end

/-! ## One call -/

variable {H : Hashes}

theorem bindClaim_eq_ok {name message : String} {owlRoot value salt : Bytes32}
    {path : MerkleTreePath} {u : Unit} :
    bindClaim H name message owlRoot value salt path = .ok u ↔
      path.leaf = claimCommit H name value salt ∧
        owlRoot = frToLeBytes32 (merkleTreePathRoot H path) := by
  simp [bindClaim, claimCommit]

@[simp] theorem pad32_empty : pad32 "" = zero32 := by decide

theorem uintSub_eq_ok {a b c : Nat} : uintSub a b = .ok c ↔ c + b = a := by
  unfold uintSub
  split
  · rw [pure_eq_ok]; omega
  · simp only [reduceCtorEq, false_iff]; omega

theorem attestCountryIn_returns {claimName tag noCountry leafMismatch commitMismatch : String}
    {ledger ledger' : Ledger} {w : CountryWitness} {owlRoot setHash : Bytes32}
    (returns : attestCountryIn H claimName tag noCountry leafMismatch commitMismatch ledger w
      owlRoot setHash = .ok ledger') :
    ledger.record (keyOf H (pad32 tag) owlRoot setHash) = .ok ledger' ∧
      w.claimPath.leaf = claimCommit H claimName w.country w.claimSalt ∧
      owlRoot = frToLeBytes32 (merkleTreePathRoot H w.claimPath) ∧
      setHash = persistentHash H
        [w.verifierIdHash, frToLeBytes32 (merkleTreePathRoot H w.allowedCountryPath)] ∧
      w.allowedCountryPath.leaf = w.country ∧ w.country ≠ zero32 ∧
      w.verifierIdHash ≠ zero32 := by
  simp only [attestCountryIn, bind_eq_ok, Access.assertNotPaused, ensure_eq_ok, bindClaim_eq_ok, exists_const] at returns
  obtain ⟨_, _, _, country, verifier, member, ⟨leaf, root⟩, set, recorded⟩ := returns
  exact ⟨recorded, leaf, root, set, member, country, verifier⟩

/-- A successful attest circuit records the key of a sound call. -/
theorem attest_returns {kind : Kind} {call : AttestCall kind} {ledger ledger' : Ledger}
    (returns : call.execute H ledger = .ok ledger') :
    ledger.record (call.key H) = .ok ledger' ∧ call.Sound H := by
  cases call with
  | kycGte w owlRoot threshold =>
    simp only [AttestCall.execute, attestKycGte, bind_eq_ok, Access.assertNotPaused, ensure_eq_ok, bindClaim_eq_ok,
      exists_const] at returns
    obtain ⟨_, _, ⟨leaf, root⟩, above, recorded⟩ := returns
    exact ⟨recorded, leaf, root, above⟩
  | ageGte w owlRoot threshold asOfYmd =>
    simp only [AttestCall.execute, attestAgeGte, bind_eq_ok, Access.assertNotPaused, ensure_eq_ok, bindClaim_eq_ok,
      uintSub_eq_ok, exists_const] at returns
    obtain ⟨_, _, inRange, ⟨leaf, root⟩, cutoff, difference, old, recorded⟩ := returns
    have bound : threshold.toNat ≤ 150 := inRange
    exact ⟨recorded, leaf, root, bound, by omega⟩
  | ageRange w owlRoot minAge maxAge asOfYmd =>
    simp only [AttestCall.execute, attestAgeRange, bind_eq_ok, Access.assertNotPaused, ensure_eq_ok, bindClaim_eq_ok,
      uintSub_eq_ok, exists_const] at returns
    obtain ⟨_, _, ordered, inRange, ⟨leaf, root⟩, cutoffMin, differenceMin, cutoffMax,
      differenceMax, old, young, recorded⟩ := returns
    have bound : maxAge.toNat ≤ 150 := inRange
    have order : minAge.toNat ≤ maxAge.toNat := ordered
    exact ⟨recorded, leaf, root, order, bound, by omega, by omega⟩
  | nationalityIn w owlRoot setHash =>
    obtain ⟨recorded, leaf, root, holds⟩ := attestCountryIn_returns returns
    exact ⟨recorded, leaf, root, holds⟩
  | residencyIn w owlRoot setHash =>
    obtain ⟨recorded, leaf, root, holds⟩ := attestCountryIn_returns returns
    exact ⟨recorded, leaf, root, holds⟩
  | emailVerified w owlRoot =>
    simp only [AttestCall.execute, attestEmailVerified, bind_eq_ok, Access.assertNotPaused, ensure_eq_ok, bindClaim_eq_ok,
      exists_const] at returns
    obtain ⟨_, _, ⟨leaf, root⟩, verified, recorded⟩ := returns
    exact ⟨recorded, leaf, root, verified⟩

theorem AttestCall.predicateHolds {kind : Kind} {call : AttestCall kind} (holds : call.Holds H) :
    PredicateHolds H kind (call.opening H).param (call.opening H).value := by
  cases call with
  | kycGte w owlRoot threshold => exact ⟨threshold, w.value, rfl, rfl, holds⟩
  | ageGte w owlRoot threshold asOfYmd => exact ⟨threshold, asOfYmd, w.value, rfl, rfl, holds⟩
  | ageRange w owlRoot minAge maxAge asOfYmd =>
    exact ⟨minAge, maxAge, asOfYmd, w.value, rfl, rfl, holds⟩
  | nationalityIn w owlRoot setHash => exact ⟨w.verifierIdHash, w.allowedCountryPath, holds⟩
  | residencyIn w owlRoot setHash => exact ⟨w.verifierIdHash, w.allowedCountryPath, holds⟩
  | emailVerified w owlRoot => exact ⟨w.value, pad32_empty, rfl, holds⟩

/-! ## One transaction -/

theorem Ledger.record_eq_ok {ledger ledger' : Ledger} {key : Bytes32}
    (returns : ledger.record key = .ok ledger') :
    ledger.log.record key = .ok ledger'.log ∧ ledger'.access = ledger.access := by
  simp only [Ledger.record, bind_eq_ok, pure_eq_ok] at returns
  obtain ⟨log, recorded, rfl⟩ := returns
  exact ⟨recorded, rfl⟩

/-- A transaction either leaves the recorded keys alone or records the key of one sound call. -/
theorem step_cases {kind : Kind} (ledger : Ledger) (tx : Transaction kind) :
    (ledger.step H tx).log = ledger.log ∨
    ∃ call, tx.call = .attest call ∧ call.Sound H ∧
      ledger.log.record (call.key H) = .ok (ledger.step H tx).log := by
  unfold Ledger.step
  cases outcome : tx.execute H ledger with
  | error message => exact .inl rfl
  | ok ledger' =>
    unfold Transaction.execute at outcome
    cases called : tx.call with
    | attest call =>
      rw [called] at outcome
      obtain ⟨recorded, sound⟩ := attest_returns outcome
      exact .inr ⟨call, rfl, sound, (Ledger.record_eq_ok recorded).1⟩
    | admin call =>
      rw [called] at outcome
      simp only [bind_eq_ok, pure_eq_ok] at outcome
      obtain ⟨access, _, rfl⟩ := outcome
      exact .inl rfl

theorem recorded_of_accepted {kind : Kind} {ledger : Ledger} {tx : Transaction kind}
    {call : AttestCall kind} (called : tx.call = .attest call)
    (accepted : (tx.execute H ledger).isOk = true) :
    call.key H ∈ (ledger.step H tx).log.attestations := by
  unfold Ledger.step
  cases outcome : tx.execute H ledger with
  | error message => simp [outcome, Except.isOk, Except.toBool] at accepted
  | ok ledger' =>
    rw [Transaction.execute, called] at outcome
    obtain ⟨recorded, _⟩ := attest_returns outcome
    rw [Attestations.record_attestations (Ledger.record_eq_ok recorded).1]
    exact Finset.mem_insert_self _ _

theorem step_coherent {kind : Kind} {ledger : Ledger} (tx : Transaction kind)
    (coherent : ledger.log.Coherent) : (ledger.step H tx).log.Coherent := by
  rcases step_cases (H := H) ledger tx with unchanged | ⟨_, _, _, recorded⟩
  · rwa [unchanged]
  · exact Attestations.record_coherent recorded coherent

/-! ## Whole runs -/

/-- Every recorded key is explained by a sound call of the history. -/
def Explained (H : Hashes) {kind : Kind} (history : List (Transaction kind)) (ledger : Ledger) :
    Prop :=
  ∀ key ∈ ledger.log.attestations, ∃ tx ∈ history, ∃ call, tx.call = .attest call ∧
    call.Sound H ∧ key = call.key H

theorem step_explained {kind : Kind} {history : List (Transaction kind)} {ledger : Ledger}
    (tx : Transaction kind) (explained : Explained H history ledger) :
    Explained H (history ++ [tx]) (ledger.step H tx) := by
  intro key member
  have earlier : key ∈ ledger.log.attestations → ∃ tx' ∈ history ++ [tx], ∃ call,
      tx'.call = .attest call ∧ call.Sound H ∧ key = call.key H := by
    intro old
    obtain ⟨tx', past, call⟩ := explained key old
    exact ⟨tx', by simp [past], call⟩
  rcases step_cases (H := H) ledger tx with unchanged | ⟨call, called, sound, recorded⟩
  · exact earlier (unchanged ▸ member)
  · rw [Attestations.record_attestations recorded, Finset.mem_insert] at member
    rcases member with rfl | old
    · exact ⟨tx, by simp, call, called, sound, rfl⟩
    · exact earlier old

theorem deploy_log {owner : KeyOrAddress} {ledger : Ledger} (deployed : deploy owner = .ok ledger) :
    ledger.log = .empty := by
  simp only [deploy, bind_eq_ok, pure_eq_ok] at deployed
  obtain ⟨access, _, rfl⟩ := deployed
  rfl

theorem run_explained {kind : Kind} {owner : KeyOrAddress} {ledger : Ledger}
    (deployed : deploy owner = .ok ledger) (txs : List (Transaction kind)) :
    Explained H txs (Runs.run (Ledger.step H) ledger txs) := by
  refine Runs.run_history (Explained H) ?_ ?_ txs
  · intro key member
    simp [deploy_log deployed, Attestations.empty] at member
  · intro history state tx
    exact step_explained tx

theorem run_coherent {kind : Kind} {owner : KeyOrAddress} {ledger : Ledger}
    (deployed : deploy owner = .ok ledger) (txs : List (Transaction kind)) :
    (Runs.run (Ledger.step H) ledger txs).log.Coherent := by
  refine Runs.run_invariant (fun state : Ledger => state.log.Coherent) ?_ ?_ txs
  · rw [deploy_log deployed]
    exact Attestations.empty_coherent
  · intro state tx
    exact step_coherent tx

/-! ## The verifier's view -/

section

variable (H : Hashes)

/-- What a verifier asks for, in the arguments of the key recipes. -/
inductive Policy : Kind → Type where
  | kycGte (threshold : Fin (2 ^ 128)) : Policy .kyc
  | ageGte (threshold : Fin (2 ^ 128)) (epochYmd : UInt32) : Policy .age
  | ageRange (minAge maxAge : UInt16) (epochYmd : UInt32) : Policy .ageRange
  | nationalityIn (clientId : String) (countries : List String) : Policy .nationality
  | residencyIn (clientId : String) (countries : List String) : Policy .residency
  | emailVerified : Policy .email

/-- The key the verifier looks up. -/
def Policy.key (owlRoot : Bytes32) {kind : Kind} : Policy kind → Bytes32
  | .kycGte threshold => kycKey H owlRoot threshold
  | .ageGte threshold epochYmd => ageKey H owlRoot threshold epochYmd.toNat
  | .ageRange minAge maxAge epochYmd =>
    ageRangeKey H owlRoot minAge.toNat maxAge.toNat epochYmd.toNat
  | .nationalityIn clientId countries => nationalityKey H owlRoot clientId countries
  | .residencyIn clientId countries => residencyKey H owlRoot clientId countries
  | .emailVerified => emailVerifiedKey H owlRoot

def Policy.param {kind : Kind} : Policy kind → Bytes32
  | .kycGte threshold => u128Le32 threshold
  | .ageGte threshold epochYmd => hashPair H (u128Le32 threshold) (u128Le32 epochYmd.toNat)
  | .ageRange minAge maxAge epochYmd =>
    persistentHash H [u16Le32 minAge.toNat, u16Le32 maxAge.toNat, u128Le32 epochYmd.toNat]
  | .nationalityIn clientId countries => allowedCountrySetHash H clientId countries
  | .residencyIn clientId countries => allowedCountrySetHash H clientId countries
  | .emailVerified => zero32

theorem Policy.key_eq_keyOf (owlRoot : Bytes32) {kind : Kind} (policy : Policy kind) :
    policy.key H owlRoot = keyOf H (pad32 kind.tag) owlRoot (policy.param H) := by
  cases policy <;> rfl

/-- The issued claim value meets the policy. -/
def Policy.SatisfiedBy {kind : Kind} (value : Json) : Policy kind → Prop
  | .kycGte threshold => ∃ level, verificationLevelToU128 value = some level ∧ threshold ≤ level
  | .ageGte threshold epochYmd => ∃ dob, dateToYyyymmdd value = some dob ∧
      dob + threshold * 10000 ≤ epochYmd.toNat
  | .ageRange minAge maxAge epochYmd => ∃ dob, dateToYyyymmdd value = some dob ∧
      dob + minAge.toNat * 10000 ≤ epochYmd.toNat ∧
      epochYmd.toNat ≤ dob + maxAge.toNat * 10000
  | .nationalityIn _ countries | .residencyIn _ countries =>
      ∃ country, value = .string country ∧
        ∃ allowed ∈ canonicaliseCountries countries, padCountry country = padCountry allowed
  | .emailVerified => jsonToBool value = some true

/-! ### Hash inputs of a run and of a policy -/

def countrySetInputs (clientId : String) (countries : List String) : List HashInput :=
  wordsInput [verifierIdHash H clientId, frToLeBytes32 (allowedCountryMerkleRoot H countries)] ::
    treeInputs H ((canonicaliseCountries countries).map padCountry)

def Policy.inputs {kind : Kind} : Policy kind → List HashInput
  | .ageGte threshold epochYmd => [wordsInput [u128Le32 threshold, u128Le32 epochYmd.toNat]]
  | .ageRange minAge maxAge epochYmd =>
    [wordsInput [u16Le32 minAge.toNat, u16Le32 maxAge.toNat, u128Le32 epochYmd.toNat]]
  | .nationalityIn clientId countries | .residencyIn clientId countries =>
    countrySetInputs H clientId countries
  | .kycGte _ | .emailVerified => []

def CountryWitness.inputs (w : CountryWitness) : List HashInput :=
  wordsInput [w.verifierIdHash, frToLeBytes32 (merkleTreePathRoot H w.allowedCountryPath)] ::
    pathInputs H w.allowedCountryPath

def AttestCall.paramInputs {kind : Kind} : AttestCall kind → List HashInput
  | .ageGte _ _ threshold asOfYmd =>
    [wordsInput [uintBytes threshold.toNat, uintBytes asOfYmd.toNat]]
  | .ageRange _ _ minAge maxAge asOfYmd =>
    [wordsInput [uintBytes minAge.toNat, uintBytes maxAge.toNat, uintBytes asOfYmd.toNat]]
  | .nationalityIn w _ _ | .residencyIn w _ _ => w.inputs H
  | .kycGte _ _ _ | .emailVerified _ _ => []

def keyInput (kind : Kind) (owlRoot param : Bytes32) : HashInput :=
  wordsInput [pad32 kind.tag, owlRoot, param]

/-- What the circuit of a call hashes. -/
def AttestCall.inputs {kind : Kind} (call : AttestCall kind) : List HashInput :=
  keyInput kind (call.opening H).owlRoot (call.opening H).param ::
    commitInput kind.claimName (call.opening H).value (call.opening H).salt ::
    pathInputs H (call.opening H).path ++ call.paramInputs H

def Transaction.inputs {kind : Kind} (tx : Transaction kind) : List HashInput :=
  match tx.call with
  | .attest call => call.inputs H
  | .admin _ => []

def runInputs {kind : Kind} (txs : List (Transaction kind)) : List HashInput :=
  txs.flatMap (Transaction.inputs H)

end

theorem mem_runInputs {kind : Kind} {txs : List (Transaction kind)} {tx : Transaction kind}
    {call : AttestCall kind} (member : tx ∈ txs) (called : tx.call = .attest call) :
    call.inputs H ⊆ runInputs H txs := by
  intro input hashed
  refine List.mem_flatMap.mpr ⟨tx, member, ?_⟩
  rw [Transaction.inputs, called]
  exact hashed

/-! ### From a recorded key to the issued claim -/

theorem uintBytes_eq_u128Le32 {a b : Nat} (bound : a < 2 ^ 128)
    (equal : uintBytes a = u128Le32 b) : a = b % 2 ^ 128 :=
  leBytes32_inj (by omega) (by omega) equal

theorem uintBytes_eq_u16Le32 {a b : Nat} (boundA : a < 2 ^ 16) (boundB : b < 2 ^ 16)
    (equal : uintBytes a = u16Le32 b) : a = b := by
  have := leBytes32_inj (by omega) (by omega) equal
  omega

/-- A country bound by a path to the verifier's set is one the verifier listed. -/
theorem country_allowed {w : CountryWitness} {setHash : Bytes32} {clientId : String}
    {countries : List String} {value : Json}
    (free : CollisionFree H (w.inputs H ++ countrySetInputs H clientId countries))
    (set : setHash = persistentHash H
      [w.verifierIdHash, frToLeBytes32 (merkleTreePathRoot H w.allowedCountryPath)])
    (leaf : w.allowedCountryPath.leaf = w.country) (nonzero : w.country ≠ zero32)
    (param : setHash = allowedCountrySetHash H clientId countries)
    (bears : value.asStr.map padCountry = some w.country) :
    ∃ country, value = .string country ∧
      ∃ allowed ∈ canonicaliseCountries countries, padCountry country = padCountry allowed := by
  have words := free.words _ _ (by simp [CountryWitness.inputs]) (by simp [countrySetInputs])
    (set.symm.trans param)
  simp only [List.cons.injEq, and_true] at words
  have root : merkleTreePathRoot H w.allowedCountryPath =
      merkleRootOf H ((canonicaliseCountries countries).map padCountry) :=
    frToLeBytes32_injective words.2
  have inTree : CollisionFree H (pathInputs H w.allowedCountryPath ++
      treeInputs H ((canonicaliseCountries countries).map padCountry)) :=
    free.mono (append_subset_append (List.subset_cons_self _ _) (List.subset_cons_self _ _))
  obtain ⟨country, text, committed⟩ := Option.map_eq_some_iff.mp bears
  rcases slot_of_path inTree root with padding | slot
  · exact absurd (leaf.symm.trans padding) nonzero
  · obtain ⟨allowed, listed, slotEq⟩ := List.mem_map.mp slot
    refine ⟨country, ?_, allowed, listed, ?_⟩
    · cases value <;> simp_all [Json.asStr]
    · rw [committed, slotEq, leaf]

theorem Policy.satisfied {kind : Kind} {policy : Policy kind} {call : AttestCall kind}
    {value : Json} (free : CollisionFree H (call.paramInputs H ++ policy.inputs H))
    (holds : call.Holds H) (param : (call.opening H).param = policy.param H)
    (bears : claimValue32 kind.claimName value = some (call.opening H).value) :
    policy.SatisfiedBy value := by
  cases policy with
  | kycGte threshold =>
    cases call with
    | kycGte w owlRoot least =>
      obtain ⟨level, parsed, committed⟩ := Option.map_eq_some_iff.mp bears
      have levelEq := uintBytes_eq_u128Le32 (by have := w.value.toNat_lt; omega) committed.symm
      have thresholdEq := uintBytes_eq_u128Le32 (by have := least.toNat_lt; omega) param
      have above : least.toNat ≤ w.value.toNat := holds
      have := threshold.isLt
      have := Nat.mod_le level (2 ^ 128)
      exact ⟨level, parsed, by omega⟩
  | ageGte threshold epochYmd =>
    cases call with
    | ageGte w owlRoot least asOfYmd =>
      obtain ⟨dob, parsed, committed⟩ := Option.map_eq_some_iff.mp bears
      have words := free.words _ _ (by simp [AttestCall.paramInputs]) (by simp [Policy.inputs]) param
      simp only [List.cons.injEq, and_true] at words
      have dobEq := uintBytes_eq_u128Le32 (by have := w.value.toNat_lt; omega) committed.symm
      have thresholdEq := uintBytes_eq_u128Le32 (by have := least.toNat_lt; omega) words.1
      have epochEq := uintBytes_eq_u128Le32 (by have := asOfYmd.toNat_lt; omega) words.2
      have small := dateToYyyymmdd_lt parsed
      have := threshold.isLt
      have := epochYmd.toNat_lt
      obtain ⟨_, old⟩ := holds
      exact ⟨dob, parsed, by omega⟩
  | ageRange minAge maxAge epochYmd =>
    cases call with
    | ageRange w owlRoot least most asOfYmd =>
      obtain ⟨dob, parsed, committed⟩ := Option.map_eq_some_iff.mp bears
      have words := free.words _ _ (by simp [AttestCall.paramInputs]) (by simp [Policy.inputs]) param
      simp only [List.cons.injEq, and_true] at words
      have dobEq := uintBytes_eq_u128Le32 (by have := w.value.toNat_lt; omega) committed.symm
      have minEq := uintBytes_eq_u16Le32 least.toNat_lt minAge.toNat_lt words.1
      have maxEq := uintBytes_eq_u16Le32 most.toNat_lt maxAge.toNat_lt words.2.1
      have epochEq := uintBytes_eq_u128Le32 (by have := asOfYmd.toNat_lt; omega) words.2.2
      have small := dateToYyyymmdd_lt parsed
      have := epochYmd.toNat_lt
      obtain ⟨_, _, old, young⟩ := holds
      exact ⟨dob, parsed, by omega, by omega⟩
  | nationalityIn clientId countries =>
    cases call with
    | nationalityIn w owlRoot setHash =>
      exact country_allowed free holds.1 holds.2.1 holds.2.2.1 param bears
  | residencyIn clientId countries =>
    cases call with
    | residencyIn w owlRoot setHash =>
      exact country_allowed free holds.1 holds.2.1 holds.2.2.1 param bears
  | emailVerified =>
    cases call with
    | emailVerified w owlRoot =>
      obtain ⟨verified, parsed, committed⟩ := Option.map_eq_some_iff.mp bears
      have flagEq := uintBytes_eq_u128Le32 (by have := w.value.toNat_lt; omega) committed.symm
      have set : 1 ≤ w.value.toNat := holds
      cases verified with
      | true => exact parsed
      | false => simp at flagEq; omega

/-- A recorded key under a credential's root was recorded for one of its claims. -/
theorem committed_of_recorded {kind : Kind} {txs : List (Transaction kind)} {ledger : Ledger}
    {entries : List ClaimEntry} {owlRoot param : Bytes32} (explained : Explained H txs ledger)
    (free : CollisionFree H
      (keyInput kind owlRoot param :: runInputs H txs ++ credentialInputs H entries))
    (root : owlRootForClaims H entries = some owlRoot)
    (recorded : keyOf H (pad32 kind.tag) owlRoot param ∈ ledger.log.attestations) :
    ∃ call : AttestCall kind, call.inputs H ⊆ runInputs H txs ∧ call.Holds H ∧
      (call.opening H).param = param ∧
      ∃ entry ∈ entries, entry.name = kind.claimName ∧
        claimValue32 entry.name entry.value = some (call.opening H).value := by
  obtain ⟨tx, member, call, called, sound, keyEq⟩ := explained _ recorded
  have hashed := mem_runInputs (H := H) member called
  have words := free.words [pad32 kind.tag, owlRoot, param]
    [pad32 kind.tag, (call.opening H).owlRoot, (call.opening H).param] (by simp [keyInput])
    (List.mem_append_left _ (List.mem_cons_of_mem _ (hashed (by simp [AttestCall.inputs, keyInput]))))
    keyEq
  simp only [List.cons.injEq, and_true, true_and] at words
  have bound := entry_of_path kind.claimName_mem
    (free.mono (by
      intro input hmem
      simp only [List.cons_append, List.mem_cons, List.mem_append] at hmem ⊢
      rcases hmem with rfl | path | credential
      · exact .inr (.inl (hashed (by simp [AttestCall.inputs])))
      · exact .inr (.inl (hashed (by simp [AttestCall.inputs, path])))
      · exact .inr (.inr credential)))
    sound.leaf (sound.root ▸ words.1 ▸ root)
  obtain ⟨entry, issued, name, bears, _⟩ := bound
  exact ⟨call, hashed, sound.holds, words.2.symm, entry, issued, name, bears⟩

/-! ## Main result -/

/-- Soundness of a predicate contract over every run from its deployment. -/
theorem predicate_contract_sound (H : Hashes) {kind : Kind} {owner : KeyOrAddress}
    {ledger₀ : Ledger} (deployed : deploy owner = .ok ledger₀) (txs : List (Transaction kind)) :
    let ledger := Runs.run (Ledger.step H) ledger₀ txs
    -- Every key opens to a commitment under its root whose value satisfies its parameter.
    (∀ key ∈ ledger.log.attestations, ∃ owlRoot param value salt path,
      key = keyOf H (pad32 kind.tag) owlRoot param ∧
      owlRoot = frToLeBytes32 (merkleTreePathRoot H path) ∧
      path.leaf = claimCommit H kind.claimName value salt ∧
      PredicateHolds H kind param value) ∧
    -- Under a credential's root, the value is the one the issuer committed to.
    (∀ entries owlRoot param, owlRootForClaims H entries = some owlRoot →
      CollisionFree H
        (keyInput kind owlRoot param :: runInputs H txs ++ credentialInputs H entries) →
      keyOf H (pad32 kind.tag) owlRoot param ∈ ledger.log.attestations →
      ∃ entry ∈ entries, entry.name = kind.claimName ∧
        ∃ value, claimValue32 entry.name entry.value = some value ∧
          PredicateHolds H kind param value) ∧
    -- For the key a verifier derives, the issued claim meets the verifier's policy.
    (∀ entries owlRoot (policy : Policy kind), owlRootForClaims H entries = some owlRoot →
      CollisionFree H
        ((keyInput kind owlRoot (policy.param H) :: runInputs H txs ++
          credentialInputs H entries) ++ policy.inputs H) →
      policy.key H owlRoot ∈ ledger.log.attestations →
      ∃ entry ∈ entries, entry.name = kind.claimName ∧ policy.SatisfiedBy entry.value) ∧
    -- The tree lists the keys once each, and the counter counts them.
    ledger.log.attestTree.Nodup ∧
    (∀ key, key ∈ ledger.log.attestTree ↔ key ∈ ledger.log.attestations) ∧
    ledger.log.attestCount = ledger.log.attestations.card ∧
    -- A circuit that fails changes nothing.
    (∀ (tx : Transaction kind) message,
      tx.execute H ledger = .error message → ledger.step H tx = ledger) := by
  intro ledger
  have explained : Explained H txs ledger := run_explained deployed txs
  have coherent : ledger.log.Coherent := run_coherent deployed txs
  refine ⟨?_, ?_, ?_, coherent.nodup, coherent.mem_tree, coherent.count, ?_⟩
  · intro key member
    obtain ⟨_, _, call, _, sound, keyEq⟩ := explained key member
    exact ⟨_, _, _, _, _, keyEq, sound.root, sound.leaf, call.predicateHolds sound.holds⟩
  · intro entries owlRoot param root free recorded
    obtain ⟨call, _, holds, rfl, entry, issued, name, bears⟩ :=
      committed_of_recorded explained free root recorded
    exact ⟨entry, issued, name, _, bears, call.predicateHolds holds⟩
  · intro entries owlRoot policy root free recorded
    rw [policy.key_eq_keyOf] at recorded
    obtain ⟨call, hashed, holds, param, entry, issued, name, bears⟩ :=
      committed_of_recorded explained (free.mono (List.subset_append_left _ _)) root recorded
    refine ⟨entry, issued, name, Policy.satisfied ?_ holds param (name ▸ bears)⟩
    have paramHashed : call.paramInputs H ⊆ call.inputs H :=
      List.subset_cons_of_subset _ (List.subset_cons_of_subset _ (List.subset_append_right _ _))
    refine free.mono (append_subset_append ?_ (List.Subset.refl _))
    exact List.subset_append_of_subset_left _
      (List.subset_cons_of_subset _ (List.Subset.trans paramHashed hashed))
  · intro tx message failed
    simp [Ledger.step, failed]

/-! ### A run of the kyc contract -/

def sampleEntries : List ClaimEntry := [⟨"verification_level", "salt one", .string "high"⟩]

def sampleLeaf : Bytes32 :=
  claimCommit sampleHashes "verification_level" (uintBytes 3) (salt32For sampleHashes "salt one")

def sampleRoot : Bytes32 :=
  frToLeBytes32 (merkleTreePathRoot sampleHashes (lonePath sampleHashes sampleLeaf))

def sampleLedger : Ledger := ⟨⟨.inl (pad32 "owner"), true, false⟩, .empty⟩

def sampleTransaction : Transaction .kyc where
  caller := pad32 "holder"
  call := .attest (.kycGte
    ⟨3, salt32For sampleHashes "salt one", lonePath sampleHashes sampleLeaf⟩ sampleRoot 2)

theorem sample_bears : claimValue32 "verification_level" (.string "high") = some (uintBytes 3) := by
  decide

theorem sampleRoot_issued : owlRootForClaims sampleHashes sampleEntries = some sampleRoot :=
  owlRootForClaims_singleton sample_bears

theorem sample_collisionFree :
    CollisionFree sampleHashes
      ((keyInput .kyc sampleRoot ((Policy.kycGte 2).param sampleHashes) ::
        runInputs sampleHashes [sampleTransaction] ++
        credentialInputs sampleHashes sampleEntries) ++ (Policy.kycGte 2).inputs sampleHashes) := by
  have free : CollisionFree sampleHashes
      ((keyInput .kyc sampleRoot ((Policy.kycGte 2).param sampleHashes) ::
        runInputs sampleHashes [sampleTransaction] ++
        (commitInput "verification_level" (uintBytes 3) (salt32For sampleHashes "salt one") ::
          sparseInputs sampleHashes [sampleLeaf])) ++ (Policy.kycGte 2).inputs sampleHashes) :=
    sampleHashes_collisionFree (by decide +kernel)
  exact free.mono (append_subset_append
    (append_subset_append (List.Subset.refl _) (credentialInputs_singleton sample_bears))
    (List.Subset.refl _))

def sampleAfter : Ledger := Runs.run (Ledger.step sampleHashes) sampleLedger [sampleTransaction]

theorem sample_deployed : deploy (.inl (pad32 "owner")) = .ok sampleLedger := by
  simp only [deploy, bind_eq_ok, pure_eq_ok]
  exact ⟨⟨.inl (pad32 "owner"), true, false⟩, by decide, rfl⟩

theorem sample_recorded :
    (Policy.kycGte 2).key sampleHashes sampleRoot ∈ sampleAfter.log.attestations := by
  have accepted : (sampleTransaction.execute sampleHashes sampleLedger).isOk = true := by
    decide +kernel
  have recorded := recorded_of_accepted rfl accepted
  have after : sampleAfter = sampleLedger.step sampleHashes sampleTransaction := rfl
  have param : (Policy.kycGte 2).param sampleHashes = uintBytes (2 : UInt8).toNat := by
    decide
  rw [Policy.key_eq_keyOf, param, after]
  exact recorded

theorem predicate_contract_sound_at_sample :
    (Policy.kycGte 2).key sampleHashes sampleRoot ∈ sampleAfter.log.attestations ∧
      ∃ entry ∈ sampleEntries, entry.name = "verification_level" ∧
        (Policy.kycGte 2).SatisfiedBy entry.value := by
  have sound := predicate_contract_sound sampleHashes sample_deployed [sampleTransaction]
  exact ⟨sample_recorded, sound.2.2.1 sampleEntries sampleRoot (.kycGte 2) sampleRoot_issued
    sample_collisionFree sample_recorded⟩

end OwlId.Contracts
