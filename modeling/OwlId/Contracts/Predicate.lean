import Mathlib
import OwlId.Contracts.Access
import OwlId.ProofSystem.Attestation

/-! # Predicate contracts

The contracts that record which predicates a credential has been shown to satisfy.
Each keeps a set of attestation keys and exposes one attest circuit; the six
contracts below differ in the claim they read, the predicate they check and the
public parameter they fold into the key.  Witnesses are whatever the caller's
machine supplies: nothing about them is assumed.
-/

namespace OwlId.Contracts

open OwlId.Lib
open OwlId.ProofSystem

/-! ## Recorded attestations -/

structure Attestations where
  attestations : Finset Bytes32
  attestTree : List Bytes32
  attestCount : Nat

namespace Attestations

def empty : Attestations := ⟨∅, [], 0⟩

/-- Capacity of `HistoricMerkleTree<32, _>`; inserting into a full tree fails. -/
def treeCapacity : Nat := 2 ^ 32

def record (log : Attestations) (key : Bytes32) : Circuit Attestations :=
  if key ∈ log.attestations then
    return log
  else do
    assert (log.attestTree.length < treeCapacity) "attestTree is full"
    return ⟨insert key log.attestations, log.attestTree ++ [key], log.attestCount + 1⟩

/-- The tree lists the recorded keys once each and the counter counts them. -/
structure Coherent (log : Attestations) : Prop where
  nodup : log.attestTree.Nodup
  mem_tree : ∀ key, key ∈ log.attestTree ↔ key ∈ log.attestations
  count : log.attestCount = log.attestations.card

theorem empty_coherent : empty.Coherent :=
  ⟨List.nodup_nil, by simp [empty], by simp [empty]⟩

theorem record_cases {log log' : Attestations} {key : Bytes32} (returns : log.record key = .ok log') :
    (key ∈ log.attestations ∧ log' = log) ∨
    (key ∉ log.attestations ∧
      log' = ⟨insert key log.attestations, log.attestTree ++ [key], log.attestCount + 1⟩) := by
  unfold record at returns
  split at returns
  case isTrue member =>
    simp only [pure_eq_ok] at returns
    exact .inl ⟨member, returns.symm⟩
  case isFalse fresh =>
    simp only [bind_eq_ok, pure_eq_ok] at returns
    obtain ⟨_, _, rfl⟩ := returns
    exact .inr ⟨fresh, rfl⟩

theorem record_attestations {log log' : Attestations} {key : Bytes32}
    (returns : log.record key = .ok log') :
    log'.attestations = insert key log.attestations := by
  obtain ⟨member, rfl⟩ | ⟨_, rfl⟩ := record_cases returns
  · rw [Finset.insert_eq_of_mem member]
  · rfl

theorem record_coherent {log log' : Attestations} {key : Bytes32}
    (returns : log.record key = .ok log') (coherent : log.Coherent) : log'.Coherent := by
  obtain ⟨_, rfl⟩ | ⟨fresh, rfl⟩ := record_cases returns
  · exact coherent
  · refine ⟨?_, ?_, ?_⟩
    · have absent : key ∉ log.attestTree := fun member => fresh ((coherent.mem_tree key).mp member)
      exact List.nodup_append.mpr
        ⟨coherent.nodup, by simp, by rintro a ha b hb rfl; simp_all⟩
    · intro other
      simp [coherent.mem_tree, or_comm]
    · simp [coherent.count, Finset.card_insert_of_notMem fresh]

end Attestations

/-! ## Merkle paths -/

/-- `MerkleTreePath<8, Bytes<32>>`. -/
structure MerkleTreePath where
  leaf : Bytes32
  path : Vector (Merkle.PathEntry Fr) merkleDepth
deriving DecidableEq

section Circuits

variable (H : Hashes)

/-- The standard library's `merkleTreePathRoot`: one leaf hash, one node hash a level. -/
def merkleTreePathRoot (path : MerkleTreePath) : Fr :=
  Merkle.pathRoot (merkleNode H) (countryLeafFr H path.leaf) path.path.toList

/-- `as Field as Bytes<32>` on an unsigned integer. -/
def uintBytes (n : Nat) : Bytes32 := leBytes32 n

def keyOf (tag dRootHash dParam : Bytes32) : Bytes32 := persistentHash H [tag, dRootHash, dParam]

/-- Unsigned subtraction fails rather than wrap. -/
def uintSub (a b : Nat) : Circuit Nat :=
  if b ≤ a then return a - b else .error "result of subtraction would be negative"

/-- The binding every attest circuit performs: the claim's commitment is a leaf under
    the issuer-signed root. -/
def bindClaim (name message : String) (owlRoot value salt : Bytes32) (path : MerkleTreePath) :
    Circuit Unit := do
  assert (path.leaf = persistentHash H [pad32 name, value, salt]) message
  assert (owlRoot = frToLeBytes32 (merkleTreePathRoot H path)) "owl_root mismatch"

/-! ## Attest circuits -/

structure ClaimWitness (V : Type) where
  value : V
  claimSalt : Bytes32
  claimPath : MerkleTreePath

structure CountryWitness where
  country : Bytes32
  verifierIdHash : Bytes32
  allowedCountryPath : MerkleTreePath
  claimSalt : Bytes32
  claimPath : MerkleTreePath

structure Ledger where
  access : Access
  log : Attestations

def Ledger.record (ledger : Ledger) (key : Bytes32) : Circuit Ledger := do
  let log ← ledger.log.record key
  return { ledger with log }

def attestKycGte (ledger : Ledger) (w : ClaimWitness UInt8) (owlRoot : Bytes32)
    (threshold : UInt8) : Circuit Ledger := do
  ledger.access.assertNotPaused
  assert (owlRoot ≠ zero32) "zero owlRoot"
  bindClaim H "verification_level" "claim commitment != kycLevel witness" owlRoot
    (uintBytes w.value.toNat) w.claimSalt w.claimPath
  assert (threshold ≤ w.value) "kyc below threshold"
  ledger.record (keyOf H (pad32 "owlid:attest:kyc:") owlRoot (uintBytes threshold.toNat))

def ageParam (threshold : UInt16) (asOfYmd : UInt32) : Bytes32 :=
  persistentHash H [uintBytes threshold.toNat, uintBytes asOfYmd.toNat]

def attestAgeGte (ledger : Ledger) (w : ClaimWitness UInt32) (owlRoot : Bytes32)
    (threshold : UInt16) (asOfYmd : UInt32) : Circuit Ledger := do
  ledger.access.assertNotPaused
  assert (owlRoot ≠ zero32) "zero owlRoot"
  assert (threshold ≤ 150) "threshold out of range"
  bindClaim H "birthdate" "claim commitment != birthdate witness" owlRoot
    (uintBytes w.value.toNat) w.claimSalt w.claimPath
  let cutoff ← uintSub asOfYmd.toNat (threshold.toNat * 10000)
  assert (w.value.toNat ≤ cutoff) "age below threshold"
  ledger.record (keyOf H (pad32 "owlid:attest:age:") owlRoot (ageParam H threshold asOfYmd))

def ageRangeParam (minAge maxAge : UInt16) (asOfYmd : UInt32) : Bytes32 :=
  persistentHash H [uintBytes minAge.toNat, uintBytes maxAge.toNat, uintBytes asOfYmd.toNat]

def attestAgeRange (ledger : Ledger) (w : ClaimWitness UInt32) (owlRoot : Bytes32)
    (minAge maxAge : UInt16) (asOfYmd : UInt32) : Circuit Ledger := do
  ledger.access.assertNotPaused
  assert (owlRoot ≠ zero32) "zero owlRoot"
  assert (minAge ≤ maxAge) "min must be <= max"
  assert (maxAge ≤ 150) "maxAge out of range"
  bindClaim H "birthdate" "claim commitment != birthdate witness" owlRoot
    (uintBytes w.value.toNat) w.claimSalt w.claimPath
  let cutoffMin ← uintSub asOfYmd.toNat (minAge.toNat * 10000)
  let cutoffMax ← uintSub asOfYmd.toNat (maxAge.toNat * 10000)
  assert (w.value.toNat ≤ cutoffMin) "age below minimum"
  assert (cutoffMax ≤ w.value.toNat) "age above maximum"
  ledger.record
    (keyOf H (pad32 "owlid:attest:agerng:") owlRoot (ageRangeParam H minAge maxAge asOfYmd))

/-- The body the two country contracts share, over the texts they do not. -/
def attestCountryIn (claimName tag noCountry leafMismatch commitMismatch : String)
    (ledger : Ledger) (w : CountryWitness) (owlRoot setHash : Bytes32) : Circuit Ledger := do
  ledger.access.assertNotPaused
  assert (owlRoot ≠ zero32) "zero owlRoot"
  assert (setHash ≠ zero32) "zero setHash"
  assert (w.country ≠ zero32) noCountry
  assert (w.verifierIdHash ≠ zero32) "missing verifierIdHash"
  assert (w.allowedCountryPath.leaf = w.country) leafMismatch
  bindClaim H claimName commitMismatch owlRoot w.country w.claimSalt w.claimPath
  let rootDigest := merkleTreePathRoot H w.allowedCountryPath
  let computed := persistentHash H [w.verifierIdHash, frToLeBytes32 rootDigest]
  assert (setHash = computed) "setHash mismatch"
  ledger.record (keyOf H (pad32 tag) owlRoot setHash)

def attestNationalityIn : Ledger → CountryWitness → Bytes32 → Bytes32 → Circuit Ledger :=
  attestCountryIn H "nationality" "owlid:attest:nat:" "no nationality in credential"
    "merkle path leaf != nationality" "claim commitment != nationality witness"

def attestResidencyIn : Ledger → CountryWitness → Bytes32 → Bytes32 → Circuit Ledger :=
  attestCountryIn H "residentCountry" "owlid:attest:resin:" "no residence country in credential"
    "merkle path leaf != residence country" "claim commitment != residentCountry witness"

def attestEmailVerified (ledger : Ledger) (w : ClaimWitness UInt8) (owlRoot : Bytes32) :
    Circuit Ledger := do
  ledger.access.assertNotPaused
  assert (owlRoot ≠ zero32) "zero owlRoot"
  bindClaim H "email_verified" "claim commitment != emailVerified witness" owlRoot
    (uintBytes w.value.toNat) w.claimSalt w.claimPath
  assert (1 ≤ w.value) "email not verified by provider"
  ledger.record (keyOf H (pad32 "owlid:attest:email:") owlRoot (pad32 ""))

/-! ## Transactions -/

inductive Kind where
  | kyc | age | ageRange | nationality | residency | email
deriving DecidableEq

/-- A call of a contract's attest circuit: public arguments and supplied witnesses. -/
inductive AttestCall : Kind → Type where
  | kycGte (w : ClaimWitness UInt8) (owlRoot : Bytes32) (threshold : UInt8) : AttestCall .kyc
  | ageGte (w : ClaimWitness UInt32) (owlRoot : Bytes32) (threshold : UInt16)
      (asOfYmd : UInt32) : AttestCall .age
  | ageRange (w : ClaimWitness UInt32) (owlRoot : Bytes32) (minAge maxAge : UInt16)
      (asOfYmd : UInt32) : AttestCall .ageRange
  | nationalityIn (w : CountryWitness) (owlRoot setHash : Bytes32) : AttestCall .nationality
  | residencyIn (w : CountryWitness) (owlRoot setHash : Bytes32) : AttestCall .residency
  | emailVerified (w : ClaimWitness UInt8) (owlRoot : Bytes32) : AttestCall .email

def AttestCall.execute (ledger : Ledger) {kind : Kind} : AttestCall kind → Circuit Ledger
  | .kycGte w owlRoot threshold => attestKycGte H ledger w owlRoot threshold
  | .ageGte w owlRoot threshold asOfYmd => attestAgeGte H ledger w owlRoot threshold asOfYmd
  | .ageRange w owlRoot minAge maxAge asOfYmd =>
    attestAgeRange H ledger w owlRoot minAge maxAge asOfYmd
  | .nationalityIn w owlRoot setHash => attestNationalityIn H ledger w owlRoot setHash
  | .residencyIn w owlRoot setHash => attestResidencyIn H ledger w owlRoot setHash
  | .emailVerified w owlRoot => attestEmailVerified H ledger w owlRoot

inductive Call (kind : Kind) where
  | attest (call : AttestCall kind)
  | admin (call : AdminCall)

structure Transaction (kind : Kind) where
  caller : ZswapCoinPublicKey
  call : Call kind

def Transaction.execute (ledger : Ledger) {kind : Kind} (tx : Transaction kind) :
    Circuit Ledger :=
  match tx.call with
  | .attest call => call.execute H ledger
  | .admin call => do
    let access ← call.execute ledger.access tx.caller
    return { ledger with access }

/-- The ledger after a transaction; one whose circuit fails is not applied. -/
def Ledger.step {kind : Kind} (ledger : Ledger) (tx : Transaction kind) : Ledger :=
  match tx.execute H ledger with
  | .ok ledger' => ledger'
  | .error _ => ledger

/-- The constructor. -/
def deploy (initialOwner : KeyOrAddress) : Circuit Ledger := do
  let access ← Access.uninitialized.ownableInitialize initialOwner
  return ⟨access, .empty⟩

end Circuits

end OwlId.Contracts
