import Mathlib
import OwlId.Lib.Runs
import OwlId.Contracts.LedgerMap
import OwlId.ProofSystem.Attestation

/-! # Identity registry

The contract that anchors a commitment for each DID.  Four maps keyed by the DID are
written by four circuits: a registration that any caller may make, an update guarded
by the owner's secret, and two circuits of the contract owner.

`Changed` says everything a successful call can do, guards included; the joint domain
of the maps, the law of who may change what, and the bookkeeping of the counter are
read off it.
-/

namespace OwlId.Contracts

open OwlId.Lib OwlId.ProofSystem

/-! ## The ledger -/

inductive CommitmentStatus where
  | inactive | active | expired
deriving DecidableEq

structure Identities where
  access : Access
  commitments : LedgerMap Bytes32
  commitmentStatuses : LedgerMap CommitmentStatus
  commitmentIssuers : LedgerMap Bytes32
  didOwners : LedgerMap Bytes32
  registeredCommitments : Finset Bytes32
  identityCount : Nat

/-- `deriveOwnerHash`. -/
def deriveOwnerHash (H : Hashes) (sk : Bytes32) : Bytes32 :=
  persistentHash H [pad32 "owlid:did:owner:", sk]

namespace Identities

/-! ## Circuits -/

/-- The insertion that is guarded by a membership test. -/
def addCommitment (registered : Finset Bytes32) (commitment : Bytes32) : Finset Bytes32 :=
  if commitment ∈ registered then registered else insert commitment registered

section

variable (H : Hashes)

/-- `ownerSecretKey` is what the caller's machine supplies. -/
def registerIdentity (registry : Identities) (ownerSecretKey didHash commitment issuerKeyHash : Bytes32) :
    Circuit Identities := do
  registry.access.assertNotPaused
  assert (didHash ≠ zero32) "Invalid zero DID hash"
  assert (commitment ≠ zero32) "Invalid zero commitment"
  assert (issuerKeyHash ≠ zero32) "Invalid zero issuer hash"
  if registry.commitmentStatuses.member didHash then
    let current ← registry.commitmentStatuses.lookup didHash
    assert (current ≠ .active) "DID already has active commitment"
  return { registry with
    commitments := registry.commitments.insert didHash commitment
    commitmentStatuses := registry.commitmentStatuses.insert didHash .active
    commitmentIssuers := registry.commitmentIssuers.insert didHash issuerKeyHash
    didOwners := registry.didOwners.insert didHash (deriveOwnerHash H ownerSecretKey)
    registeredCommitments := addCommitment registry.registeredCommitments commitment
    identityCount := registry.identityCount + 1 }

def updateCommitment (registry : Identities)
    (ownerSecretKey didHash newCommitment issuerKeyHash : Bytes32) : Circuit Identities := do
  registry.access.assertNotPaused
  assert (newCommitment ≠ zero32) "Invalid zero commitment"
  assert (registry.commitments.member didHash = true) "DID not found"
  let current ← registry.commitmentStatuses.lookup didHash
  assert (current = .active) "Commitment not active"
  let owner ← registry.didOwners.lookup didHash
  assert (owner = deriveOwnerHash H ownerSecretKey) "Not the DID owner"
  return { registry with
    commitments := registry.commitments.insert didHash newCommitment
    commitmentIssuers := registry.commitmentIssuers.insert didHash issuerKeyHash
    registeredCommitments := addCommitment registry.registeredCommitments newCommitment }

end

/-- Neither the new commitment nor the status is checked. -/
def adminUpdateCommitment (registry : Identities) (caller : ZswapCoinPublicKey)
    (didHash newCommitment issuerKeyHash : Bytes32) : Circuit Identities := do
  registry.access.assertOnlyOwner caller
  assert (registry.commitments.member didHash = true) "DID not found"
  return { registry with
    commitments := registry.commitments.insert didHash newCommitment
    commitmentStatuses := registry.commitmentStatuses.insert didHash .active
    commitmentIssuers := registry.commitmentIssuers.insert didHash issuerKeyHash
    registeredCommitments := addCommitment registry.registeredCommitments newCommitment }

def expireCommitment (registry : Identities) (caller : ZswapCoinPublicKey) (didHash : Bytes32) :
    Circuit Identities := do
  registry.access.assertOnlyOwner caller
  assert (registry.commitments.member didHash = true) "DID not found"
  let current ← registry.commitmentStatuses.lookup didHash
  assert (current = .active) "Commitment not active"
  return { registry with
    commitmentStatuses := registry.commitmentStatuses.insert didHash .expired }

def isCommitmentRegistered (registry : Identities) (commitment : Bytes32) : Bool :=
  commitment ∈ registry.registeredCommitments

/-! ## Transactions -/

inductive IdentityCall where
  | registerIdentity (didHash commitment issuerKeyHash : Bytes32)
  | updateCommitment (didHash newCommitment issuerKeyHash : Bytes32)
  | adminUpdateCommitment (didHash newCommitment issuerKeyHash : Bytes32)
  | expireCommitment (didHash : Bytes32)
  | admin (call : AdminCall)

/-- A call with its caller and the secret the caller's machine supplies. -/
structure IdentityTransaction where
  caller : ZswapCoinPublicKey
  ownerSecretKey : Bytes32
  call : IdentityCall

section

variable (H : Hashes)

def execute (registry : Identities) (tx : IdentityTransaction) : Circuit Identities :=
  match tx.call with
  | .registerIdentity didHash commitment issuerKeyHash =>
    registry.registerIdentity H tx.ownerSecretKey didHash commitment issuerKeyHash
  | .updateCommitment didHash newCommitment issuerKeyHash =>
    registry.updateCommitment H tx.ownerSecretKey didHash newCommitment issuerKeyHash
  | .adminUpdateCommitment didHash newCommitment issuerKeyHash =>
    registry.adminUpdateCommitment tx.caller didHash newCommitment issuerKeyHash
  | .expireCommitment didHash => registry.expireCommitment tx.caller didHash
  | .admin call => do
    let access ← call.execute registry.access tx.caller
    return { registry with access }

/-- The ledger after a transaction; one whose circuit fails is not applied. -/
def step (registry : Identities) (tx : IdentityTransaction) : Identities :=
  match registry.execute H tx with
  | .ok registry' => registry'
  | .error _ => registry

end

/-- The constructor, over the empty ledger. -/
def deploy (initialOwner : KeyOrAddress) : Circuit Identities := do
  let access ← Access.uninitialized.ownableInitialize initialOwner
  return ⟨access, .empty, .empty, .empty, .empty, ∅, 0⟩

/-! ## What a call does -/

@[simp] theorem addCommitment_eq (registered : Finset Bytes32) (commitment : Bytes32) :
    addCommitment registered commitment = insert commitment registered := by
  rw [addCommitment]
  split
  · rename_i present
    rw [Finset.insert_eq_of_mem present]
  · rfl

/-- The ledger with a new commitment of a DID. -/
def committed (registry : Identities) (didHash commitment issuerKeyHash : Bytes32) : Identities :=
  { registry with
    commitments := registry.commitments.insert didHash commitment
    commitmentIssuers := registry.commitmentIssuers.insert didHash issuerKeyHash
    registeredCommitments := insert commitment registry.registeredCommitments }

def registered (registry : Identities) (didHash commitment issuerKeyHash ownerHash : Bytes32) :
    Identities :=
  { registry.committed didHash commitment issuerKeyHash with
    commitmentStatuses := registry.commitmentStatuses.insert didHash .active
    didOwners := registry.didOwners.insert didHash ownerHash
    identityCount := registry.identityCount + 1 }

def reactivated (registry : Identities) (didHash commitment issuerKeyHash : Bytes32) : Identities :=
  { registry.committed didHash commitment issuerKeyHash with
    commitmentStatuses := registry.commitmentStatuses.insert didHash .active }

def expired (registry : Identities) (didHash : Bytes32) : Identities :=
  { registry with commitmentStatuses := registry.commitmentStatuses.insert didHash .expired }

/-- The caller is the contract's owner. -/
def OwnedBy (registry : Identities) (caller : ZswapCoinPublicKey) : Prop :=
  registry.access.owner = .inl caller

/-- Everything a successful call can do, with its guards. -/
inductive Changed (H : Hashes) (registry : Identities) (tx : IdentityTransaction) :
    IdentityCall → Identities → Prop where
  | registerIdentity {didHash commitment issuerKeyHash : Bytes32} (nonzero : commitment ≠ zero32)
      (idle : registry.commitmentStatuses.get? didHash ≠ some .active) :
      Changed H registry tx (.registerIdentity didHash commitment issuerKeyHash)
        (registry.registered didHash commitment issuerKeyHash (deriveOwnerHash H tx.ownerSecretKey))
  | updateCommitment {didHash commitment issuerKeyHash : Bytes32} (nonzero : commitment ≠ zero32)
      (known : registry.commitments.member didHash = true)
      (owned : registry.didOwners.get? didHash = some (deriveOwnerHash H tx.ownerSecretKey)) :
      Changed H registry tx (.updateCommitment didHash commitment issuerKeyHash)
        (registry.committed didHash commitment issuerKeyHash)
  | adminUpdateCommitment {didHash commitment issuerKeyHash : Bytes32}
      (known : registry.commitments.member didHash = true) (owner : registry.OwnedBy tx.caller) :
      Changed H registry tx (.adminUpdateCommitment didHash commitment issuerKeyHash)
        (registry.reactivated didHash commitment issuerKeyHash)
  | expireCommitment {didHash : Bytes32} (known : registry.commitments.member didHash = true) :
      Changed H registry tx (.expireCommitment didHash) (registry.expired didHash)
  | admin {call : AdminCall} {access : Access} :
      Changed H registry tx (.admin call) { registry with access }

theorem assertOnlyOwner_eq_ok {access : Access} {caller : ZswapCoinPublicKey} {u : Unit}
    (returns : access.assertOnlyOwner caller = .ok u) : access.owner = .inl caller := by
  simp only [Access.assertOnlyOwner, bind_eq_ok] at returns
  obtain ⟨_, _, isOwner⟩ := returns
  cases owner : access.owner with
  | inl key =>
    rw [owner] at isOwner
    rw [ensure_eq_ok.mp isOwner]
  | inr address =>
    rw [owner] at isOwner
    cases isOwner

variable {H : Hashes} {registry registry' : Identities} {tx : IdentityTransaction}

theorem registerIdentity_changed {didHash commitment issuerKeyHash : Bytes32}
    (returns : registry.registerIdentity H tx.ownerSecretKey didHash commitment issuerKeyHash =
      .ok registry') :
    Changed H registry tx (.registerIdentity didHash commitment issuerKeyHash) registry' := by
  simp only [Identities.registerIdentity, bind_eq_ok, ensure_eq_ok] at returns
  obtain ⟨_, _, _, _, _, nonzero, _, _, guarded⟩ := returns
  cases found : registry.commitmentStatuses.get? didHash with
  | none =>
    simp only [LedgerMap.member, found, Option.isSome_none, Bool.false_eq_true, if_false,
      pure_eq_ok, addCommitment_eq] at guarded
    rw [← guarded]
    exact .registerIdentity nonzero (by simp [found])
  | some current =>
    simp only [LedgerMap.member, LedgerMap.lookup, found, Option.isSome_some, if_true, bind_eq_ok,
      okOr_eq_ok, ensure_eq_ok, Option.some.injEq, pure_eq_ok, addCommitment_eq] at guarded
    obtain ⟨_, rfl, _, idle, rfl⟩ := guarded
    exact .registerIdentity nonzero (by simpa [found] using idle)

theorem updateCommitment_changed {didHash commitment issuerKeyHash : Bytes32}
    (returns : registry.updateCommitment H tx.ownerSecretKey didHash commitment issuerKeyHash =
      .ok registry') :
    Changed H registry tx (.updateCommitment didHash commitment issuerKeyHash) registry' := by
  simp only [Identities.updateCommitment, bind_eq_ok, ensure_eq_ok, pure_eq_ok, LedgerMap.lookup,
    okOr_eq_ok, addCommitment_eq] at returns
  obtain ⟨_, _, _, nonzero, _, known, _, _, _, _, _, owner, _, rfl, rfl⟩ := returns
  exact .updateCommitment nonzero known owner

theorem adminUpdateCommitment_changed {didHash commitment issuerKeyHash : Bytes32}
    (returns : registry.adminUpdateCommitment tx.caller didHash commitment issuerKeyHash =
      .ok registry') :
    Changed H registry tx (.adminUpdateCommitment didHash commitment issuerKeyHash) registry' := by
  simp only [Identities.adminUpdateCommitment, bind_eq_ok, ensure_eq_ok, pure_eq_ok,
    addCommitment_eq] at returns
  obtain ⟨_, owner, _, known, rfl⟩ := returns
  exact .adminUpdateCommitment known (assertOnlyOwner_eq_ok owner)

theorem expireCommitment_changed {didHash : Bytes32}
    (returns : registry.expireCommitment tx.caller didHash = .ok registry') :
    Changed H registry tx (.expireCommitment didHash) registry' := by
  simp only [Identities.expireCommitment, bind_eq_ok, ensure_eq_ok, pure_eq_ok] at returns
  obtain ⟨_, _, _, known, _, _, _, _, rfl⟩ := returns
  exact .expireCommitment known

theorem execute_changed (returns : registry.execute H tx = .ok registry') :
    Changed H registry tx tx.call registry' := by
  cases called : tx.call with
  | registerIdentity didHash commitment issuerKeyHash =>
    rw [execute, called] at returns
    exact registerIdentity_changed returns
  | updateCommitment didHash newCommitment issuerKeyHash =>
    rw [execute, called] at returns
    exact updateCommitment_changed returns
  | adminUpdateCommitment didHash newCommitment issuerKeyHash =>
    rw [execute, called] at returns
    exact adminUpdateCommitment_changed returns
  | expireCommitment didHash =>
    rw [execute, called] at returns
    exact expireCommitment_changed returns
  | admin call =>
    simp only [execute, called, bind_eq_ok, pure_eq_ok] at returns
    obtain ⟨access, _, rfl⟩ := returns
    exact .admin

/-- A step changes nothing or is one successful call. -/
theorem step_cases (H : Hashes) (registry : Identities) (tx : IdentityTransaction) :
    registry.step H tx = registry ∨
      (registry.execute H tx = .ok (registry.step H tx) ∧
        Changed H registry tx tx.call (registry.step H tx)) := by
  cases returns : registry.execute H tx with
  | error message => exact .inl (by rw [step, returns])
  | ok registry' =>
    have next : registry.step H tx = registry' := by rw [step, returns]
    rw [next]
    exact .inr ⟨rfl, execute_changed returns⟩

/-! ## One domain -/

/-- The maps have one domain and what they store is registered. -/
structure Coherent (registry : Identities) : Prop where
  statuses : ∀ did, registry.commitmentStatuses.member did = registry.commitments.member did
  issuers : ∀ did, registry.commitmentIssuers.member did = registry.commitments.member did
  owners : ∀ did, registry.didOwners.member did = registry.commitments.member did
  stored : ∀ did commitment, registry.commitments.get? did = some commitment →
    commitment ∈ registry.registeredCommitments

theorem committed_stored {did commitment issuer : Bytes32} (coherent : registry.Coherent)
    {other : Bytes32} {value : Bytes32}
    (found : (registry.committed did commitment issuer).commitments.get? other = some value) :
    value ∈ (registry.committed did commitment issuer).registeredCommitments := by
  simp only [committed, LedgerMap.get?_insert] at found
  split at found
  · obtain rfl := Option.some.inj found
    exact Finset.mem_insert_self _ _
  · exact Finset.mem_insert_of_mem (coherent.stored other value found)

theorem member_insert_of_member {V W : Type} {map : LedgerMap V} {domain : LedgerMap W}
    {key : Bytes32} {value : V} (same : ∀ other, map.member other = domain.member other)
    (known : domain.member key = true) (other : Bytes32) :
    (map.insert key value).member other = domain.member other := by
  rw [LedgerMap.member, LedgerMap.get?_insert]
  split
  · rename_i here
    rw [here, known, Option.isSome_some]
  · exact same other

/-- Writing an entry of a known DID leaves the domain as it is. -/
theorem committed_coherent {did commitment issuer : Bytes32} (coherent : registry.Coherent)
    (known : registry.commitments.member did = true) :
    (registry.committed did commitment issuer).Coherent := by
  have domain : ∀ other, (registry.committed did commitment issuer).commitments.member other =
      registry.commitments.member other := member_insert_of_member (fun _ => rfl) known
  refine ⟨?_, ?_, ?_, ?_⟩
  · intro other
    rw [domain]
    exact coherent.statuses other
  · intro other
    rw [domain]
    exact member_insert_of_member coherent.issuers known other
  · intro other
    rw [domain]
    exact coherent.owners other
  · intro other value found
    exact committed_stored coherent found

theorem changed_coherent {call : IdentityCall} (changed : Changed H registry tx call registry')
    (coherent : registry.Coherent) : registry'.Coherent := by
  cases changed with
  | @registerIdentity did commitment issuer _ _ =>
    -- all four maps are written at the DID
    have grows : ∀ {V W : Type} (map : LedgerMap V) (domain : LedgerMap W) (v : V) (w : W),
        (∀ other, map.member other = domain.member other) →
        ∀ other, (map.insert did v).member other = (domain.insert did w).member other := by
      intro V W map domain v w same other
      rw [LedgerMap.member, LedgerMap.member, LedgerMap.get?_insert, LedgerMap.get?_insert]
      split
      · rfl
      · exact same other
    exact ⟨grows _ _ _ _ coherent.statuses, grows _ _ _ _ coherent.issuers,
      grows _ _ _ _ coherent.owners, fun other value found =>
        @committed_stored registry did commitment issuer coherent other value found⟩
  | updateCommitment _ known _ => exact committed_coherent coherent known
  | @adminUpdateCommitment did commitment issuer known _ =>
    have kept := @committed_coherent registry did commitment issuer coherent known
    refine ⟨?_, kept.issuers, kept.owners, kept.stored⟩
    exact member_insert_of_member kept.statuses (by simp [reactivated, committed, LedgerMap.member])
  | @expireCommitment did known =>
    exact ⟨member_insert_of_member coherent.statuses known, coherent.issuers, coherent.owners,
      coherent.stored⟩
  | admin => exact ⟨coherent.statuses, coherent.issuers, coherent.owners, coherent.stored⟩

theorem step_coherent (tx : IdentityTransaction) (coherent : registry.Coherent) :
    (registry.step H tx).Coherent := by
  cases step_cases H registry tx with
  | inl unchanged => rwa [unchanged]
  | inr changes => exact changed_coherent changes.2 coherent

theorem deploy_coherent {initialOwner : KeyOrAddress} (deployed : deploy initialOwner = .ok registry) :
    registry.Coherent := by
  simp only [deploy, bind_eq_ok, pure_eq_ok] at deployed
  obtain ⟨access, _, rfl⟩ := deployed
  exact ⟨fun _ => rfl, fun _ => rfl, fun _ => rfl, by simp⟩

theorem run_coherent {initialOwner : KeyOrAddress} (deployed : deploy initialOwner = .ok registry)
    (txs : List IdentityTransaction) : (Runs.run (step H) registry txs).Coherent :=
  Runs.run_invariant Coherent (deploy_coherent deployed) (fun _ tx => step_coherent tx) txs

/-! ## Who may change what -/

theorem step_grows (tx : IdentityTransaction) :
    registry.registeredCommitments ⊆ (registry.step H tx).registeredCommitments := by
  cases step_cases H registry tx with
  | inl unchanged => rw [unchanged]
  | inr applied =>
    have changed := applied.2
    generalize registry.step H tx = next at changed
    generalize tx.call = call at changed
    cases changed with
    | registerIdentity => exact Finset.subset_insert _ _
    | updateCommitment => exact Finset.subset_insert _ _
    | adminUpdateCommitment => exact Finset.subset_insert _ _
    | expireCommitment => exact Finset.Subset.refl _
    | admin => exact Finset.Subset.refl _

theorem run_grows (registry : Identities) (txs : List IdentityTransaction) :
    registry.registeredCommitments ⊆ (Runs.run (step H) registry txs).registeredCommitments :=
  Runs.run_invariant
    (fun state : Identities => registry.registeredCommitments ⊆ state.registeredCommitments)
    (Finset.Subset.refl _) (fun _ tx before => before.trans (step_grows tx)) txs

theorem owner_changed {did : Bytes32}
    (changes : (registry.step H tx).didOwners.get? did ≠ registry.didOwners.get? did) :
    ∃ commitment issuerKeyHash, tx.call = .registerIdentity did commitment issuerKeyHash ∧
      registry.execute H tx = .ok (registry.step H tx) ∧
      registry.commitmentStatuses.get? did ≠ some .active := by
  cases step_cases H registry tx with
  | inl unchanged =>
    rw [unchanged] at changes
    exact absurd rfl changes
  | inr applied =>
    obtain ⟨executed, changed⟩ := applied
    generalize registry.step H tx = next at changes executed changed
    generalize tx.call = call at changed
    cases changed with
    | @registerIdentity other commitment issuer _ idle =>
      by_cases same : did = other
      · subst same
        exact ⟨commitment, issuer, rfl, executed, idle⟩
      · exact absurd (by simp [registered, same]) changes
    | updateCommitment => exact absurd rfl changes
    | adminUpdateCommitment => exact absurd rfl changes
    | expireCommitment => exact absurd rfl changes
    | admin => exact absurd rfl changes

theorem active_commitment_changed {did : Bytes32}
    (active : registry.commitmentStatuses.get? did = some .active)
    (changes : (registry.step H tx).commitments.get? did ≠ registry.commitments.get? did) :
    (∃ newCommitment issuerKeyHash, tx.call = .updateCommitment did newCommitment issuerKeyHash ∧
      registry.didOwners.get? did = some (deriveOwnerHash H tx.ownerSecretKey)) ∨
    (∃ newCommitment issuerKeyHash,
      tx.call = .adminUpdateCommitment did newCommitment issuerKeyHash ∧
      registry.OwnedBy tx.caller) := by
  cases step_cases H registry tx with
  | inl unchanged =>
    rw [unchanged] at changes
    exact absurd rfl changes
  | inr applied =>
    have changed := applied.2
    generalize registry.step H tx = next at changes changed
    generalize tx.call = call at changed
    cases changed with
    | @registerIdentity other commitment issuer _ idle =>
      by_cases same : did = other
      · exact absurd (same ▸ active) idle
      · exact absurd (by simp [registered, committed, same]) changes
    | @updateCommitment other commitment issuer _ _ owned =>
      by_cases same : did = other
      · subst same
        exact .inl ⟨commitment, issuer, rfl, owned⟩
      · exact absurd (by simp [committed, same]) changes
    | @adminUpdateCommitment other commitment issuer _ owner =>
      by_cases same : did = other
      · subst same
        exact .inr ⟨commitment, issuer, rfl, owner⟩
      · exact absurd (by simp [reactivated, committed, same]) changes
    | expireCommitment => exact absurd rfl changes
    | admin => exact absurd rfl changes

theorem identity_registry_lawful (H : Hashes) (initialOwner : KeyOrAddress)
    (registry₀ : Identities) (deployed : deploy initialOwner = .ok registry₀)
    (txs : List IdentityTransaction) :
    let registry := Runs.run (step H) registry₀ txs
    -- one domain
    (∀ did, registry.commitmentStatuses.member did = registry.commitments.member did ∧
      registry.commitmentIssuers.member did = registry.commitments.member did ∧
      registry.didOwners.member did = registry.commitments.member did) ∧
    -- what is stored is registered, and stays so
    (∀ did commitment, registry.commitments.get? did = some commitment →
      commitment ∈ registry.registeredCommitments) ∧
    (∀ later, registry.registeredCommitments ⊆
      (Runs.run (step H) registry later).registeredCommitments) ∧
    ∀ tx,
      -- an owner is replaced only by a registration of a DID that is not active
      (∀ did, (registry.step H tx).didOwners.get? did ≠ registry.didOwners.get? did →
        ∃ commitment issuerKeyHash, tx.call = .registerIdentity did commitment issuerKeyHash ∧
          registry.execute H tx = .ok (registry.step H tx) ∧
          registry.commitmentStatuses.get? did ≠ some .active) ∧
      -- an active commitment is replaced only by its owner or by the contract's
      (∀ did, registry.commitmentStatuses.get? did = some .active →
        (registry.step H tx).commitments.get? did ≠ registry.commitments.get? did →
        (∃ newCommitment issuerKeyHash,
          tx.call = .updateCommitment did newCommitment issuerKeyHash ∧
          registry.didOwners.get? did = some (deriveOwnerHash H tx.ownerSecretKey)) ∨
        (∃ newCommitment issuerKeyHash,
          tx.call = .adminUpdateCommitment did newCommitment issuerKeyHash ∧
          registry.access.owner = .inl tx.caller)) ∧
      (∀ message, registry.execute H tx = .error message → registry.step H tx = registry) := by
  intro registry
  have coherent : registry.Coherent := run_coherent deployed txs
  refine ⟨?_, coherent.stored, run_grows registry, ?_⟩
  · intro did
    exact ⟨coherent.statuses did, coherent.issuers did, coherent.owners did⟩
  · intro tx
    refine ⟨fun did => owner_changed, fun did => active_commitment_changed, ?_⟩
    intro message fails
    rw [step, fails]

/-- A DID registered, updated by a stranger and by its owner, then expired. -/
def sampleRun : List IdentityTransaction :=
  let owner := padBytes [1]
  let holder := padBytes [2]
  let did := padBytes [7]
  let issuer := padBytes [9]
  [⟨holder, padBytes [42], .registerIdentity did (padBytes [11]) issuer⟩,
    ⟨owner, padBytes [43], .updateCommitment did (padBytes [12]) issuer⟩,
    ⟨holder, padBytes [42], .updateCommitment did (padBytes [13]) issuer⟩,
    ⟨owner, zero32, .expireCommitment did⟩]

/-- The ledger the first transaction meets. -/
def sampleIdentities : Identities :=
  ⟨⟨.inl (padBytes [1]), true, false⟩, .empty, .empty, .empty, .empty, ∅, 0⟩

theorem identity_registry_lawful_at_sample :
    deploy (.inl (padBytes [1])) = .ok sampleIdentities ∧
    (Runs.run (step sampleHashes) sampleIdentities sampleRun).commitments.get? (padBytes [7]) =
      some (padBytes [13]) ∧
    padBytes [13] ∈
      (Runs.run (step sampleHashes) sampleIdentities sampleRun).registeredCommitments := by
  have deployed : deploy (.inl (padBytes [1])) = .ok sampleIdentities := rfl
  have stored : (Runs.run (step sampleHashes) sampleIdentities sampleRun).commitments.get?
      (padBytes [7]) = some (padBytes [13]) := by decide +kernel
  obtain ⟨_, isRegistered, _⟩ :=
    identity_registry_lawful sampleHashes (.inl (padBytes [1])) sampleIdentities deployed sampleRun
  exact ⟨deployed, stored, isRegistered _ _ stored⟩

/-! ## Bookkeeping -/

/-- Zero is no commitment and the counter counts the DIDs. -/
structure Bookkept (registry : Identities) : Prop where
  unstored : ∀ did, registry.commitments.get? did ≠ some zero32
  unregistered : registry.isCommitmentRegistered zero32 = false
  count : registry.identityCount = registry.commitments.size

/-- The two calls that upset the books: an administrator's zero and a second registration. -/
def Clean (registry : Identities) : IdentityCall → Prop
  | .registerIdentity didHash _ _ => registry.commitments.member didHash = false
  | .adminUpdateCommitment _ newCommitment _ => newCommitment ≠ zero32
  | _ => True

theorem committed_bookkept_iff {did commitment issuer : Bytes32} {count : Nat}
    (before : registry.Bookkept) :
    Bookkept { registry.committed did commitment issuer with identityCount := count } ↔
      commitment ≠ zero32 ∧ count = (registry.commitments.insert did commitment).size := by
  constructor
  · intro after
    refine ⟨?_, after.count⟩
    intro zero
    have unregistered := after.unregistered
    simp [isCommitmentRegistered, committed, zero] at unregistered
  · intro ⟨nonzero, counted⟩
    refine ⟨?_, ?_, counted⟩
    · intro other
      simp only [committed, LedgerMap.get?_insert]
      split
      · simpa using nonzero
      · exact before.unstored other
    · have unregistered := before.unregistered
      simp only [isCommitmentRegistered, decide_eq_false_iff_not] at unregistered ⊢
      simp [committed, unregistered, nonzero.symm]

/-- A successful call keeps the books exactly when it is none of the two. -/
theorem changed_bookkept_iff {call : IdentityCall} (changed : Changed H registry tx call registry')
    (before : registry.Bookkept) : registry'.Bookkept ↔ registry.Clean call := by
  cases changed with
  | @registerIdentity did commitment issuer nonzero _ =>
    have books := @committed_bookkept_iff registry did commitment issuer
      (registry.identityCount + 1) before
    rw [LedgerMap.size_insert, before.count] at books
    have same : (registry.registered did commitment issuer
        (deriveOwnerHash H tx.ownerSecretKey)).Bookkept ↔
        Bookkept { registry.committed did commitment issuer with
          identityCount := registry.identityCount + 1 } :=
      ⟨fun kept => ⟨kept.unstored, kept.unregistered, kept.count⟩,
        fun kept => ⟨kept.unstored, kept.unregistered, kept.count⟩⟩
    rw [same, before.count, books, Clean]
    cases registry.commitments.member did with
    | true => simp
    | false => simp [nonzero]
  | @updateCommitment did commitment issuer nonzero known _ =>
    have books := @committed_bookkept_iff registry did commitment issuer registry.identityCount before
    rw [LedgerMap.size_insert, if_pos known] at books
    exact iff_of_true (books.mpr ⟨nonzero, before.count⟩) trivial
  | @adminUpdateCommitment did commitment issuer known _ =>
    have books := @committed_bookkept_iff registry did commitment issuer registry.identityCount before
    rw [LedgerMap.size_insert, if_pos known] at books
    have same : (registry.reactivated did commitment issuer).Bookkept ↔
        Bookkept { registry.committed did commitment issuer with
          identityCount := registry.identityCount } :=
      ⟨fun kept => ⟨kept.unstored, kept.unregistered, kept.count⟩,
        fun kept => ⟨kept.unstored, kept.unregistered, kept.count⟩⟩
    rw [same, books, Clean]
    exact ⟨And.left, fun nonzero => ⟨nonzero, before.count⟩⟩
  | expireCommitment known =>
    exact iff_of_true ⟨before.unstored, before.unregistered, before.count⟩ trivial
  | admin => exact iff_of_true ⟨before.unstored, before.unregistered, before.count⟩ trivial

theorem step_bookkept (tx : IdentityTransaction) (before : registry.Bookkept)
    (clean : (∃ next, registry.execute H tx = .ok next) → registry.Clean tx.call) :
    (registry.step H tx).Bookkept := by
  cases step_cases H registry tx with
  | inl unchanged => rwa [unchanged]
  | inr applied => exact (changed_bookkept_iff applied.2 before).mpr (clean ⟨_, applied.1⟩)

theorem deploy_bookkept {initialOwner : KeyOrAddress} (deployed : deploy initialOwner = .ok registry) :
    registry.Bookkept := by
  simp only [deploy, bind_eq_ok, pure_eq_ok] at deployed
  obtain ⟨access, _, rfl⟩ := deployed
  exact ⟨by simp, by simp [isCommitmentRegistered], rfl⟩

/-- The books are right in every state of a run exactly when each call that takes effect is
clean in the state it meets. -/
theorem identity_registry_bookkept_iff (H : Hashes) (initialOwner : KeyOrAddress)
    (registry₀ : Identities) (deployed : deploy initialOwner = .ok registry₀)
    (txs : List IdentityTransaction) :
    (∀ done rest, txs = done ++ rest →
      let registry := Runs.run (step H) registry₀ done
      (∀ did, registry.commitments.get? did ≠ some zero32) ∧
        registry.isCommitmentRegistered zero32 = false ∧
        registry.identityCount = registry.commitments.size) ↔
    (∀ done tx rest, txs = done ++ tx :: rest →
      let registry := Runs.run (step H) registry₀ done
      (∃ next, registry.execute H tx = .ok next) →
        match tx.call with
        | .registerIdentity didHash _ _ => registry.commitments.member didHash = false
        | .adminUpdateCommitment _ newCommitment _ => newCommitment ≠ zero32
        | _ => True) := by
  constructor
  · intro books done tx rest parts registry ⟨next, executed⟩
    obtain ⟨unstored, unregistered, count⟩ := books done (tx :: rest) parts
    obtain ⟨unstored', unregistered', count'⟩ := books (done ++ [tx]) rest (by simp [parts])
    have stepped : Runs.run (step H) registry₀ (done ++ [tx]) = next := by
      rw [Runs.run_concat, step, executed]
    rw [stepped] at unstored' unregistered' count'
    exact (changed_bookkept_iff (execute_changed executed) ⟨unstored, unregistered, count⟩).mp
      ⟨unstored', unregistered', count'⟩
  · intro clean done
    induction done using List.reverseRecOn with
    | nil =>
      intro rest _
      have start := deploy_bookkept deployed
      exact ⟨start.unstored, start.unregistered, start.count⟩
    | append_singleton done tx ih =>
      intro rest parts
      have split : txs = done ++ tx :: rest := by simpa using parts
      obtain ⟨unstored, unregistered, count⟩ := ih (tx :: rest) split
      have after := step_bookkept (H := H) tx ⟨unstored, unregistered, count⟩
        (clean done tx rest split)
      rw [Runs.run_concat]
      exact ⟨after.unstored, after.unregistered, after.count⟩

theorem identity_registry_bookkept_at_sample :
    deploy (.inl (padBytes [1])) = .ok sampleIdentities ∧
    (Runs.run (step sampleHashes) sampleIdentities sampleRun).identityCount = 1 ∧
    (Runs.run (step sampleHashes) sampleIdentities sampleRun).commitments.size = 1 := by
  have deployed : deploy (.inl (padBytes [1])) = .ok sampleIdentities := rfl
  have counted : (Runs.run (step sampleHashes) sampleIdentities sampleRun).identityCount = 1 := by
    decide +kernel
  have books := (identity_registry_bookkept_iff sampleHashes (.inl (padBytes [1])) sampleIdentities
    deployed sampleRun).mpr (by
      intro done tx rest parts
      rcases done with _ | ⟨_, _ | ⟨_, _ | ⟨_, _ | ⟨_, more⟩⟩⟩⟩
      · obtain ⟨rfl, _⟩ := List.cons.inj parts
        exact fun _ => rfl
      · obtain ⟨rfl, _⟩ := List.cons.inj (List.cons.inj parts).2
        exact fun _ => trivial
      · obtain ⟨rfl, _⟩ := List.cons.inj (List.cons.inj (List.cons.inj parts).2).2
        exact fun _ => trivial
      · obtain ⟨rfl, _⟩ :=
          List.cons.inj (List.cons.inj (List.cons.inj (List.cons.inj parts).2).2).2
        exact fun _ => trivial
      · have lengths := congrArg List.length parts
        simp [sampleRun] at lengths)
  obtain ⟨_, _, same⟩ := books sampleRun [] (by simp)
  exact ⟨deployed, counted, same ▸ counted⟩

/-- A registration, its expiry and a second registration of the DID count two identities; an
administrator's update stores the zero commitment. -/
theorem identity_registry_miscounts :
    let owner := padBytes [1]
    let did := padBytes [7]
    let issuer := padBytes [9]
    let again : List IdentityTransaction :=
      [⟨owner, zero32, .registerIdentity did (padBytes [11]) issuer⟩,
        ⟨owner, zero32, .expireCommitment did⟩,
        ⟨owner, zero32, .registerIdentity did (padBytes [12]) issuer⟩]
    let zeroed : List IdentityTransaction :=
      [⟨owner, zero32, .registerIdentity did (padBytes [11]) issuer⟩,
        ⟨owner, zero32, .adminUpdateCommitment did zero32 issuer⟩]
    deploy (.inl owner) = .ok sampleIdentities ∧
    (Runs.run (step sampleHashes) sampleIdentities again).identityCount = 2 ∧
    (Runs.run (step sampleHashes) sampleIdentities again).commitments.size = 1 ∧
    (Runs.run (step sampleHashes) sampleIdentities zeroed).isCommitmentRegistered zero32 = true := by
  refine ⟨rfl, ?_, ?_, ?_⟩
  · decide
  · decide
  · decide

end Identities

end OwlId.Contracts
