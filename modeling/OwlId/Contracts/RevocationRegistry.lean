import Mathlib
import OwlId.Lib.Runs
import OwlId.Contracts.LedgerMap

/-! # Revocation registry

The contract that keeps the revocation status of every credential.  Three maps and
a set are the live view, which `reactivate` takes back; a Merkle tree and a counter
are the log of every revocation and suspension, which nothing takes back.

`Applied` says everything a successful call can do, and the two invariants are read
off it: `Coherent` relates the five structures of one ledger, and the events of a
run are what its tree and counter hold.
-/

namespace OwlId.Contracts

open OwlId.Lib

/-! ## The ledger -/

inductive CredentialStatus where
  | active | revoked | suspended
deriving DecidableEq

structure Registry where
  access : Access
  credentialStatuses : LedgerMap CredentialStatus
  credentialIssuers : LedgerMap Bytes32
  credentialReasons : LedgerMap String
  revokedCredentials : Finset Bytes32
  revokedTree : List Bytes32
  revocationCount : Nat

/-- Capacity of `HistoricMerkleTree<32, _>`; inserting into a full tree fails. -/
def revokedTreeCapacity : Nat := 2 ^ 32

namespace Registry

/-! ## Circuits -/

/-- The writes that `revoke` and `suspend` end with. -/
def mark (registry : Registry) (rootHash issuerKeyHash : Bytes32) (reason : String)
    (status : CredentialStatus) : Circuit Registry := do
  let revokedCredentials :=
    if rootHash ∈ registry.revokedCredentials then registry.revokedCredentials
    else insert rootHash registry.revokedCredentials
  assert (registry.revokedTree.length < revokedTreeCapacity) "revokedTree is full"
  return { registry with
    credentialStatuses := registry.credentialStatuses.insert rootHash status
    credentialIssuers := registry.credentialIssuers.insert rootHash issuerKeyHash
    credentialReasons := registry.credentialReasons.insert rootHash reason
    revokedCredentials
    revokedTree := registry.revokedTree ++ [rootHash]
    revocationCount := registry.revocationCount + 1 }

def revoke (registry : Registry) (caller : ZswapCoinPublicKey)
    (rootHash issuerKeyHash : Bytes32) (reason : String) : Circuit Registry := do
  registry.access.assertOnlyOwner caller
  registry.access.assertNotPaused
  assert (rootHash ≠ zero32) "Invalid zero root hash"
  if registry.credentialStatuses.member rootHash then
    let current ← registry.credentialStatuses.lookup rootHash
    assert (current ≠ .revoked) "Credential already revoked"
  registry.mark rootHash issuerKeyHash reason .revoked

def suspend (registry : Registry) (caller : ZswapCoinPublicKey)
    (rootHash issuerKeyHash : Bytes32) (reason : String) : Circuit Registry := do
  registry.access.assertOnlyOwner caller
  registry.access.assertNotPaused
  assert (rootHash ≠ zero32) "Invalid zero root hash"
  if registry.credentialStatuses.member rootHash then
    let current ← registry.credentialStatuses.lookup rootHash
    assert (current ≠ .revoked) "Cannot suspend a revoked credential"
    assert (current ≠ .suspended) "Credential already suspended"
  registry.mark rootHash issuerKeyHash reason .suspended

/-- The tree keeps the suspension: it is append-only. -/
def reactivate (registry : Registry) (caller : ZswapCoinPublicKey)
    (rootHash issuerKeyHash : Bytes32) : Circuit Registry := do
  registry.access.assertOnlyOwner caller
  registry.access.assertNotPaused
  assert (registry.credentialStatuses.member rootHash = true) "Credential not found"
  let status ← registry.credentialStatuses.lookup rootHash
  assert (status = .suspended) "Only suspended credentials can be reactivated"
  let issuer ← registry.credentialIssuers.lookup rootHash
  assert (issuer = issuerKeyHash) "Issuer mismatch"
  return { registry with
    credentialStatuses := registry.credentialStatuses.insert rootHash .active
    credentialReasons := registry.credentialReasons.remove rootHash
    revokedCredentials := registry.revokedCredentials.erase rootHash }

def isRevoked (registry : Registry) (rootHash : Bytes32) : Circuit Bool :=
  if registry.credentialStatuses.member rootHash = false then return false
  else do
    let status ← registry.credentialStatuses.lookup rootHash
    return status = .revoked || status = .suspended

/-! ## Transactions -/

inductive RegistryCall where
  | revoke (rootHash issuerKeyHash : Bytes32) (reason : String)
  | suspend (rootHash issuerKeyHash : Bytes32) (reason : String)
  | reactivate (rootHash issuerKeyHash : Bytes32)
  | admin (call : AdminCall)

structure RegistryTransaction where
  caller : ZswapCoinPublicKey
  call : RegistryCall

def execute (registry : Registry) (tx : RegistryTransaction) : Circuit Registry :=
  match tx.call with
  | .revoke rootHash issuerKeyHash reason =>
    registry.revoke tx.caller rootHash issuerKeyHash reason
  | .suspend rootHash issuerKeyHash reason =>
    registry.suspend tx.caller rootHash issuerKeyHash reason
  | .reactivate rootHash issuerKeyHash => registry.reactivate tx.caller rootHash issuerKeyHash
  | .admin call => do
    let access ← call.execute registry.access tx.caller
    return { registry with access }

/-- The ledger after a transaction; one whose circuit fails is not applied. -/
def step (registry : Registry) (tx : RegistryTransaction) : Registry :=
  match registry.execute tx with
  | .ok registry' => registry'
  | .error _ => registry

/-- The constructor, over the empty ledger. -/
def deploy (initialOwner : KeyOrAddress) : Circuit Registry := do
  let access ← Access.uninitialized.ownableInitialize initialOwner
  return ⟨access, .empty, .empty, .empty, ∅, [], 0⟩

/-- The root hash a successful revocation or suspension is about. -/
def event (registry : Registry) (tx : RegistryTransaction) : Option Bytes32 :=
  match registry.execute tx, tx.call with
  | .ok _, .revoke rootHash _ _ => some rootHash
  | .ok _, .suspend rootHash _ _ => some rootHash
  | _, _ => none

/-- The successful revocations and suspensions of a run, in order. -/
def events (registry : Registry) : List RegistryTransaction → List Bytes32
  | [] => []
  | tx :: rest => (registry.event tx).toList ++ events (registry.step tx) rest

/-! ## What a call does -/

/-- The ledger with a credential marked as revoked or suspended. -/
def marked (registry : Registry) (rootHash issuerKeyHash : Bytes32) (reason : String)
    (status : CredentialStatus) : Registry :=
  { registry with
    credentialStatuses := registry.credentialStatuses.insert rootHash status
    credentialIssuers := registry.credentialIssuers.insert rootHash issuerKeyHash
    credentialReasons := registry.credentialReasons.insert rootHash reason
    revokedCredentials := insert rootHash registry.revokedCredentials
    revokedTree := registry.revokedTree ++ [rootHash]
    revocationCount := registry.revocationCount + 1 }

def reactivated (registry : Registry) (rootHash : Bytes32) : Registry :=
  { registry with
    credentialStatuses := registry.credentialStatuses.insert rootHash .active
    credentialReasons := registry.credentialReasons.remove rootHash
    revokedCredentials := registry.revokedCredentials.erase rootHash }

/-- The effects of the calls, with the part of their guards the invariants need. -/
inductive Applied (registry : Registry) : RegistryCall → Registry → Prop where
  | revoke {rootHash issuerKeyHash : Bytes32} {reason : String} (nonzero : rootHash ≠ zero32)
      (live : registry.credentialStatuses.get? rootHash ≠ some .revoked) :
      Applied registry (.revoke rootHash issuerKeyHash reason)
        (registry.marked rootHash issuerKeyHash reason .revoked)
  | suspend {rootHash issuerKeyHash : Bytes32} {reason : String} (nonzero : rootHash ≠ zero32)
      (live : registry.credentialStatuses.get? rootHash ≠ some .revoked) :
      Applied registry (.suspend rootHash issuerKeyHash reason)
        (registry.marked rootHash issuerKeyHash reason .suspended)
  | reactivate {rootHash issuerKeyHash : Bytes32}
      (suspended : registry.credentialStatuses.get? rootHash = some .suspended) :
      Applied registry (.reactivate rootHash issuerKeyHash) (registry.reactivated rootHash)
  | admin {call : AdminCall} {access : Access} :
      Applied registry (.admin call) { registry with access }

theorem mark_eq_ok {registry registry' : Registry} {rootHash issuerKeyHash : Bytes32}
    {reason : String} {status : CredentialStatus}
    (returns : registry.mark rootHash issuerKeyHash reason status = .ok registry') :
    registry' = registry.marked rootHash issuerKeyHash reason status := by
  simp only [mark, bind_eq_ok, ensure_eq_ok, pure_eq_ok] at returns
  obtain ⟨_, _, rfl⟩ := returns
  by_cases present : rootHash ∈ registry.revokedCredentials
  · simp [marked, present]
  · simp [marked, present]

theorem revoke_applied {registry registry' : Registry} {caller : ZswapCoinPublicKey}
    {rootHash issuerKeyHash : Bytes32} {reason : String}
    (returns : registry.revoke caller rootHash issuerKeyHash reason = .ok registry') :
    Applied registry (.revoke rootHash issuerKeyHash reason) registry' := by
  simp only [revoke, bind_eq_ok, ensure_eq_ok] at returns
  obtain ⟨_, _, _, _, _, nonzero, guarded⟩ := returns
  cases found : registry.credentialStatuses.get? rootHash with
  | none =>
    simp only [LedgerMap.member, found, Option.isSome_none, Bool.false_eq_true, if_false] at guarded
    rw [mark_eq_ok guarded]
    exact .revoke nonzero (by simp [found])
  | some current =>
    simp only [LedgerMap.member, LedgerMap.lookup, found, Option.isSome_some, if_true, bind_eq_ok,
      okOr_eq_ok, ensure_eq_ok, Option.some.injEq] at guarded
    obtain ⟨_, rfl, _, live, marks⟩ := guarded
    rw [mark_eq_ok marks]
    exact .revoke nonzero (by simpa [found] using live)

theorem suspend_applied {registry registry' : Registry} {caller : ZswapCoinPublicKey}
    {rootHash issuerKeyHash : Bytes32} {reason : String}
    (returns : registry.suspend caller rootHash issuerKeyHash reason = .ok registry') :
    Applied registry (.suspend rootHash issuerKeyHash reason) registry' := by
  simp only [suspend, bind_eq_ok, ensure_eq_ok] at returns
  obtain ⟨_, _, _, _, _, nonzero, guarded⟩ := returns
  cases found : registry.credentialStatuses.get? rootHash with
  | none =>
    simp only [LedgerMap.member, found, Option.isSome_none, Bool.false_eq_true, if_false] at guarded
    rw [mark_eq_ok guarded]
    exact .suspend nonzero (by simp [found])
  | some current =>
    simp only [LedgerMap.member, LedgerMap.lookup, found, Option.isSome_some, if_true, bind_eq_ok,
      okOr_eq_ok, ensure_eq_ok, Option.some.injEq] at guarded
    obtain ⟨_, rfl, _, live, _, _, marks⟩ := guarded
    rw [mark_eq_ok marks]
    exact .suspend nonzero (by simpa [found] using live)

theorem reactivate_applied {registry registry' : Registry} {caller : ZswapCoinPublicKey}
    {rootHash issuerKeyHash : Bytes32}
    (returns : registry.reactivate caller rootHash issuerKeyHash = .ok registry') :
    Applied registry (.reactivate rootHash issuerKeyHash) registry' := by
  simp only [reactivate, bind_eq_ok, ensure_eq_ok, pure_eq_ok, LedgerMap.lookup, okOr_eq_ok]
    at returns
  obtain ⟨_, _, _, _, _, _, status, found, _, rfl, _, _, _, _, rfl⟩ := returns
  exact .reactivate found

/-- Everything a transaction that succeeds can do. -/
theorem execute_applied {registry registry' : Registry} {tx : RegistryTransaction}
    (returns : registry.execute tx = .ok registry') : Applied registry tx.call registry' := by
  obtain ⟨caller, call⟩ := tx
  cases call with
  | revoke rootHash issuerKeyHash reason => exact revoke_applied returns
  | suspend rootHash issuerKeyHash reason => exact suspend_applied returns
  | reactivate rootHash issuerKeyHash => exact reactivate_applied returns
  | admin call =>
    simp only [execute, bind_eq_ok, pure_eq_ok] at returns
    obtain ⟨access, _, rfl⟩ := returns
    exact .admin

theorem step_of_error {registry : Registry} {tx : RegistryTransaction} {message : String}
    (fails : registry.execute tx = .error message) : registry.step tx = registry := by
  rw [step, fails]

/-- A property of ledgers that successful calls preserve is preserved by every step. -/
theorem step_preserves {registry : Registry} (Inv : Registry → Prop) (tx : RegistryTransaction)
    (start : Inv registry) (applied : ∀ registry', Applied registry tx.call registry' → Inv registry') :
    Inv (registry.step tx) := by
  cases returns : registry.execute tx with
  | error message =>
    rw [step_of_error returns]
    exact start
  | ok registry' =>
    rw [step, returns]
    exact applied registry' (execute_applied returns)

/-! ## The five structures -/

/-- Out of use: the two statuses a verifier rejects. -/
def Withdrawn (registry : Registry) (rootHash : Bytes32) : Prop :=
  registry.credentialStatuses.get? rootHash = some .revoked ∨
    registry.credentialStatuses.get? rootHash = some .suspended

theorem isRevoked_eq_true {registry : Registry} {rootHash : Bytes32} :
    registry.isRevoked rootHash = .ok true ↔ registry.Withdrawn rootHash := by
  rw [isRevoked, Withdrawn, LedgerMap.member, LedgerMap.lookup]
  cases registry.credentialStatuses.get? rootHash with
  | none => simp
  | some status => simp [okOr]

/-- What holds between the structures of one ledger. -/
structure Coherent (registry : Registry) : Prop where
  revoked_iff : ∀ rootHash, rootHash ∈ registry.revokedCredentials ↔ registry.Withdrawn rootHash
  issuers : ∀ rootHash, registry.credentialIssuers.member rootHash =
    registry.credentialStatuses.member rootHash
  reasons : ∀ rootHash, registry.credentialReasons.member rootHash = true ↔
    registry.Withdrawn rootHash
  zero_status : registry.credentialStatuses.member zero32 = false
  zero_tree : zero32 ∉ registry.revokedTree

theorem marked_coherent {registry : Registry} {rootHash issuerKeyHash : Bytes32} {reason : String}
    {status : CredentialStatus} (nonzero : rootHash ≠ zero32)
    (withdrawn : status = .revoked ∨ status = .suspended) (coherent : registry.Coherent) :
    (registry.marked rootHash issuerKeyHash reason status).Coherent where
  revoked_iff other := by
    by_cases same : other = rootHash
    · simpa [marked, Withdrawn, same] using withdrawn
    · simpa [marked, Withdrawn, same] using coherent.revoked_iff other
  issuers other := by
    by_cases same : other = rootHash
    · simp [marked, LedgerMap.member, same]
    · simpa [marked, LedgerMap.member, same] using coherent.issuers other
  reasons other := by
    by_cases same : other = rootHash
    · simpa [marked, Withdrawn, LedgerMap.member, same] using withdrawn
    · simpa [marked, Withdrawn, LedgerMap.member, same] using coherent.reasons other
  zero_status := by
    simpa [marked, LedgerMap.member, nonzero.symm] using coherent.zero_status
  zero_tree := by
    simp [marked, nonzero.symm, coherent.zero_tree]

theorem reactivated_coherent {registry : Registry} {rootHash : Bytes32}
    (suspended : registry.credentialStatuses.get? rootHash = some .suspended)
    (coherent : registry.Coherent) : (registry.reactivated rootHash).Coherent where
  revoked_iff other := by
    by_cases same : other = rootHash
    · simp [reactivated, Withdrawn, same]
    · simpa [reactivated, Withdrawn, same] using coherent.revoked_iff other
  issuers other := by
    by_cases same : other = rootHash
    · have recorded := coherent.issuers rootHash
      simp only [LedgerMap.member, suspended] at recorded
      simpa [reactivated, LedgerMap.member, same] using recorded
    · simpa [reactivated, LedgerMap.member, same] using coherent.issuers other
  reasons other := by
    by_cases same : other = rootHash
    · simp [reactivated, Withdrawn, LedgerMap.member, same]
    · simpa [reactivated, Withdrawn, LedgerMap.member, same] using coherent.reasons other
  zero_status := by
    -- the zero hash has no status, so it is not the one that was suspended
    have different : rootHash ≠ zero32 := by
      intro zero
      have absent := coherent.zero_status
      rw [← zero] at absent
      simp [LedgerMap.member, suspended] at absent
    simpa [reactivated, LedgerMap.member, different.symm] using coherent.zero_status
  zero_tree := coherent.zero_tree

theorem applied_coherent {registry registry' : Registry} {call : RegistryCall}
    (applied : Applied registry call registry') (coherent : registry.Coherent) :
    registry'.Coherent := by
  cases applied with
  | revoke nonzero _ => exact marked_coherent nonzero (.inl rfl) coherent
  | suspend nonzero _ => exact marked_coherent nonzero (.inr rfl) coherent
  | reactivate suspended => exact reactivated_coherent suspended coherent
  | admin =>
    exact ⟨coherent.revoked_iff, coherent.issuers, coherent.reasons, coherent.zero_status,
      coherent.zero_tree⟩

theorem deploy_coherent {initialOwner : KeyOrAddress} {registry : Registry}
    (deployed : deploy initialOwner = .ok registry) : registry.Coherent := by
  simp only [deploy, bind_eq_ok, pure_eq_ok] at deployed
  obtain ⟨access, _, rfl⟩ := deployed
  exact ⟨by simp [Withdrawn], by simp [LedgerMap.member], by simp [LedgerMap.member, Withdrawn],
    by simp [LedgerMap.member], by simp⟩

theorem run_coherent {registry : Registry} (coherent : registry.Coherent)
    (txs : List RegistryTransaction) : (Runs.run step registry txs).Coherent :=
  Runs.run_invariant Coherent coherent
    (fun _ tx before => step_preserves Coherent tx before
      fun _ applied => applied_coherent applied before) txs

/-! ## Revocation is final -/

/-- The record of a revoked credential. -/
structure RevokedAs (registry : Registry) (rootHash : Bytes32) (issuer : Option Bytes32)
    (reason : Option String) : Prop where
  status : registry.credentialStatuses.get? rootHash = some .revoked
  issuer : registry.credentialIssuers.get? rootHash = issuer
  reason : registry.credentialReasons.get? rootHash = reason

theorem marked_revokedAs {registry : Registry} {rootHash other issuerKeyHash : Bytes32}
    {reason : Option String} {text : String} {issuer : Option Bytes32} {status : CredentialStatus}
    (live : registry.credentialStatuses.get? rootHash ≠ some .revoked)
    (revoked : registry.RevokedAs other issuer reason) :
    (registry.marked rootHash issuerKeyHash text status).RevokedAs other issuer reason := by
  have different : other ≠ rootHash := by
    intro same
    exact live (same ▸ revoked.status)
  exact ⟨by simp [marked, different, revoked.status], by simp [marked, different, revoked.issuer],
    by simp [marked, different, revoked.reason]⟩

theorem applied_revokedAs {registry registry' : Registry} {call : RegistryCall}
    {rootHash : Bytes32} {issuer : Option Bytes32} {reason : Option String}
    (applied : Applied registry call registry') (revoked : registry.RevokedAs rootHash issuer reason) :
    registry'.RevokedAs rootHash issuer reason := by
  cases applied with
  | revoke _ live => exact marked_revokedAs live revoked
  | suspend _ live => exact marked_revokedAs live revoked
  | @reactivate other _ suspended =>
    have different : rootHash ≠ other := by
      intro same
      rw [← same, revoked.status] at suspended
      cases suspended
    exact ⟨by simp [reactivated, different, revoked.status],
      by simp [reactivated, revoked.issuer], by simp [reactivated, different, revoked.reason]⟩
  | admin => exact ⟨revoked.status, revoked.issuer, revoked.reason⟩

theorem run_revokedAs {registry : Registry} {rootHash : Bytes32} {issuer : Option Bytes32}
    {reason : Option String} (revoked : registry.RevokedAs rootHash issuer reason)
    (txs : List RegistryTransaction) :
    (Runs.run step registry txs).RevokedAs rootHash issuer reason :=
  Runs.run_invariant (RevokedAs · rootHash issuer reason) revoked
    (fun _ tx before => step_preserves (RevokedAs · rootHash issuer reason) tx before
      fun _ applied => applied_revokedAs applied before) txs

/-! ## The log -/

/-- The tree lists the events of the run so far and the counter counts them. -/
structure Logged (log : List Bytes32) (registry : Registry) : Prop where
  tree : registry.revokedTree = log
  count : registry.revocationCount = log.length

theorem step_logged {registry : Registry} {log : List Bytes32} (tx : RegistryTransaction)
    (logged : registry.Logged log) :
    (registry.step tx).Logged (log ++ (registry.event tx).toList) := by
  obtain ⟨caller, call⟩ := tx
  cases returns : registry.execute ⟨caller, call⟩ with
  | error message => simpa [step, event, returns] using logged
  | ok registry' =>
    have applied := execute_applied returns
    cases applied with
    | revoke => exact ⟨by simp [step, event, returns, marked, logged.tree],
        by simp [step, event, returns, marked, logged.count]⟩
    | suspend => exact ⟨by simp [step, event, returns, marked, logged.tree],
        by simp [step, event, returns, marked, logged.count]⟩
    | reactivate => simpa [step, event, returns] using ⟨logged.tree, logged.count⟩
    | admin => simpa [step, event, returns] using ⟨logged.tree, logged.count⟩

theorem run_logged {registry : Registry} {log : List Bytes32} (txs : List RegistryTransaction)
    (logged : registry.Logged log) :
    (Runs.run step registry txs).Logged (log ++ registry.events txs) := by
  induction txs generalizing registry log with
  | nil => simpa [events] using logged
  | cons tx rest ih =>
    have next := ih (step_logged tx logged)
    rw [List.append_assoc] at next
    exact next

theorem deploy_logged {initialOwner : KeyOrAddress} {registry : Registry}
    (deployed : deploy initialOwner = .ok registry) : registry.Logged [] := by
  simp only [deploy, bind_eq_ok, pure_eq_ok] at deployed
  obtain ⟨access, _, rfl⟩ := deployed
  exact ⟨rfl, rfl⟩

/-! ## Every run -/

theorem registry_invariant (initialOwner : KeyOrAddress) (registry₀ : Registry)
    (deployed : deploy initialOwner = .ok registry₀) (txs : List RegistryTransaction) :
    let registry := Runs.run step registry₀ txs
    -- the live view agrees with itself
    (∀ rootHash,
      (rootHash ∈ registry.revokedCredentials ↔
        registry.credentialStatuses.get? rootHash = some .revoked ∨
          registry.credentialStatuses.get? rootHash = some .suspended) ∧
      (rootHash ∈ registry.revokedCredentials ↔ registry.isRevoked rootHash = .ok true) ∧
      registry.credentialIssuers.member rootHash = registry.credentialStatuses.member rootHash ∧
      (registry.credentialReasons.member rootHash = true ↔
        registry.credentialStatuses.get? rootHash = some .revoked ∨
          registry.credentialStatuses.get? rootHash = some .suspended)) ∧
    -- a revocation is final, whatever is called afterwards
    (∀ rootHash, registry.credentialStatuses.get? rootHash = some .revoked → ∀ later,
      let registry' := Runs.run step registry later
      registry'.credentialStatuses.get? rootHash = some .revoked ∧
        registry'.credentialIssuers.get? rootHash = registry.credentialIssuers.get? rootHash ∧
        registry'.credentialReasons.get? rootHash = registry.credentialReasons.get? rootHash) ∧
    -- the log lists and counts the successful revocations and suspensions
    (∀ rootHash ∈ registry₀.events txs, rootHash ∈ registry.revokedTree) ∧
    registry.revocationCount = (registry₀.events txs).length ∧
    -- the zero hash is nowhere
    (zero32 ∉ registry.revokedCredentials ∧ zero32 ∉ registry.revokedTree ∧
      registry.credentialStatuses.member zero32 = false ∧
      registry.credentialIssuers.member zero32 = false ∧
      registry.credentialReasons.member zero32 = false) ∧
    (∀ tx message, registry.execute tx = .error message → registry.step tx = registry) := by
  intro registry
  have coherent : registry.Coherent := run_coherent (deploy_coherent deployed) txs
  have logged : registry.Logged (registry₀.events txs) := run_logged txs (deploy_logged deployed)
  have zeroNotWithdrawn : ¬ registry.Withdrawn zero32 := by
    intro withdrawn
    have absent := coherent.zero_status
    cases withdrawn with
    | inl revoked => simp [LedgerMap.member, revoked] at absent
    | inr suspended => simp [LedgerMap.member, suspended] at absent
  refine ⟨?_, ?_, ?_, logged.count, ?_, ?_⟩
  · intro rootHash
    exact ⟨coherent.revoked_iff rootHash,
      (coherent.revoked_iff rootHash).trans isRevoked_eq_true.symm,
      coherent.issuers rootHash, coherent.reasons rootHash⟩
  · intro rootHash revoked later
    have final := run_revokedAs ⟨revoked, rfl, rfl⟩ later
    exact ⟨final.status, final.issuer, final.reason⟩
  · intro rootHash happened
    rw [logged.tree]
    exact happened
  · refine ⟨?_, coherent.zero_tree, coherent.zero_status, ?_, ?_⟩
    · rw [coherent.revoked_iff]
      exact zeroNotWithdrawn
    · rw [coherent.issuers]
      exact coherent.zero_status
    · rw [← Bool.not_eq_true, coherent.reasons]
      exact zeroNotWithdrawn
  · intro tx message fails
    exact step_of_error fails

/-- Suspended, reactivated, a stranger's revocation, then the owner's: two events. -/
def sampleRun : List RegistryTransaction :=
  let owner := padBytes [1]
  let rootHash := padBytes [7]
  let issuer := padBytes [9]
  [⟨owner, .suspend rootHash issuer "lost device"⟩, ⟨owner, .reactivate rootHash issuer⟩,
    ⟨padBytes [2], .revoke rootHash issuer "not mine"⟩, ⟨owner, .revoke rootHash issuer "fraud"⟩]

/-- The ledger the first transaction meets. -/
def sampleRegistry : Registry :=
  ⟨⟨.inl (padBytes [1]), true, false⟩, .empty, .empty, .empty, ∅, [], 0⟩

theorem registry_invariant_sample :
    deploy (.inl (padBytes [1])) = .ok sampleRegistry ∧
    (Runs.run step sampleRegistry sampleRun).revocationCount = 2 ∧
    (Runs.run step sampleRegistry sampleRun).isRevoked (padBytes [7]) = .ok true := by
  have deployed : deploy (.inl (padBytes [1])) = .ok sampleRegistry := rfl
  obtain ⟨live, _, _, counted, _⟩ :=
    registry_invariant (.inl (padBytes [1])) sampleRegistry deployed sampleRun
  refine ⟨deployed, ?_, ?_⟩
  · rw [counted]
    decide
  · rw [← (live (padBytes [7])).2.1, (live (padBytes [7])).1]
    decide

end Registry

end OwlId.Contracts
