import Mathlib
import OwlId.Lib.Runs
import OwlId.Contracts.LedgerMap
import OwlId.ProofSystem.Attestation

/-! # Issuer registry

The contract that keeps the trusted issuers.  Three maps, a set and a counter are
keyed by the hash of the issuer's key; an entry is written once by `registerIssuer`
and afterwards only changes between ACTIVE and DEACTIVATED.

`Changed` says everything a successful call can do.  The branch of `registerIssuer`
for an INACTIVE entry is never taken, because no entry is ever INACTIVE.
-/

namespace OwlId.Contracts

open OwlId.Lib OwlId.ProofSystem

/-! ## The ledger -/

inductive IssuerStatus where
  | inactive | active | deactivated
deriving DecidableEq

structure Issuers where
  access : Access
  issuerCount : Nat
  issuerStatuses : LedgerMap IssuerStatus
  issuerKeys : LedgerMap Bytes32
  issuerNames : LedgerMap String
  registeredIssuers : Finset Bytes32

def issuerKeyHash (H : Hashes) (publicKey : Bytes32) : Bytes32 :=
  persistentHash H [pad32 "owlid:issuer:key:", publicKey]

namespace Issuers

/-! ## Circuits -/

/-- The writes `registerIssuer` ends with. -/
def record (registry : Issuers) (keyHash publicKey : Bytes32) (name : String) : Issuers :=
  { registry with
    issuerStatuses := registry.issuerStatuses.insert keyHash .active
    issuerKeys := registry.issuerKeys.insert keyHash publicKey
    issuerNames := registry.issuerNames.insert keyHash name
    registeredIssuers :=
      if keyHash ∈ registry.registeredIssuers then registry.registeredIssuers
      else insert keyHash registry.registeredIssuers
    issuerCount :=
      if keyHash ∈ registry.registeredIssuers then registry.issuerCount
      else registry.issuerCount + 1 }

def registerIssuer (H : Hashes) (registry : Issuers) (caller : ZswapCoinPublicKey)
    (publicKey : Bytes32) (name : String) : Circuit Issuers := do
  registry.access.assertOnlyOwner caller
  registry.access.assertNotPaused
  assert (publicKey ≠ zero32) "Invalid zero public key"
  let keyHash := issuerKeyHash H publicKey
  if registry.issuerStatuses.member keyHash then
    let current ← registry.issuerStatuses.lookup keyHash
    assert (current ≠ .active) "Issuer already active"
    assert (current ≠ .deactivated) "Use reactivateIssuer to reactivate"
  return registry.record keyHash publicKey name

/-- The body of the two circuits that move an issuer from one status to another. -/
def moveIssuer (registry : Issuers) (caller : ZswapCoinPublicKey) (keyHash : Bytes32)
    (source target : IssuerStatus) (message : String) : Circuit Issuers := do
  registry.access.assertOnlyOwner caller
  registry.access.assertNotPaused
  assert (registry.issuerStatuses.member keyHash = true) "Issuer not found"
  let current ← registry.issuerStatuses.lookup keyHash
  assert (current = source) message
  return { registry with issuerStatuses := registry.issuerStatuses.insert keyHash target }

def deactivateIssuer (registry : Issuers) (caller : ZswapCoinPublicKey) (keyHash : Bytes32) :
    Circuit Issuers :=
  registry.moveIssuer caller keyHash .active .deactivated "Issuer not active"

def reactivateIssuer (registry : Issuers) (caller : ZswapCoinPublicKey) (keyHash : Bytes32) :
    Circuit Issuers :=
  registry.moveIssuer caller keyHash .deactivated .active "Issuer not deactivated"

def isTrusted (H : Hashes) (registry : Issuers) (publicKey : Bytes32) : Circuit Bool :=
  let keyHash := issuerKeyHash H publicKey
  if registry.issuerStatuses.member keyHash = false then return false
  else do
    let current ← registry.issuerStatuses.lookup keyHash
    return current = .active

/-! ## Transactions -/

inductive IssuerCall where
  | registerIssuer (publicKey : Bytes32) (name : String)
  | deactivateIssuer (keyHash : Bytes32)
  | reactivateIssuer (keyHash : Bytes32)
  | admin (call : AdminCall)

structure IssuerTransaction where
  caller : ZswapCoinPublicKey
  call : IssuerCall

section

variable (H : Hashes)

def execute (registry : Issuers) (tx : IssuerTransaction) : Circuit Issuers :=
  match tx.call with
  | .registerIssuer publicKey name => registry.registerIssuer H tx.caller publicKey name
  | .deactivateIssuer keyHash => registry.deactivateIssuer tx.caller keyHash
  | .reactivateIssuer keyHash => registry.reactivateIssuer tx.caller keyHash
  | .admin call => do
    let access ← call.execute registry.access tx.caller
    return { registry with access }

/-- The ledger after a transaction; one whose circuit fails is not applied. -/
def step (registry : Issuers) (tx : IssuerTransaction) : Issuers :=
  match registry.execute H tx with
  | .ok registry' => registry'
  | .error _ => registry

end

/-- The constructor, over the empty ledger. -/
def deploy (initialOwner : KeyOrAddress) : Circuit Issuers := do
  let access ← Access.uninitialized.ownableInitialize initialOwner
  return ⟨access, 0, .empty, .empty, .empty, ∅⟩

/-- The issuer a call is about and the status it leaves the issuer in. -/
def IssuerCall.outcome (H : Hashes) : IssuerCall → Option (Bytes32 × IssuerStatus)
  | .registerIssuer publicKey _ => some (issuerKeyHash H publicKey, .active)
  | .deactivateIssuer keyHash => some (keyHash, .deactivated)
  | .reactivateIssuer keyHash => some (keyHash, .active)
  | .admin _ => none

/-- The outcomes of the successful calls of a run, in order. -/
def outcomes (H : Hashes) (registry : Issuers) :
    List IssuerTransaction → List (Bytes32 × IssuerStatus)
  | [] => []
  | tx :: rest =>
    (match registry.execute H tx with
      | .ok _ => (tx.call.outcome H).toList
      | .error _ => []) ++ outcomes H (registry.step H tx) rest

/-- What the last successful call on an issuer left it in. -/
def lastOutcome (H : Hashes) (registry : Issuers) (txs : List IssuerTransaction)
    (keyHash : Bytes32) : Option IssuerStatus :=
  (outcomes H registry txs).reverse.lookup keyHash

/-! ## What a call does -/

/-- The effects of the calls, with their guards. -/
inductive Changed (H : Hashes) (registry : Issuers) : IssuerCall → Issuers → Prop where
  | registerIssuer {publicKey : Bytes32} {name : String} (nonzero : publicKey ≠ zero32)
      (fresh : registry.issuerStatuses.get? (issuerKeyHash H publicKey) = none ∨
        registry.issuerStatuses.get? (issuerKeyHash H publicKey) = some .inactive) :
      Changed H registry (.registerIssuer publicKey name)
        (registry.record (issuerKeyHash H publicKey) publicKey name)
  | deactivateIssuer {keyHash : Bytes32}
      (current : registry.issuerStatuses.get? keyHash = some .active) :
      Changed H registry (.deactivateIssuer keyHash)
        { registry with issuerStatuses := registry.issuerStatuses.insert keyHash .deactivated }
  | reactivateIssuer {keyHash : Bytes32}
      (current : registry.issuerStatuses.get? keyHash = some .deactivated) :
      Changed H registry (.reactivateIssuer keyHash)
        { registry with issuerStatuses := registry.issuerStatuses.insert keyHash .active }
  | admin {call : AdminCall} {access : Access} :
      Changed H registry (.admin call) { registry with access }

variable {H : Hashes} {registry registry' : Issuers} {tx : IssuerTransaction}

theorem registerIssuer_changed {caller : ZswapCoinPublicKey} {publicKey : Bytes32} {name : String}
    (returns : registry.registerIssuer H caller publicKey name = .ok registry') :
    Changed H registry (.registerIssuer publicKey name) registry' := by
  simp only [Issuers.registerIssuer, bind_eq_ok, ensure_eq_ok] at returns
  obtain ⟨_, _, _, _, _, nonzero, guarded⟩ := returns
  cases found : registry.issuerStatuses.get? (issuerKeyHash H publicKey) with
  | none =>
    simp only [LedgerMap.member, found, Option.isSome_none, Bool.false_eq_true, if_false,
      pure_eq_ok] at guarded
    rw [← guarded]
    exact .registerIssuer nonzero (.inl found)
  | some current =>
    simp only [LedgerMap.member, LedgerMap.lookup, found, Option.isSome_some, if_true, bind_eq_ok,
      okOr_eq_ok, ensure_eq_ok, Option.some.injEq, pure_eq_ok] at guarded
    obtain ⟨_, rfl, _, notActive, _, notDeactivated, rfl⟩ := guarded
    cases current with
    | inactive => exact .registerIssuer nonzero (.inr found)
    | active => exact absurd rfl notActive
    | deactivated => exact absurd rfl notDeactivated

theorem moveIssuer_eq_ok {caller : ZswapCoinPublicKey} {keyHash : Bytes32}
    {source target : IssuerStatus} {message : String}
    (returns : registry.moveIssuer caller keyHash source target message = .ok registry') :
    registry.issuerStatuses.get? keyHash = some source ∧
      registry' =
        { registry with issuerStatuses := registry.issuerStatuses.insert keyHash target } := by
  simp only [moveIssuer, bind_eq_ok, ensure_eq_ok, pure_eq_ok, LedgerMap.lookup, okOr_eq_ok]
    at returns
  obtain ⟨_, _, _, _, _, _, current, found, _, rfl, rfl⟩ := returns
  exact ⟨found, rfl⟩

theorem execute_changed (returns : registry.execute H tx = .ok registry') :
    Changed H registry tx.call registry' := by
  cases called : tx.call with
  | registerIssuer publicKey name =>
    rw [execute, called] at returns
    exact registerIssuer_changed returns
  | deactivateIssuer keyHash =>
    rw [execute, called] at returns
    obtain ⟨current, rfl⟩ := moveIssuer_eq_ok returns
    exact .deactivateIssuer current
  | reactivateIssuer keyHash =>
    rw [execute, called] at returns
    obtain ⟨current, rfl⟩ := moveIssuer_eq_ok returns
    exact .reactivateIssuer current
  | admin call =>
    simp only [execute, called, bind_eq_ok, pure_eq_ok] at returns
    obtain ⟨access, _, rfl⟩ := returns
    exact .admin

/-- A property that successful calls preserve is preserved by every step. -/
theorem step_preserves (Inv : Issuers → Prop) (tx : IssuerTransaction) (start : Inv registry)
    (changed : ∀ next, Changed H registry tx.call next → Inv next) : Inv (registry.step H tx) := by
  cases returns : registry.execute H tx with
  | error message => rwa [step, returns]
  | ok next =>
    rw [step, returns]
    exact changed next (execute_changed returns)

/-! ## Five structures in step -/

/-- What holds between the structures of one ledger. -/
structure Coherent (H : Hashes) (registry : Issuers) : Prop where
  keys : ∀ keyHash, registry.issuerKeys.member keyHash = registry.issuerStatuses.member keyHash
  names : ∀ keyHash, registry.issuerNames.member keyHash = registry.issuerStatuses.member keyHash
  registered : ∀ keyHash, keyHash ∈ registry.registeredIssuers ↔
    registry.issuerStatuses.member keyHash = true
  count : registry.issuerCount = registry.issuerStatuses.size
  card : registry.issuerCount = registry.registeredIssuers.card
  hashed : ∀ keyHash publicKey, registry.issuerKeys.get? keyHash = some publicKey →
    keyHash = issuerKeyHash H publicKey ∧ publicKey ≠ zero32
  live : ∀ keyHash, registry.issuerStatuses.get? keyHash ≠ some .inactive

/-- Only a key that was never registered can be registered. -/
theorem Coherent.fresh {publicKey : Bytes32} (coherent : registry.Coherent H)
    (idle : registry.issuerStatuses.get? (issuerKeyHash H publicKey) = none ∨
      registry.issuerStatuses.get? (issuerKeyHash H publicKey) = some .inactive) :
    registry.issuerStatuses.member (issuerKeyHash H publicKey) = false := by
  cases idle with
  | inl absent => rw [LedgerMap.member, absent, Option.isSome_none]
  | inr inactive => exact absurd inactive (coherent.live _)

theorem recorded_coherent {publicKey : Bytes32} {name : String} (nonzero : publicKey ≠ zero32)
    (fresh : registry.issuerStatuses.member (issuerKeyHash H publicKey) = false)
    (coherent : registry.Coherent H) :
    (registry.record (issuerKeyHash H publicKey) publicKey name).Coherent H := by
  have unregistered : issuerKeyHash H publicKey ∉ registry.registeredIssuers := by
    rw [coherent.registered, fresh]
    exact Bool.false_ne_true
  generalize same : issuerKeyHash H publicKey = keyHash at fresh unregistered
  have member : ∀ {V : Type} (map : LedgerMap V) (value : V) (other : Bytes32),
      (map.insert keyHash value).member other = (decide (other = keyHash) || map.member other) := by
    intro V map value other
    rw [LedgerMap.member, LedgerMap.get?_insert]
    by_cases here : other = keyHash
    · simp [here]
    · simp [here, LedgerMap.member]
  refine ⟨?_, ?_, ?_, ?_, ?_, ?_, ?_⟩
  · intro other
    simp only [record, member, coherent.keys other]
  · intro other
    simp only [record, member, coherent.names other]
  · intro other
    simp only [record, member, if_neg unregistered, Finset.mem_insert, coherent.registered other,
      Bool.or_eq_true, decide_eq_true_eq]
  · simp only [record, if_neg unregistered, LedgerMap.size_insert, fresh, coherent.count]
    rfl
  · simp only [record, if_neg unregistered, Finset.card_insert_of_notMem unregistered,
      coherent.card]
  · intro other stored found
    simp only [record, LedgerMap.get?_insert] at found
    split at found
    · rename_i here
      obtain rfl := Option.some.inj found
      exact ⟨here.trans same.symm, nonzero⟩
    · exact coherent.hashed other stored found
  · intro other
    simp only [record, LedgerMap.get?_insert]
    split
    · simp
    · exact coherent.live other

theorem moved_coherent {keyHash : Bytes32} {source target : IssuerStatus}
    (current : registry.issuerStatuses.get? keyHash = some source) (usable : target ≠ .inactive)
    (coherent : registry.Coherent H) :
    Coherent H
      { registry with issuerStatuses := registry.issuerStatuses.insert keyHash target } := by
  have present : registry.issuerStatuses.member keyHash = true := by
    rw [LedgerMap.member, current, Option.isSome_some]
  have member : ∀ other, (registry.issuerStatuses.insert keyHash target).member other =
      registry.issuerStatuses.member other := by
    intro other
    rw [LedgerMap.member, LedgerMap.get?_insert]
    split
    · rename_i here
      rw [here, present, Option.isSome_some]
    · rfl
  refine ⟨?_, ?_, ?_, ?_, coherent.card, coherent.hashed, ?_⟩
  · intro other
    rw [member]
    exact coherent.keys other
  · intro other
    rw [member]
    exact coherent.names other
  · intro other
    rw [member]
    exact coherent.registered other
  · show registry.issuerCount = (registry.issuerStatuses.insert keyHash target).size
    rw [LedgerMap.size_insert, if_pos present, coherent.count]
  · intro other
    simp only [LedgerMap.get?_insert]
    split
    · simpa using usable
    · exact coherent.live other

theorem changed_coherent {call : IssuerCall} (changed : Changed H registry call registry')
    (coherent : registry.Coherent H) : registry'.Coherent H := by
  cases changed with
  | registerIssuer nonzero idle => exact recorded_coherent nonzero (coherent.fresh idle) coherent
  | deactivateIssuer current => exact moved_coherent current (by decide) coherent
  | reactivateIssuer current => exact moved_coherent current (by decide) coherent
  | admin =>
    exact ⟨coherent.keys, coherent.names, coherent.registered, coherent.count, coherent.card,
      coherent.hashed, coherent.live⟩

theorem deploy_coherent {initialOwner : KeyOrAddress} (deployed : deploy initialOwner = .ok registry) :
    registry.Coherent H := by
  simp only [deploy, bind_eq_ok, pure_eq_ok] at deployed
  obtain ⟨access, _, rfl⟩ := deployed
  exact ⟨fun _ => rfl, fun _ => rfl, by simp [LedgerMap.member], rfl, rfl, by simp, by simp⟩

theorem run_coherent (coherent : registry.Coherent H) (txs : List IssuerTransaction) :
    (Runs.run (step H) registry txs).Coherent H :=
  Runs.run_invariant (Coherent H) coherent
    (fun _ tx before => step_preserves (Coherent H) tx before
      fun _ changed => changed_coherent changed before) txs

/-! ## Entries are written once -/

/-- The key and name of an entry. -/
structure RecordedAs (registry : Issuers) (keyHash publicKey : Bytes32) (name : String) : Prop where
  key : registry.issuerKeys.get? keyHash = some publicKey
  name : registry.issuerNames.get? keyHash = some name

theorem changed_recordedAs {call : IssuerCall} {keyHash publicKey : Bytes32} {name : String}
    (changed : Changed H registry call registry') (coherent : registry.Coherent H)
    (entry : registry.RecordedAs keyHash publicKey name) :
    registry'.RecordedAs keyHash publicKey name := by
  cases changed with
  | @registerIssuer newKey _ _ idle =>
    have different : keyHash ≠ issuerKeyHash H newKey := by
      intro same
      have present := coherent.keys keyHash
      rw [LedgerMap.member, entry.key, Option.isSome_some, same, coherent.fresh idle] at present
      cases present
    exact ⟨by simp [record, different, entry.key], by simp [record, different, entry.name]⟩
  | deactivateIssuer _ => exact ⟨entry.key, entry.name⟩
  | reactivateIssuer _ => exact ⟨entry.key, entry.name⟩
  | admin => exact ⟨entry.key, entry.name⟩

theorem run_recordedAs {keyHash publicKey : Bytes32} {name : String}
    (coherent : registry.Coherent H) (entry : registry.RecordedAs keyHash publicKey name)
    (txs : List IssuerTransaction) :
    (Runs.run (step H) registry txs).RecordedAs keyHash publicKey name := by
  have both : (Runs.run (step H) registry txs).Coherent H ∧
      (Runs.run (step H) registry txs).RecordedAs keyHash publicKey name :=
    Runs.run_invariant
      (fun state : Issuers => state.Coherent H ∧ state.RecordedAs keyHash publicKey name)
      ⟨coherent, entry⟩
      (fun _ tx before => step_preserves
        (fun state => state.Coherent H ∧ state.RecordedAs keyHash publicKey name) tx before
        fun _ changed =>
          ⟨changed_coherent changed before.1, changed_recordedAs changed before.1 before.2⟩)
      txs
  exact both.2

/-! ## The last call decides -/

theorem changed_status {call : IssuerCall} (changed : Changed H registry call registry')
    (keyHash : Bytes32) :
    registry'.issuerStatuses.get? keyHash =
      ((call.outcome H).toList.lookup keyHash).or (registry.issuerStatuses.get? keyHash) := by
  have written : ∀ (other : Bytes32) (status : IssuerStatus),
      (registry.issuerStatuses.insert other status).get? keyHash =
        ((some (other, status)).toList.lookup keyHash).or (registry.issuerStatuses.get? keyHash) := by
    intro other status
    rw [LedgerMap.get?_insert]
    by_cases same : keyHash = other
    · simp [same]
    · have differs : (keyHash == other) = false := by simpa using same
      simp [same, List.lookup, differs]
  cases changed with
  | registerIssuer => exact written _ _
  | deactivateIssuer => exact written _ _
  | reactivateIssuer => exact written _ _
  | admin => rfl

theorem run_status (registry : Issuers) (txs : List IssuerTransaction) (keyHash : Bytes32) :
    (Runs.run (step H) registry txs).issuerStatuses.get? keyHash =
      (lastOutcome H registry txs keyHash).or (registry.issuerStatuses.get? keyHash) := by
  induction txs generalizing registry with
  | nil => rfl
  | cons tx rest ih =>
    have next := ih (registry.step H tx)
    rw [lastOutcome] at next ⊢
    rw [outcomes, List.reverse_append, List.lookup_append]
    cases returns : registry.execute H tx with
    | error message =>
      have same : registry.step H tx = registry := by rw [step, returns]
      rw [same] at next ⊢
      simpa [Runs.run, same] using next
    | ok registry' =>
      have stepped : registry.step H tx = registry' := by rw [step, returns]
      have one : ((tx.call.outcome H).toList).reverse = (tx.call.outcome H).toList := by
        cases tx.call.outcome H <;> rfl
      rw [stepped] at next ⊢
      have status := changed_status (execute_changed returns) keyHash
      rw [status, ← Option.or_assoc] at next
      rw [one]
      simpa [Runs.run, stepped] using next

theorem isTrusted_eq_true {publicKey : Bytes32} :
    registry.isTrusted H publicKey = .ok true ↔
      registry.issuerStatuses.get? (issuerKeyHash H publicKey) = some .active := by
  rw [isTrusted, LedgerMap.member, LedgerMap.lookup]
  cases registry.issuerStatuses.get? (issuerKeyHash H publicKey) with
  | none => simp
  | some status => simp [okOr]

/-! ## Every run -/

theorem issuer_registry_invariant (H : Hashes) (initialOwner : KeyOrAddress) (registry₀ : Issuers)
    (deployed : deploy initialOwner = .ok registry₀) (txs : List IssuerTransaction) :
    let registry := Runs.run (step H) registry₀ txs
    -- one domain, counted
    (∀ keyHash,
      registry.issuerKeys.member keyHash = registry.issuerStatuses.member keyHash ∧
      registry.issuerNames.member keyHash = registry.issuerStatuses.member keyHash ∧
      (keyHash ∈ registry.registeredIssuers ↔
        registry.issuerStatuses.member keyHash = true)) ∧
    registry.issuerCount = registry.issuerStatuses.size ∧
    registry.issuerCount = registry.registeredIssuers.card ∧
    -- entries are named by their keys
    (∀ keyHash publicKey, registry.issuerKeys.get? keyHash = some publicKey →
      keyHash = issuerKeyHash H publicKey ∧ publicKey ≠ zero32) ∧
    -- the key and the name of an entry never change
    (∀ keyHash publicKey name, registry.issuerKeys.get? keyHash = some publicKey →
      registry.issuerNames.get? keyHash = some name → ∀ later,
      (Runs.run (step H) registry later).issuerKeys.get? keyHash = some publicKey ∧
      (Runs.run (step H) registry later).issuerNames.get? keyHash = some name) ∧
    (∀ keyHash, registry.issuerStatuses.get? keyHash ≠ some .inactive) ∧
    -- the last successful call on an issuer decides whether it is trusted
    (∀ publicKey, registry.isTrusted H publicKey = .ok true ↔
      lastOutcome H registry₀ txs (issuerKeyHash H publicKey) = some .active) ∧
    (∀ tx message, registry.execute H tx = .error message → registry.step H tx = registry) := by
  intro registry
  have coherent : registry.Coherent H := run_coherent (deploy_coherent deployed) txs
  have empty : ∀ keyHash, registry₀.issuerStatuses.get? keyHash = none := by
    simp only [deploy, bind_eq_ok, pure_eq_ok] at deployed
    obtain ⟨access, _, rfl⟩ := deployed
    intro keyHash
    rfl
  refine ⟨?_, coherent.count, coherent.card, coherent.hashed, ?_, coherent.live, ?_, ?_⟩
  · intro keyHash
    exact ⟨coherent.keys keyHash, coherent.names keyHash, coherent.registered keyHash⟩
  · intro keyHash publicKey name key named later
    have entry := run_recordedAs coherent ⟨key, named⟩ later
    exact ⟨entry.key, entry.name⟩
  · intro publicKey
    rw [isTrusted_eq_true, run_status, empty, Option.or_none]
  · intro tx message fails
    rw [step, fails]

/-- Registered, registered again under another name, deactivated, reactivated. -/
def sampleRun : List IssuerTransaction :=
  let owner := padBytes [1]
  let publicKey := padBytes [5]
  let keyHash := issuerKeyHash sampleHashes publicKey
  [⟨owner, .registerIssuer publicKey "Municipality"⟩, ⟨owner, .registerIssuer publicKey "Other"⟩,
    ⟨owner, .deactivateIssuer keyHash⟩, ⟨owner, .reactivateIssuer keyHash⟩]

/-- The ledger the first transaction meets. -/
def sampleIssuers : Issuers :=
  ⟨⟨.inl (padBytes [1]), true, false⟩, 0, .empty, .empty, .empty, ∅⟩

theorem issuer_registry_invariant_at_sample :
    deploy (.inl (padBytes [1])) = .ok sampleIssuers ∧
    (Runs.run (step sampleHashes) sampleIssuers sampleRun).isTrusted sampleHashes (padBytes [5]) =
      .ok true ∧
    (Runs.run (step sampleHashes) sampleIssuers sampleRun).issuerCount = 1 := by
  have deployed : deploy (.inl (padBytes [1])) = .ok sampleIssuers := rfl
  obtain ⟨_, counted, _, _, _, _, trusted, _⟩ :=
    issuer_registry_invariant sampleHashes (.inl (padBytes [1])) sampleIssuers deployed sampleRun
  refine ⟨deployed, ?_, ?_⟩
  · rw [trusted]
    decide +kernel
  · rw [counted]
    decide +kernel

end Issuers

end OwlId.Contracts
