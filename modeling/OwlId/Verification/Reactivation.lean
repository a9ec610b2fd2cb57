import Mathlib
import OwlId.Verification.IssuerTrust

/-! # Reactivating a suspended credential

`reactivate_credential` takes the issuer's key from the local row, and the contract
lets a credential be reactivated only under the issuer hash it was suspended with.
The column is written when a row is created and never again: by the API with the key
of the request, by verification with the issuer's key, by the event feed with the
hash of the key, and by `check_revocation` with nothing.

`suspended_stays_reactivatable_iff` says, for every spelling of a credential's id, when
its row keeps a key that the contract accepts.
-/

namespace OwlId.Verification

open OwlId.Lib OwlId.Contracts OwlId.ProofSystem OwlId.Sidecar

/-! ## The registry as the service reaches it -/

/-- The sidecar decodes the hex id; `credential_id_hex` always gives 32 bytes. -/
def rootHashBytes (hex : String) : Bytes32 := padBytes (clientHexToBytes hex)

/-- The credential an id names, in either of its spellings. -/
def rootHashOf (P : Primitives) (credentialId : String) : Option Bytes32 :=
  match credentialIdHex P credentialId with
  | .ok hex => some (rootHashBytes hex)
  | .error _ => none

/-- The sidecar hashes whatever it gets as the issuer's key. -/
def registryCall (H : Hashes) : ChainWrite → Registry.RegistryCall
  | .revoke rootHash issuerPublicKey reason =>
    .revoke (rootHashBytes rootHash) (keyHashOf H issuerPublicKey) reason
  | .suspend rootHash issuerPublicKey reason =>
    .suspend (rootHashBytes rootHash) (keyHashOf H issuerPublicKey) reason
  | .reactivate rootHash issuerPublicKey =>
    .reactivate (rootHashBytes rootHash) (keyHashOf H issuerPublicKey)

structure ReactivationState where
  registry : Registry
  /-- Events that have not been processed, oldest first. -/
  queue : List SidecarEvent
  mirrors : Mirrors

inductive ReactivationStep where
  | revokeCredential (W : World) (credentialId issuerPublicKey : String) (reason : Option String)
  | suspendCredential (W : World) (credentialId issuerPublicKey : String) (reason : Option String)
  | reactivateCredential (W : World) (credentialId : String)
  | checkRevocation (W : World) (credentialId : String)
  | verifyOnePresentation (W : World) (challenge : String) (audience : Option String)
      (presentation : String)
  /-- A transaction that does not come from this service. -/
  | transact (tx : Registry.RegistryTransaction)
  /-- The feed delivers the oldest event. -/
  | process

namespace ReactivationState

variable (H : Hashes) (P : Primitives) (wallet : ZswapCoinPublicKey)

def table (st : ReactivationState) : RevocationTable := st.mirrors.revocations.table

/-- The world with this registry behind the sidecar; what fails in `W` fails before the sidecar
is reached. -/
def world (st : ReactivationState) (W : World) : World :=
  { W with
    primitives := P
    hashes := H
    chainRevoked := fun hex =>
      match W.chainRevoked hex with
      | .error e => .error e
      | .ok _ => st.registry.isRevoked (rootHashBytes hex)
    chainWrite := fun write =>
      match W.chainWrite write with
      | .error e => .error e
      | .ok () =>
        match st.registry.execute ⟨wallet, registryCall H write⟩ with
        | .error message => .error message
        | .ok _ => .ok () }

/-- The registry after a call that writes to it. -/
def chainAfter (st : ReactivationState) (W : World) (credentialId : String)
    (write : String → ChainWrite) : Registry :=
  match credentialIdHex P credentialId with
  | .error _ => st.registry
  | .ok hex =>
    match W.chainWrite (write hex) with
    | .error _ => st.registry
    | .ok () => st.registry.step ⟨wallet, registryCall H (write hex)⟩

/-- A change of the ledger is announced. -/
def announce (st : ReactivationState) (next : Registry) : ReactivationState :=
  { st with registry := next, queue := st.queue ++ diffRevocation (some st.registry) next }

def mirror (st : ReactivationState) (s : MirrorStep) : ReactivationState :=
  { st with mirrors := mirrorStep st.mirrors s }

def step (st : ReactivationState) : ReactivationStep → ReactivationState
  | .revokeCredential W credentialId issuer reason =>
    (st.announce (st.chainAfter H P wallet W credentialId (.revoke · issuer (reason.getD "")))).mirror
      (.revokeCredential (st.world H P wallet W) credentialId issuer reason)
  | .suspendCredential W credentialId issuer reason =>
    (st.announce (st.chainAfter H P wallet W credentialId (.suspend · issuer (reason.getD "")))).mirror
      (.suspendCredential (st.world H P wallet W) credentialId issuer reason)
  | .reactivateCredential W credentialId =>
    match st.table.find credentialId with
    | none => st
    | some row =>
      (st.announce
        (st.chainAfter H P wallet W credentialId (.reactivate · row.issuerPublicKey))).mirror
        (.reactivateCredential (st.world H P wallet W) credentialId)
  | .checkRevocation W credentialId =>
    st.mirror (.checkRevocation (st.world H P wallet W) credentialId)
  | .verifyOnePresentation W challenge audience presentation =>
    st.mirror (.verifyOnePresentation (st.world H P wallet W) challenge audience presentation)
  | .transact tx => st.announce (st.registry.step tx)
  | .process =>
    match st.queue with
    | [] => st
    | .revocation credentialId status issuerKeyHash reason :: rest =>
      { st with queue := rest }.mirror (.handleRevocation credentialId status issuerKeyHash reason)
    | _ :: rest => { st with queue := rest }

/-- A new contract and an empty table. -/
def start (access : Access) : ReactivationState where
  registry := ⟨access, .empty, .empty, .empty, ∅, [], 0⟩
  queue := []
  mirrors := ⟨RevocationRepository.initializeCache Table.empty, ∅⟩

end ReactivationState

/-! ## The key of a row -/

/-- The issuer key stored under an id. -/
def keyOf (table : RevocationTable) (credentialId : String) : Option String :=
  (table.find credentialId).map Revocation.issuerPublicKey

/-- A row keeps the key it was created with. -/
theorem keyOf_upsert (table : RevocationTable) (new : Revocation) (id : String) :
    keyOf (table.upsert new) id =
      if id = new.credentialId then some ((keyOf table id).getD new.issuerPublicKey)
      else keyOf table id := by
  unfold RevocationTable.upsert keyOf
  cases found : table.find new.credentialId with
  | none => by_cases here : id = new.credentialId <;> simp [Table.find_insert, here, found]
  | some row =>
    have same : row.credentialId = new.credentialId := (Table.find_eq_some.mp found).2
    by_cases here : id = new.credentialId <;> simp [Table.find_insert, here, found, same]

theorem keyOf_reactivate {table table' : RevocationTable} {credentialId : String}
    (updated : table.reactivate credentialId = some table') (id : String) :
    keyOf table' id = keyOf table id := by
  obtain ⟨row, found, rfl⟩ := Option.map_eq_some_iff.mp updated
  have same : row.credentialId = credentialId := (Table.find_eq_some.mp found).2
  by_cases here : id = credentialId <;> simp [keyOf, Table.find_insert, here, found, same]

/-- If the credential is SUSPENDED, the stored key hashes to the issuer it was suspended under. -/
def KeyFits (H : Hashes) (P : Primitives) (registry : Registry) (table : RevocationTable)
    (id : String) : Prop :=
  ∀ key rootHash, keyOf table id = some key → rootHashOf P id = some rootHash →
    registry.credentialStatuses.get? rootHash = some .suspended →
    registry.credentialIssuers.get? rootHash = some (keyHashOf H key)

/-- What a new row under the id has to hold. -/
def NewKeyFits (H : Hashes) (P : Primitives) (registry : Registry) (table : RevocationTable)
    (id key : String) : Prop :=
  keyOf table id = none → ∀ rootHash, rootHashOf P id = some rootHash →
    registry.credentialStatuses.get? rootHash = some .suspended →
    registry.credentialIssuers.get? rootHash = some (keyHashOf H key)

section Keys

variable {H : Hashes} {P : Primitives} {registry next : Registry} {table : RevocationTable}
  {id : String}

theorem KeyFits.of_keyOf_eq {table' : RevocationTable} (same : keyOf table' id = keyOf table id) :
    KeyFits H P registry table' id ↔ KeyFits H P registry table id := by
  rw [KeyFits, KeyFits, same]

theorem upsert_keyFits_iff (new : Revocation) :
    KeyFits H P registry (table.upsert new) id ↔
      KeyFits H P registry table id ∧
        (new.credentialId = id → NewKeyFits H P registry table id new.issuerPublicKey) := by
  constructor
  · intro fits
    constructor
    · intro key rootHash stored
      apply fits key rootHash
      rw [keyOf_upsert, stored]
      split <;> rfl
    · intro same absent rootHash
      apply fits
      rw [keyOf_upsert, if_pos same.symm, absent]
      rfl
  · intro ⟨fits, created⟩ key rootHash stored
    rw [keyOf_upsert] at stored
    split at stored
    · rename_i here
      cases before : keyOf table id with
      | some old =>
        rw [before] at stored
        cases stored
        exact fits _ rootHash before
      | none =>
        rw [before] at stored
        cases stored
        exact created here.symm before rootHash
    · exact fits key rootHash stored

theorem keyFits_iff {rootHash : Bytes32} (names : rootHashOf P id = some rootHash) :
    KeyFits H P registry table id ↔ ∀ key, keyOf table id = some key →
      registry.credentialStatuses.get? rootHash = some .suspended →
      registry.credentialIssuers.get? rootHash = some (keyHashOf H key) := by
  constructor
  · intro fits key stored
    exact fits key rootHash stored names
  · intro fits key other stored names'
    rw [names] at names'
    cases names'
    exact fits key stored

/-- A registry that leaves the credential alone. -/
theorem keyFits_congr {rootHash : Bytes32} (names : rootHashOf P id = some rootHash)
    (status : next.credentialStatuses.get? rootHash = registry.credentialStatuses.get? rootHash)
    (issuer : next.credentialIssuers.get? rootHash = registry.credentialIssuers.get? rootHash) :
    KeyFits H P next table id ↔ KeyFits H P registry table id := by
  rw [keyFits_iff names, keyFits_iff names, status, issuer]

/-- A credential that is not suspended needs no key. -/
theorem keyFits_of_not_suspended {rootHash : Bytes32} (names : rootHashOf P id = some rootHash)
    (free : registry.credentialStatuses.get? rootHash ≠ some .suspended) :
    KeyFits H P registry table id := by
  intro key other _ names' suspended
  rw [names] at names'
  cases names'
  exact absurd suspended free

/-- What a successful call asks of the row under an id: a suspension has to be for the issuer
whose key the row holds. -/
def CallFits (H : Hashes) (P : Primitives) (table : RevocationTable) (id : String) :
    Registry.RegistryCall → Prop
  | .suspend rootHash issuerKeyHash _ => ∀ key, rootHashOf P id = some rootHash →
      keyOf table id = some key → keyHashOf H key = issuerKeyHash
  | _ => True

theorem eq_of_applied_suspend {rootHash issuerKeyHash : Bytes32} {reason : String}
    (applied : Registry.Applied registry (.suspend rootHash issuerKeyHash reason) next) :
    next = registry.marked rootHash issuerKeyHash reason .suspended := by
  cases applied
  rfl

theorem eq_of_applied_revoke {rootHash issuerKeyHash : Bytes32} {reason : String}
    (applied : Registry.Applied registry (.revoke rootHash issuerKeyHash reason) next) :
    next = registry.marked rootHash issuerKeyHash reason .revoked := by
  cases applied
  rfl

theorem applied_keyFits_iff {call : Registry.RegistryCall}
    (applied : Registry.Applied registry call next) (fits : KeyFits H P registry table id) :
    KeyFits H P next table id ↔ CallFits H P table id call := by
  cases named : rootHashOf P id with
  | none =>
    refine iff_of_true ?_ ?_
    · intro key rootHash _ names
      rw [named] at names
      cases names
    · cases call with
      | suspend rootHash issuerKeyHash reason =>
        intro key names
        rw [named] at names
        cases names
      | revoke _ _ _ | reactivate _ _ | admin _ => trivial
  | some mine =>
    cases applied with
    | @revoke rootHash issuerKeyHash reason _ _ =>
      refine iff_of_true ?_ trivial
      by_cases here : mine = rootHash
      · apply keyFits_of_not_suspended named
        simp [Registry.marked, here]
      · apply (keyFits_congr named ?_ ?_).mpr fits
        · simp [Registry.marked, here]
        · simp [Registry.marked, here]
    | @suspend rootHash issuerKeyHash reason _ _ =>
      by_cases here : mine = rootHash
      · subst here
        rw [keyFits_iff named]
        simp only [Registry.marked, LedgerMap.get?_insert, if_true, forall_const,
          Option.some.injEq]
        constructor
        · intro fits key _ stored
          exact (fits key stored).symm
        · intro fits key stored
          exact (fits key named stored).symm
      · refine iff_of_true ?_ ?_
        · apply (keyFits_congr named ?_ ?_).mpr fits
          · simp [Registry.marked, here]
          · simp [Registry.marked, here]
        · intro key names
          rw [named] at names
          exact absurd (Option.some.inj names) here
    | @reactivate rootHash issuerKeyHash _ =>
      refine iff_of_true ?_ trivial
      by_cases here : mine = rootHash
      · apply keyFits_of_not_suspended named
        simp [Registry.reactivated, here]
      · apply (keyFits_congr named ?_ ?_).mpr fits
        · simp [Registry.reactivated, here]
        · rfl
    | admin => exact iff_of_true fits trivial

end Keys

/-! ## Steps -/

section Steps

variable (H : Hashes) (P : Primitives) (wallet : ZswapCoinPublicKey)

/-- The condition on a step for the row under an id, in the state before it. -/
def StepFits (id : String) (st : ReactivationState) : ReactivationStep → Prop
  | .suspendCredential W credentialId issuer reason =>
    isOk (sidecarWrite (st.world H P wallet W) credentialId
        (.suspend · issuer (reason.getD ""))) = true →
      rootHashOf P id = rootHashOf P credentialId →
      ∀ key, keyOf st.table id = some key → keyHashOf H key = keyHashOf H issuer
  | .transact tx => isOk (st.registry.execute tx) = true → CallFits H P st.table id tx.call
  | .checkRevocation W credentialId => credentialId = id →
      isCredentialRevoked (st.world H P wallet W) id = .ok true →
      NewKeyFits H P st.registry st.table id ""
  | .verifyOnePresentation W challenge audience presentation =>
    ∀ issuerHex issuerPk verified, checkPresentation (st.world H P wallet W) challenge audience
        presentation = .ok (issuerHex, issuerPk, verified) →
      credentialId H presentation = id → st.mirrors.revocations.cache.isRevoked id = false →
      isCredentialRevoked (st.world H P wallet W) id = .ok true →
      NewKeyFits H P st.registry st.table id issuerHex
  | .process => ∀ status issuerKeyHash reason,
      st.queue.head? = some (.revocation id status issuerKeyHash reason) →
      status = "REVOKED" ∨ status = "SUSPENDED" →
      NewKeyFits H P st.registry st.table id issuerKeyHash
  -- a revoked credential is never suspended again, and reactivation creates no row
  | .revokeCredential .. | .reactivateCredential .. => True

variable {H P wallet} {st : ReactivationState} {W : World}

/-- A call reaches the registry and succeeds, or leaves it as it is. -/
theorem chainAfter_cases (st : ReactivationState) (W : World) (credentialId : String)
    (write : String → ChainWrite) :
    (st.chainAfter H P wallet W credentialId write = st.registry ∧
        isOk (sidecarWrite (st.world H P wallet W) credentialId write) = false) ∨
      ∃ hex, credentialIdHex P credentialId = .ok hex ∧
        isOk (sidecarWrite (st.world H P wallet W) credentialId write) = true ∧
        Registry.Applied st.registry (registryCall H (write hex))
          (st.chainAfter H P wallet W credentialId write) := by
  cases named : credentialIdHex P credentialId with
  | error e =>
    left
    simp [ReactivationState.chainAfter, sidecarWrite, ReactivationState.world, named, mapErr, isOk,
      bind, Except.bind]
  | ok hex =>
    cases network : W.chainWrite (write hex) with
    | error e =>
      left
      simp [ReactivationState.chainAfter, sidecarWrite, ReactivationState.world, named, network,
        mapErr, isOk, bind, Except.bind]
    | ok done =>
      cases returns : st.registry.execute ⟨wallet, registryCall H (write hex)⟩ with
      | error message =>
        left
        simp [ReactivationState.chainAfter, sidecarWrite, ReactivationState.world, named, network,
          Registry.step, returns, mapErr, isOk, bind, Except.bind]
      | ok next =>
        right
        refine ⟨hex, rfl, ?_, ?_⟩
        · simp [sidecarWrite, ReactivationState.world, named, network, returns, mapErr, isOk, bind,
            Except.bind]
        · have after : st.chainAfter H P wallet W credentialId write = next := by
            simp [ReactivationState.chainAfter, named, network, Registry.step, returns]
          rw [after]
          exact Registry.execute_applied returns

theorem suspendCredential_table (repo : RevocationRepository) (credentialId issuer : String)
    (reason : Option String) :
    (suspendCredential W repo credentialId issuer reason).2.table =
      if isOk (sidecarWrite W credentialId (.suspend · issuer (reason.getD ""))) then
        repo.table.suspend credentialId issuer reason
      else repo.table := by
  unfold suspendCredential
  cases sidecarWrite W credentialId (.suspend · issuer (reason.getD "")) <;> rfl

theorem revokeCredential_table (repo : RevocationRepository) (credentialId issuer : String)
    (reason : Option String) :
    (revokeCredential W repo credentialId issuer reason).2.table =
      if isOk (sidecarWrite W credentialId (.revoke · issuer (reason.getD ""))) then
        repo.table.revoke credentialId issuer reason none
      else repo.table := by
  unfold revokeCredential
  cases sidecarWrite W credentialId (.revoke · issuer (reason.getD "")) <;> rfl

theorem reactivateCredential_keyOf (repo : RevocationRepository) (credentialId id : String) :
    keyOf (reactivateCredential W repo credentialId).2.table id = keyOf repo.table id := by
  unfold reactivateCredential
  split
  · rfl
  · split
    · rfl
    · split
      · rename_i updated
        obtain ⟨table, reactivated, rfl⟩ := Option.map_eq_some_iff.mp updated
        exact keyOf_reactivate reactivated id
      · rfl

/-- The sync of `check_revocation` writes no row, or one without a key. -/
theorem checkRevocation_table (repo : RevocationRepository) (credentialId : String) :
    ((checkRevocation W repo credentialId).2.table = repo.table ∧
        (isCredentialRevoked W credentialId = .ok true →
          (keyOf repo.table credentialId).isSome = true)) ∨
      isCredentialRevoked W credentialId = .ok true ∧
        (checkRevocation W repo credentialId).2.table =
          repo.table.revoke credentialId "" syncReason none := by
  unfold checkRevocation
  cases named : credentialIdHex W.primitives credentialId with
  | error e =>
    left
    refine ⟨rfl, ?_⟩
    intro revoked
    simp [isCredentialRevoked, named, mapErr, bind, Except.bind] at revoked
  | ok hex =>
    dsimp only
    split
    · rename_i found
      exact .inl ⟨rfl, fun _ => by simp [keyOf, found]⟩
    · rename_i found
      exact .inl ⟨rfl, fun _ => by simp [keyOf, found]⟩
    · cases answer : isCredentialRevoked W credentialId with
      | error e =>
        left
        refine ⟨rfl, ?_⟩
        intro revoked
        cases revoked
      | ok revoked =>
        cases revoked with
        | true => exact .inr ⟨rfl, rfl⟩
        | false =>
          left
          refine ⟨rfl, ?_⟩
          intro revoked
          cases revoked

/-- The sync of verification writes no row, or one with the key of the issuer. -/
theorem verifyOnePresentation_table (mirrors : Mirrors) (challenge : String)
    (audience : Option String) (presentation : String) :
    ((verifyOnePresentation W mirrors challenge audience presentation).2.revocations.table =
        mirrors.revocations.table ∧
      ∀ issuerHex issuerPk verified,
        checkPresentation W challenge audience presentation = .ok (issuerHex, issuerPk, verified) →
        mirrors.revocations.cache.isRevoked (credentialId W.hashes presentation) = false →
        isCredentialRevoked W (credentialId W.hashes presentation) ≠ .ok true) ∨
      ∃ issuerHex issuerPk verified,
        checkPresentation W challenge audience presentation = .ok (issuerHex, issuerPk, verified) ∧
        mirrors.revocations.cache.isRevoked (credentialId W.hashes presentation) = false ∧
        isCredentialRevoked W (credentialId W.hashes presentation) = .ok true ∧
        (verifyOnePresentation W mirrors challenge audience presentation).2.revocations.table =
          mirrors.revocations.table.revoke (credentialId W.hashes presentation) issuerHex syncReason
            none := by
  unfold verifyOnePresentation
  cases checked : checkPresentation W challenge audience presentation with
  | error stop =>
    left
    refine ⟨?_, ?_⟩
    · cases stop <;> rfl
    · intro issuerHex issuerPk verified accepted
      cases accepted
  | ok result =>
    obtain ⟨issuerHex, issuerPk, verified⟩ := result
    dsimp only
    by_cases cached :
        mirrors.revocations.cache.isRevoked (credentialId W.hashes presentation) = true
    · left
      rw [if_pos cached]
      refine ⟨rfl, ?_⟩
      intro _ _ _ _ uncached
      rw [cached] at uncached
      cases uncached
    · rw [if_neg cached]
      by_cases revoked : isCredentialRevoked W (credentialId W.hashes presentation) = .ok true
      · right
        refine ⟨issuerHex, issuerPk, verified, rfl, by simpa using cached, revoked, ?_⟩
        rw [revoked]
        rfl
      · left
        refine ⟨?_, fun _ _ _ _ _ => revoked⟩
        split
        · rename_i answer
          exact absurd answer revoked
        · split <;> rfl

/-- The event feed writes no key, or a row with the hash of one. -/
theorem handleRevocation_keyFits_iff {registry : Registry} {id : String}
    (repo : RevocationRepository) (credentialId status issuerKeyHash : String)
    (reason : Option String) (fits : KeyFits H P registry repo.table id) :
    KeyFits H P registry
        (handleRevocation repo credentialId status issuerKeyHash reason).table id ↔
      (credentialId = id → status = "REVOKED" ∨ status = "SUSPENDED" →
        NewKeyFits H P registry repo.table id issuerKeyHash) := by
  have upserted : ∀ new : Revocation, KeyFits H P registry (repo.table.upsert new) id ↔
      (new.credentialId = id → NewKeyFits H P registry repo.table id new.issuerPublicKey) := by
    intro new
    rw [upsert_keyFits_iff, and_iff_right fits]
  unfold handleRevocation
  by_cases revoked : status = "REVOKED"
  · simp only [revoked, if_true, true_or, forall_const]
    exact upserted _
  · by_cases suspended : status = "SUSPENDED"
    · simp only [suspended, or_true, forall_const]
      exact upserted _
    · have neither : ¬ (status = "REVOKED" ∨ status = "SUSPENDED") := not_or.mpr ⟨revoked, suspended⟩
      refine iff_of_true ?_ fun _ either => absurd either neither
      rw [if_neg revoked, if_neg suspended]
      split
      · cases updated : repo.reactivate credentialId with
        | none => exact fits
        | some repo' =>
          obtain ⟨table, reactivated, rfl⟩ := Option.map_eq_some_iff.mp updated
          exact (KeyFits.of_keyOf_eq (keyOf_reactivate reactivated id)).mpr fits
      · exact fits

theorem suspend_keyFits_iff {id : String} (fits : KeyFits H P st.registry st.table id)
    (W : World) (credentialId issuer : String) (reason : Option String) :
    KeyFits H P
        (st.chainAfter H P wallet W credentialId (.suspend · issuer (reason.getD "")))
        (suspendCredential (st.world H P wallet W) st.mirrors.revocations credentialId issuer
          reason).2.table id ↔
      StepFits H P wallet id st (.suspendCredential W credentialId issuer reason) := by
  rw [suspendCredential_table, StepFits]
  rcases chainAfter_cases st W credentialId (.suspend · issuer (reason.getD "")) with
    ⟨unchanged, failed⟩ | ⟨hex, named, done, applied⟩
  · rw [unchanged, failed]
    exact iff_of_true fits fun done => by cases done
  · have names : rootHashOf P credentialId = some (rootHashBytes hex) := by
      rw [rootHashOf, named]
    -- a row that the call creates has the key it suspended with
    have created : credentialId = id → NewKeyFits H P
        (st.chainAfter H P wallet W credentialId (.suspend · issuer (reason.getD ""))) st.table id
        issuer := by
      intro same _ rootHash isRoot _
      rw [← same, names] at isRoot
      rw [← Option.some.inj isRoot, eq_of_applied_suspend applied]
      simp [Registry.marked]
    rw [done, if_pos rfl]
    refine (upsert_keyFits_iff _).trans ?_
    refine (and_iff_left created).trans ((applied_keyFits_iff applied fits).trans ?_)
    rw [names]
    constructor
    · intro callFits _ same key stored
      exact callFits key same stored
    · intro each key same stored
      exact each rfl same key stored

theorem revoke_keyFits {id : String} (fits : KeyFits H P st.registry st.table id)
    (W : World) (credentialId issuer : String) (reason : Option String) :
    KeyFits H P
      (st.chainAfter H P wallet W credentialId (.revoke · issuer (reason.getD "")))
      (revokeCredential (st.world H P wallet W) st.mirrors.revocations credentialId issuer
        reason).2.table id := by
  rw [revokeCredential_table]
  rcases chainAfter_cases st W credentialId (.revoke · issuer (reason.getD "")) with
    ⟨unchanged, failed⟩ | ⟨hex, named, done, applied⟩
  · rw [unchanged, failed]
    exact fits
  · have names : rootHashOf P credentialId = some (rootHashBytes hex) := by
      rw [rootHashOf, named]
    rw [done, if_pos rfl]
    refine (upsert_keyFits_iff _).mpr ⟨(applied_keyFits_iff applied fits).mpr trivial, ?_⟩
    intro same _ rootHash isRoot suspended
    have same' : credentialId = id := same
    rw [← same', names] at isRoot
    rw [← Option.some.inj isRoot, eq_of_applied_revoke applied] at suspended
    simp [Registry.marked] at suspended

theorem reactivate_keyFits {id : String} (fits : KeyFits H P st.registry st.table id)
    (W : World) (credentialId issuer : String) :
    KeyFits H P
      (st.chainAfter H P wallet W credentialId (.reactivate · issuer))
      (reactivateCredential (st.world H P wallet W) st.mirrors.revocations credentialId).2.table
      id := by
  rw [KeyFits.of_keyOf_eq (reactivateCredential_keyOf _ credentialId id)]
  rcases chainAfter_cases st W credentialId (.reactivate · issuer) with
    ⟨unchanged, _⟩ | ⟨hex, _, _, applied⟩
  · rw [unchanged]
    exact fits
  · exact (applied_keyFits_iff applied fits).mpr trivial

theorem checkRevocation_keyFits_iff {registry : Registry} {repo : RevocationRepository}
    {id : String} (fits : KeyFits H P registry repo.table id) (credentialId : String) :
    KeyFits H P registry (checkRevocation W repo credentialId).2.table id ↔
      (credentialId = id → isCredentialRevoked W id = .ok true →
        NewKeyFits H P registry repo.table id "") := by
  cases checkRevocation_table (W := W) repo credentialId with
  | inl unsynced =>
    obtain ⟨unchanged, known⟩ := unsynced
    rw [unchanged]
    refine iff_of_true fits ?_
    intro same revoked absent
    subst same
    have present := known revoked
    rw [absent] at present
    cases present
  | inr synced =>
    obtain ⟨revoked, written⟩ := synced
    rw [written]
    refine (upsert_keyFits_iff _).trans ((and_iff_right fits).trans ?_)
    constructor
    · intro created same _
      exact created same
    · intro created same
      have same' : credentialId = id := same
      exact created same (same' ▸ revoked)

theorem verifyOnePresentation_keyFits_iff {registry : Registry} {mirrors : Mirrors} {id : String}
    (fits : KeyFits H P registry mirrors.revocations.table id) (challenge : String)
    (audience : Option String) (presentation : String) :
    KeyFits H P registry
        (verifyOnePresentation W mirrors challenge audience presentation).2.revocations.table id ↔
      ∀ issuerHex issuerPk verified,
        checkPresentation W challenge audience presentation = .ok (issuerHex, issuerPk, verified) →
        credentialId W.hashes presentation = id →
        mirrors.revocations.cache.isRevoked id = false → isCredentialRevoked W id = .ok true →
        NewKeyFits H P registry mirrors.revocations.table id issuerHex := by
  cases verifyOnePresentation_table (W := W) mirrors challenge audience presentation with
  | inl notSynced =>
    obtain ⟨unchanged, unsynced⟩ := notSynced
    rw [unchanged]
    refine iff_of_true fits ?_
    intro issuerHex issuerPk verified checked same uncached revoked
    subst same
    exact absurd revoked (unsynced issuerHex issuerPk verified checked uncached)
  | inr synced =>
    obtain ⟨issuerHex, issuerPk, verified, checked, uncached, revoked, written⟩ := synced
    rw [written]
    refine (upsert_keyFits_iff _).trans ((and_iff_right fits).trans ?_)
    constructor
    · intro created _ _ _ checked' same _ _
      rw [checked] at checked'
      cases checked'
      exact created same
    · intro created same
      have same' : credentialId W.hashes presentation = id := same
      exact created issuerHex issuerPk verified checked same (same' ▸ uncached) (same' ▸ revoked)

/-- A row whose key fits still has one after a step, if and only if the step fits. -/
theorem step_keyFits_iff {id : String} (fits : KeyFits H P st.registry st.table id)
    (s : ReactivationStep) :
    KeyFits H P (st.step H P wallet s).registry (st.step H P wallet s).table id ↔
      StepFits H P wallet id st s := by
  cases s with
  | revokeCredential W credentialId issuer reason =>
    exact iff_of_true (revoke_keyFits fits W credentialId issuer reason) trivial
  | suspendCredential W credentialId issuer reason =>
    exact suspend_keyFits_iff fits W credentialId issuer reason
  | reactivateCredential W credentialId =>
    refine iff_of_true ?_ trivial
    simp only [ReactivationState.step]
    split
    · exact fits
    · exact reactivate_keyFits fits W credentialId _
  | checkRevocation W credentialId => exact checkRevocation_keyFits_iff fits credentialId
  | verifyOnePresentation W challenge audience presentation =>
    simp only [ReactivationState.step, ReactivationState.mirror, ReactivationState.table, mirrorStep,
      StepFits]
    exact verifyOnePresentation_keyFits_iff fits challenge audience presentation
  | transact tx =>
    cases returns : st.registry.execute tx with
    | error message =>
      refine iff_of_true ?_ ?_
      · show KeyFits H P (st.registry.step tx) st.table id
        rw [Registry.step_of_error returns]
        exact fits
      · intro succeeds
        rw [returns] at succeeds
        cases succeeds
    | ok next =>
      have applied := Registry.execute_applied returns
      show KeyFits H P (st.registry.step tx) st.table id ↔ _
      rw [Registry.step, returns, StepFits, returns]
      simp only [isOk, forall_const]
      exact applied_keyFits_iff applied fits
  | process =>
    simp only [ReactivationState.step, StepFits]
    split
    · rename_i empty
      refine iff_of_true fits ?_
      intro _ _ _ oldest
      rw [empty] at oldest
      cases oldest
    · rename_i credentialId status issuerKeyHash reason rest queued
      rw [queued]
      refine (handleRevocation_keyFits_iff st.mirrors.revocations credentialId status issuerKeyHash
        reason fits).trans ?_
      constructor
      · intro created status' issuerKeyHash' reason' oldest
        cases oldest
        exact created rfl
      · intro created same
        subst same
        exact created status issuerKeyHash reason rfl
    · rename_i event rest other queued
      refine iff_of_true fits ?_
      intro status issuerKeyHash reason oldest
      rw [queued] at oldest
      exact absurd (Option.some.inj oldest) (other id status issuerKeyHash reason)

end Steps

/-! ## Runs -/

section Runs

variable (H : Hashes) (P : Primitives) (wallet : ZswapCoinPublicKey) (access : Access)

/-- While the credential is SUSPENDED on chain, the key in its row passes the contract's issuer
check, and a reactivation by the owner of an unpaused contract succeeds and clears the cache. -/
structure Reactivatable (st : ReactivationState) (id : String) : Prop where
  issuer : ∀ row rootHash, st.table.find id = some row → rootHashOf P id = some rootHash →
    st.registry.credentialStatuses.get? rootHash = some .suspended →
    st.registry.credentialIssuers.get? rootHash = some (keyHashOf H row.issuerPublicKey)
  clears : ∀ row rootHash W, st.table.find id = some row → rootHashOf P id = some rootHash →
    st.registry.credentialStatuses.get? rootHash = some .suspended →
    (∀ write, W.chainWrite write = .ok ()) → st.registry.access.assertOnlyOwner wallet = .ok () →
    st.registry.access.assertNotPaused = .ok () →
    (reactivateCredential (st.world H P wallet W) st.mirrors.revocations id).1 = .ok () ∧
      (reactivateCredential (st.world H P wallet W) st.mirrors.revocations
        id).2.cache.isRevoked id = false

variable {H P wallet}

/-- A reactivation under the right issuer goes through. -/
theorem registry_reactivates {registry : Registry} {rootHash issuerKeyHash : Bytes32}
    (owner : registry.access.assertOnlyOwner wallet = .ok ())
    (unpaused : registry.access.assertNotPaused = .ok ())
    (suspended : registry.credentialStatuses.get? rootHash = some .suspended)
    (issuer : registry.credentialIssuers.get? rootHash = some issuerKeyHash) :
    registry.execute ⟨wallet, .reactivate rootHash issuerKeyHash⟩ =
      .ok (registry.reactivated rootHash) := by
  simp [Registry.execute, Registry.reactivate, owner, unpaused, LedgerMap.member, LedgerMap.lookup,
    suspended, issuer, okOr, ensure, bind, Except.bind, pure, Except.pure, Registry.reactivated]

theorem reactivatable_iff {st : ReactivationState} {id : String} :
    Reactivatable H P wallet st id ↔ KeyFits H P st.registry st.table id := by
  constructor
  · intro reactivatable key rootHash stored
    obtain ⟨row, found, rfl⟩ := Option.map_eq_some_iff.mp stored
    exact reactivatable.issuer row rootHash found
  · intro fits
    have issuer : ∀ row rootHash, st.table.find id = some row → rootHashOf P id = some rootHash →
        st.registry.credentialStatuses.get? rootHash = some .suspended →
        st.registry.credentialIssuers.get? rootHash = some (keyHashOf H row.issuerPublicKey) := by
      intro row rootHash found
      exact fits _ rootHash (by rw [keyOf, found]; rfl)
    refine ⟨issuer, ?_⟩
    intro row rootHash W found names suspended network owner unpaused
    have check := issuer row rootHash found names suspended
    have found' : st.mirrors.revocations.table.find id = some row := found
    cases named : credentialIdHex P id with
    | error e =>
      rw [rootHashOf, named] at names
      cases names
    | ok hex =>
      rw [rootHashOf, named] at names
      rw [← Option.some.inj names] at suspended check
      have accepted : st.registry.execute
          ⟨wallet, registryCall H (.reactivate hex row.issuerPublicKey)⟩ =
            .ok (st.registry.reactivated (rootHashBytes hex)) :=
        registry_reactivates owner unpaused suspended check
      have written : sidecarWrite (st.world H P wallet W) id
          (.reactivate · row.issuerPublicKey) = .ok () := by
        simp [sidecarWrite, ReactivationState.world, named, network, accepted, mapErr, bind,
          Except.bind]
      have updated : st.mirrors.revocations.reactivate id =
          some ⟨st.mirrors.revocations.table.insert { row with status := .active },
            st.mirrors.revocations.cache.remove id⟩ := by
        simp [RevocationRepository.reactivate, RevocationTable.reactivate, found']
      simp [reactivateCredential, found', written, updated]

variable (H P wallet)

def reactivationRun (steps : List ReactivationStep) : ReactivationState :=
  Runs.run (ReactivationState.step H P wallet) (ReactivationState.start access) steps

/-- Along every run and for every spelling of a credential's id: while the credential is SUSPENDED
its row lets it be reactivated, if and only if a suspension finds no row under the id whose key is
another issuer's, and a row is created under the id while the credential is SUSPENDED only with a
key of the issuer it was suspended under. -/
theorem suspended_stays_reactivatable_iff (id : String) (steps : List ReactivationStep) :
    (∀ past, past <+: steps →
        Reactivatable H P wallet (reactivationRun H P wallet access past) id) ↔
      ∀ past next, past ++ [next] <+: steps →
        StepFits H P wallet id (reactivationRun H P wallet access past) next := by
  have stepped : ∀ past next, reactivationRun H P wallet access (past ++ [next]) =
      (reactivationRun H P wallet access past).step H P wallet next :=
    fun past next => Runs.run_concat _ _ past next
  constructor
  · intro reactivatable past next reached
    have before := reactivatable_iff.mp
      (reactivatable past ((List.prefix_append _ _).trans reached))
    have after := reactivatable_iff.mp (reactivatable _ reached)
    rw [stepped] at after
    exact (step_keyFits_iff before next).mp after
  · intro each
    simp only [reactivatable_iff]
    refine Runs.reached_induction (fun key rootHash stored => ?_) fun past next reached before => ?_
    · cases stored
    · rw [stepped]
      exact (step_keyFits_iff before next).mpr (each past next reached)

end Runs

/-! ## Two rows for one credential -/

def sampleRoot : Bytes32 := padBytes [7]

/-- The credential is suspended over the API by its base64url id; the event of the chain then
creates a second row under the hex id. -/
def sampleReactivation : List ReactivationStep :=
  [.suspendCredential (sampleWorld 1750000000) "BwAAAAAAAAAAAAAAAAAAAAAAAAAAAAAAAAAAAAAAAAA"
      sampleKey (some "lost device"), .process]

theorem event_row_blocks_reactivation :
    (reactivationRun sampleHashes (samplePrimitives []) sampleOwner sampleAccess
        sampleReactivation).registry.credentialStatuses.get? sampleRoot = some .suspended ∧
      keyOf (reactivationRun sampleHashes (samplePrimitives []) sampleOwner sampleAccess
        sampleReactivation).table (bytesHex sampleRoot) =
          some (bytesHex (keyHashOf sampleHashes sampleKey)) ∧
      ¬ Reactivatable sampleHashes (samplePrimitives []) sampleOwner
        (reactivationRun sampleHashes (samplePrimitives []) sampleOwner sampleAccess
          sampleReactivation) (bytesHex sampleRoot) := by
  generalize ends : reactivationRun sampleHashes (samplePrimitives []) sampleOwner sampleAccess
    sampleReactivation = st
  have facts : st.registry.credentialStatuses.get? sampleRoot = some .suspended ∧
      st.registry.credentialIssuers.get? sampleRoot = some (keyHashOf sampleHashes sampleKey) ∧
      keyOf st.table (bytesHex sampleRoot) =
        some (bytesHex (keyHashOf sampleHashes sampleKey)) := by
    rw [← ends]
    decide +kernel
  obtain ⟨suspended, issuer, stored⟩ := facts
  refine ⟨suspended, stored, ?_⟩
  rw [reactivatable_iff]
  intro fits
  have check := fits _ sampleRoot stored (by decide) suspended
  rw [issuer] at check
  exact absurd (Option.some.inj check) (by decide +kernel)

end OwlId.Verification
