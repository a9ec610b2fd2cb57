import Mathlib
import OwlId.Lib.Writes
import OwlId.Sidecar.Events
import OwlId.Verification.RevocationMirror

/-! # The mirror of the chain's events

`handle` applies one event to the local tables: trusted issuers by public key,
revocations by credential id, and the attested keys.  Each event sets at most one
value of the view the verifier has of the tables (`view_handle`), so a stream of
events is a list of point writes.
-/

namespace OwlId.Verification

open OwlId.Lib OwlId.Lib.Writes OwlId.Sidecar

/-! ## Trusted issuers -/

structure TrustedIssuer where
  publicKey : String
  name : String
  description : Option String
  issuerUrl : Option String
  addedBy : Option String
  isActive : Bool
deriving DecidableEq

abbrev IssuerTable := Table TrustedIssuer.publicKey

namespace IssuerTable

/-- `INSERT … ON CONFLICT DO UPDATE`: an upsert makes the row active. -/
def add (table : IssuerTable) (publicKey name : String)
    (description issuerUrl addedBy : Option String) : IssuerTable :=
  table.insert ⟨publicKey, name, description, issuerUrl, addedBy, true⟩

def getByPublicKey (table : IssuerTable) (publicKey : String) : Option TrustedIssuer :=
  table.find publicKey

/-- The active rows. -/
def list (table : IssuerTable) : List TrustedIssuer :=
  table.rows.filter TrustedIssuer.isActive

def updateStatus (table : IssuerTable) (issuer : TrustedIssuer) (isActive : Bool) : IssuerTable :=
  table.insert { issuer with isActive }

/-- Whether the row under exactly this key is there and active. -/
def isTrusted (table : IssuerTable) (publicKey : String) : Bool :=
  match table.find publicKey with
  | some issuer => issuer.isActive
  | none => false

theorem isTrusted_add (table : IssuerTable) (publicKey name : String)
    (description issuerUrl addedBy : Option String) (key : String) :
    (table.add publicKey name description issuerUrl addedBy).isTrusted key =
      (decide (key = publicKey) || table.isTrusted key) := by
  by_cases here : key = publicKey <;> simp [isTrusted, add, Table.find_insert, here]

theorem isTrusted_updateStatus {table : IssuerTable} {issuer : TrustedIssuer} {publicKey : String}
    (found : table.getByPublicKey publicKey = some issuer) (isActive : Bool) (key : String) :
    (table.updateStatus issuer isActive).isTrusted key =
      if key = publicKey then isActive else table.isTrusted key := by
  have same : issuer.publicKey = publicKey := (Table.find_eq_some.mp found).2
  by_cases here : key = publicKey <;> simp [isTrusted, updateStatus, Table.find_insert, same, here]

end IssuerTable

/-! ## Events -/

structure Replica where
  revocations : RevocationRepository
  issuers : IssuerTable
  attestations : Finset String

/-- An `Issuer` event, whose name fits its column; one that deactivates an unknown issuer changes
    nothing. -/
def handleIssuer (issuers : IssuerTable) (publicKey status name : String) : IssuerTable :=
  if status = "ACTIVE" then issuers.add publicKey name none none none
  else if status = "DEACTIVATED" ∨ status = "INACTIVE" then
    match issuers.getByPublicKey publicKey with
    | some issuer => issuers.updateStatus issuer false
    | none => issuers
  else issuers

def handle (replica : Replica) : SidecarEvent → Replica
  | .revocation credentialId status issuerKeyHash reason =>
    { replica with
      revocations :=
        handleRevocation replica.revocations credentialId status issuerKeyHash reason }
  | .issuer _ status publicKey name =>
    { replica with issuers := handleIssuer replica.issuers publicKey status name }
  | .attestation attestKey =>
    { replica with attestations := insert attestKey replica.attestations }

/-- No row in any table. -/
def Replica.empty : Replica where
  revocations := RevocationRepository.initializeCache Table.empty
  issuers := Table.empty
  attestations := ∅

/-! ## The view -/

/-- What the verifier reads off the tables; a credential without a row is active. -/
structure View where
  trusted : String → Bool
  status : String → RevocationStatus
  attested : String → Bool

def RevocationTable.statusOf (table : RevocationTable) (credentialId : String) :
    RevocationStatus :=
  match table.find credentialId with
  | some row => row.status
  | none => .active

def Replica.view (replica : Replica) : View where
  trusted := replica.issuers.isTrusted
  status := replica.revocations.table.statusOf
  attested key := decide (key ∈ replica.attestations)

theorem RevocationTable.blocks_eq (table : RevocationTable) (id : String) :
    table.blocks id = (table.statusOf id).isBlocking := by
  unfold blocks statusOf
  cases table.find id with
  | none => rfl
  | some row => rfl

theorem RevocationTable.statusOf_upsert (table : RevocationTable) (new : Revocation) :
    (table.upsert new).statusOf = write table.statusOf (new.credentialId, new.status) := by
  funext id
  unfold upsert
  cases found : table.find new.credentialId with
  | none =>
    by_cases here : id = new.credentialId <;> simp [statusOf, write, Table.find_insert, here]
  | some row =>
    have same : row.credentialId = new.credentialId := (Table.find_eq_some.mp found).2
    by_cases here : id = new.credentialId <;>
      simp [statusOf, write, Table.find_insert, same, here]

/-- Reactivating, or finding no row to reactivate, leaves the credential active. -/
theorem RevocationTable.statusOf_reactivate (table : RevocationTable) (credentialId : String) :
    ((table.reactivate credentialId).getD table).statusOf =
      write table.statusOf (credentialId, .active) := by
  funext id
  unfold reactivate
  cases found : table.find credentialId with
  | none =>
    by_cases here : id = credentialId
    · simp [statusOf, write, found, here]
    · simp [write, here]
  | some row =>
    have same : row.credentialId = credentialId := (Table.find_eq_some.mp found).2
    by_cases here : id = credentialId <;>
      simp [statusOf, write, Table.find_insert, same, here]

/-! ## Events as writes -/

def issuerWrite : SidecarEvent → Option (String × Bool)
  | .issuer _ status publicKey _ =>
    if status = "ACTIVE" then some (publicKey, true)
    else if status = "DEACTIVATED" ∨ status = "INACTIVE" then some (publicKey, false)
    else none
  | _ => none

def revocationWrite : SidecarEvent → Option (String × RevocationStatus)
  | .revocation credentialId status _ _ =>
    if status = "REVOKED" then some (credentialId, .revoked)
    else if status = "SUSPENDED" then some (credentialId, .suspended)
    else if status = "ACTIVE" then some (credentialId, .active)
    else none
  | _ => none

def attestationWrite : SidecarEvent → Option (String × Bool)
  | .attestation attestKey => some (attestKey, true)
  | _ => none

theorem trusted_handle (replica : Replica) (event : SidecarEvent) :
    (handle replica event).view.trusted =
      writeAll replica.view.trusted (issuerWrite event).toList := by
  cases event with
  | revocation credentialId status issuerKeyHash reason => rfl
  | attestation attestKey => rfl
  | issuer publicKeyHash status publicKey name =>
    funext key
    simp only [handle, Replica.view, handleIssuer, issuerWrite]
    by_cases active : status = "ACTIVE"
    · by_cases here : key = publicKey <;> simp [active, IssuerTable.isTrusted_add, write, here]
    · by_cases gone : status = "DEACTIVATED" ∨ status = "INACTIVE"
      · simp only [active, if_false, gone, if_true, Option.toList_some, writeAll_cons, writeAll_nil]
        cases found : replica.issuers.getByPublicKey publicKey with
        | some issuer =>
          by_cases here : key = publicKey <;>
            simp [IssuerTable.isTrusted_updateStatus found, write, here]
        | none =>
          -- an issuer without a row is not trusted
          have absent : replica.issuers.find publicKey = none := found
          by_cases here : key = publicKey <;> simp [IssuerTable.isTrusted, write, absent, here]
      · simp [active, gone]

theorem status_handleRevocation (repo : RevocationRepository)
    (credentialId status issuerKeyHash : String) (reason : Option String) :
    (handleRevocation repo credentialId status issuerKeyHash reason).table.statusOf =
      writeAll repo.table.statusOf
        (revocationWrite (.revocation credentialId status issuerKeyHash reason)).toList := by
  unfold handleRevocation revocationWrite
  by_cases revoked : status = "REVOKED"
  · simp only [revoked, if_true]
    exact RevocationTable.statusOf_upsert _ _
  · by_cases suspended : status = "SUSPENDED"
    · simp only [suspended, if_true]
      exact RevocationTable.statusOf_upsert _ _
    · by_cases active : status = "ACTIVE"
      · have reactivated := RevocationTable.statusOf_reactivate repo.table credentialId
        simp only [active, if_true]
        cases updated : repo.table.reactivate credentialId with
        | none => simpa [RevocationRepository.reactivate, updated] using reactivated
        | some table => simpa [RevocationRepository.reactivate, updated] using reactivated
      · simp [revoked, suspended, active]

theorem status_handle (replica : Replica) (event : SidecarEvent) :
    (handle replica event).view.status =
      writeAll replica.view.status (revocationWrite event).toList := by
  cases event with
  | issuer publicKeyHash status publicKey name => rfl
  | attestation attestKey => rfl
  | revocation credentialId status issuerKeyHash reason =>
    exact status_handleRevocation replica.revocations credentialId status issuerKeyHash reason

theorem attested_handle (replica : Replica) (event : SidecarEvent) :
    (handle replica event).view.attested =
      writeAll replica.view.attested (attestationWrite event).toList := by
  cases event with
  | issuer publicKeyHash status publicKey name => rfl
  | revocation credentialId status issuerKeyHash reason => rfl
  | attestation attestKey =>
    funext key
    by_cases here : key = attestKey <;>
      simp [handle, Replica.view, attestationWrite, write, here]

theorem handle_coherent {replica : Replica} (coherent : replica.revocations.Coherent)
    (event : SidecarEvent) : (handle replica event).revocations.Coherent := by
  cases event with
  | issuer publicKeyHash status publicKey name => exact coherent
  | attestation attestKey => exact coherent
  | revocation credentialId status issuerKeyHash reason =>
    exact (handleRevocation_applies coherent credentialId status issuerKeyHash reason).coherent

/-! ## Streams of events -/

def handleAll (replica : Replica) (events : List SidecarEvent) : Replica :=
  events.foldl handle replica

/-- The view after a stream of events: the writes of each kind, in order. -/
theorem view_handleAll (replica : Replica) (events : List SidecarEvent) :
    (handleAll replica events).view =
      ⟨writeAll replica.view.trusted (events.filterMap issuerWrite),
       writeAll replica.view.status (events.filterMap revocationWrite),
       writeAll replica.view.attested (events.filterMap attestationWrite)⟩ := by
  have trusted := observe_foldl (fun r : Replica => r.view.trusted) trusted_handle events replica
  have status := observe_foldl (fun r : Replica => r.view.status) status_handle events replica
  have attested := observe_foldl (fun r : Replica => r.view.attested) attested_handle events replica
  rw [handleAll, ← trusted, ← status, ← attested]

theorem handleAll_coherent {replica : Replica} (coherent : replica.revocations.Coherent)
    (events : List SidecarEvent) : (handleAll replica events).revocations.Coherent := by
  induction events generalizing replica with
  | nil => exact coherent
  | cons event rest ih => exact ih (handle_coherent coherent event)

end OwlId.Verification
