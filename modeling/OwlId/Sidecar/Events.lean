import Mathlib
import OwlId.Contracts.IssuerRegistry
import OwlId.Contracts.RevocationRegistry
import OwlId.Lib.Encodings

/-! # Chain events

The sidecar keeps a copy of each contract's ledger and turns it into events: a
snapshot lists every entry of one ledger, a diff lists what changed between two.
The three contracts are handled by three functions that do not treat an entry that
is gone in the same way.
-/

namespace OwlId.Sidecar

open OwlId.Lib OwlId.Contracts

inductive SidecarEvent where
  | issuer (publicKeyHash status publicKey name : String)
  | revocation (rootHash status issuerKeyHash : String) (reason : Option String)
  | attestation (attestKey : String)
deriving DecidableEq

def bytesHex (bytes : Bytes32) : String := hexEncode bytes.toList

theorem bytesHex_injective : Function.Injective bytesHex := by
  intro a b same
  have decoded := congrArg hexDecode same
  simpa [bytesHex, Vector.toList_inj] using decoded

@[simp] theorem bytesHex_inj {a b : Bytes32} : bytesHex a = bytesHex b ↔ a = b :=
  bytesHex_injective.eq_iff

def issuerStatusName : IssuerStatus → String
  | .active => "ACTIVE"
  | .deactivated => "DEACTIVATED"
  | .inactive => "INACTIVE"

def credStatusName : CredentialStatus → String
  | .revoked => "REVOKED"
  | .suspended => "SUSPENDED"
  | .active => "ACTIVE"

/-! ## Entries -/

/-- The event of an entry of the issuer ledger. -/
def issuerEvent (ledger : Issuers) (keyHash : Bytes32) (status : IssuerStatus) : SidecarEvent :=
  .issuer (bytesHex keyHash) (issuerStatusName status)
    (bytesHex ((ledger.issuerKeys.get? keyHash).getD zero32))
    ((ledger.issuerNames.get? keyHash).getD "")

/-- The event of an entry of the revocation ledger. -/
def revocationEvent (ledger : Registry) (rootHash : Bytes32) (status : CredentialStatus) :
    SidecarEvent :=
  .revocation (bytesHex rootHash) (credStatusName status)
    (bytesHex ((ledger.credentialIssuers.get? rootHash).getD zero32))
    (ledger.credentialReasons.get? rootHash)

/-! ## Snapshots -/

def snapshotIssuers (ledger : Issuers) : List SidecarEvent :=
  ledger.issuerStatuses.rows.map fun entry => issuerEvent ledger entry.1 entry.2

def snapshotRevocations (ledger : Registry) : List SidecarEvent :=
  ledger.credentialStatuses.rows.map fun entry => revocationEvent ledger entry.1 entry.2

/-- The keys of an attestation set, in the order the set iterates. -/
def snapshotAttestations (attestations : List Bytes32) : List SidecarEvent :=
  attestations.map fun key => .attestation (bytesHex key)

/-! ## Diffs -/

/-- Entries whose status changed. -/
def diffIssuer (prev : Option Issuers) (next : Issuers) : List SidecarEvent :=
  (next.issuerStatuses.rows.filter fun entry =>
      (prev.bind fun ledger => ledger.issuerStatuses.get? entry.1) ≠ some entry.2).map
    fun entry => issuerEvent next entry.1 entry.2

/-- A credential that is gone from the ledger. -/
def removedEvent (rootHash : Bytes32) : SidecarEvent :=
  .revocation (bytesHex rootHash) "ACTIVE" (bytesHex zero32) none

/-- Entries whose status changed, and those that are gone. -/
def diffRevocation (prev : Option Registry) (next : Registry) : List SidecarEvent :=
  let seen := next.credentialStatuses.rows.map fun entry => bytesHex entry.1
  ((next.credentialStatuses.rows.filter fun entry =>
      (prev.bind fun ledger => ledger.credentialStatuses.get? entry.1) ≠ some entry.2).map
    fun entry => revocationEvent next entry.1 entry.2) ++
  match prev with
  | none => []
  | some ledger =>
    (ledger.credentialStatuses.rows.filter fun entry => bytesHex entry.1 ∉ seen).map
      fun entry => removedEvent entry.1

/-- Keys that are new. -/
def diffPredicate (prev : Option (List Bytes32)) (next : List Bytes32) : List SidecarEvent :=
  let before := ((prev.getD []).map bytesHex).toFinset
  (next.filter fun key => bytesHex key ∉ before).map fun key => .attestation (bytesHex key)

end OwlId.Sidecar
