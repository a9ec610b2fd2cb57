import Mathlib
import OwlId.ProofSystem.Json
import OwlId.Verification.Revocations

/-! # Erasure of an owner's data

The handler sends a query for the owner's active credentials, one revocation for each of
them and a bulk update, with no transaction around them.  It goes on when a statement
fails: a failed query finds no credential, a failed revocation is counted all the same, and
the update runs whatever came before.

`gdprErasure_truthful_iff` says when the receipt is true and no credential is put away
unrevoked, in terms of the statements that fail and the rows before the call.
-/

namespace OwlId.Verification

open OwlId.Lib OwlId.ProofSystem

/-! ## Issued credentials -/

structure IssuedCredential where
  credentialId : String
  issuerPublicKey : String
  ownerPublicKey : String
  credentialData : Json
  isActive : Bool
  metadata : Option Json

abbrev IssuedCredentials := Table IssuedCredential.credentialId

/-- What the update leaves of a credential's data. -/
def anonymizedData : Json := .object [("anonymized", .bool true)]

/-- `jsonb_set(COALESCE(metadata, '{}'), '{gdpr_erased}', 'true')`, which sets a field of an
object; of any other value the statement fails. -/
def gdprErased (metadata : Option Json) : Json :=
  match metadata.getD (.object []) with
  | .object fields => .object (Json.insertField "gdpr_erased" (.bool true) fields)
  | other => other

def IssuedCredential.anonymize (cred : IssuedCredential) : IssuedCredential :=
  { cred with
    credentialData := anonymizedData
    metadata := some (gdprErased cred.metadata)
    isActive := false }

namespace IssuedCredentials

/-- The query: the owner's active credentials. -/
def activeOf (table : IssuedCredentials) (ownerPublicKey : String) : List IssuedCredential :=
  table.rows.filter fun cred => cred.ownerPublicKey = ownerPublicKey ∧ cred.isActive = true

def ofOwner (table : IssuedCredentials) (ownerPublicKey : String) : List IssuedCredential :=
  table.rows.filter fun cred => cred.ownerPublicKey = ownerPublicKey

/-- The update, of every credential of the owner, active or not. -/
def anonymizeOwner (table : IssuedCredentials) (ownerPublicKey : String) : IssuedCredentials where
  rows := table.rows.map fun cred =>
    if cred.ownerPublicKey = ownerPublicKey then cred.anonymize else cred
  unique := by
    have keys : (table.rows.map fun cred =>
        if cred.ownerPublicKey = ownerPublicKey then cred.anonymize else cred).map
          IssuedCredential.credentialId = table.rows.map IssuedCredential.credentialId := by
      rw [List.map_map]
      apply List.map_congr_left
      intro cred _
      show (if cred.ownerPublicKey = ownerPublicKey then cred.anonymize else cred).credentialId = _
      split <;> rfl
    rw [keys]
    exact table.unique

theorem mem_activeOf {table : IssuedCredentials} {owner : String} {cred : IssuedCredential} :
    cred ∈ table.activeOf owner ↔
      cred ∈ table.rows ∧ cred.ownerPublicKey = owner ∧ cred.isActive = true := by
  simp [activeOf]

theorem mem_ofOwner {table : IssuedCredentials} {owner : String} {cred : IssuedCredential} :
    cred ∈ table.ofOwner owner ↔ cred ∈ table.rows ∧ cred.ownerPublicKey = owner := by
  simp [ofOwner]

/-- The update anonymises the owner's credentials, and makes no others theirs. -/
theorem mem_ofOwner_anonymizeOwner {table : IssuedCredentials} {owner : String}
    {after : IssuedCredential} :
    after ∈ (table.anonymizeOwner owner).ofOwner owner ↔
      ∃ cred ∈ table.ofOwner owner, cred.anonymize = after := by
  rw [mem_ofOwner, anonymizeOwner, List.mem_map]
  constructor
  · intro ⟨⟨cred, member, built⟩, owned⟩
    by_cases theirs : cred.ownerPublicKey = owner
    · rw [if_pos theirs] at built
      exact ⟨cred, mem_ofOwner.mpr ⟨member, theirs⟩, built⟩
    · rw [if_neg theirs] at built
      exact absurd (built ▸ owned) theirs
  · intro ⟨cred, member, built⟩
    have ⟨row, theirs⟩ := mem_ofOwner.mp member
    exact ⟨⟨cred, row, by rw [if_pos theirs, built]⟩, by rw [← built]; exact theirs⟩

end IssuedCredentials

/-! ## Statements that fail -/

/-- What becomes of a statement.  A statement whose answer is lost has been executed, and the
handler cannot tell it from one that has failed. -/
inductive StatementFate where
  | answered
  | answerLost
  | failed
deriving DecidableEq

def StatementFate.takesEffect : StatementFate → Bool
  | .answered | .answerLost => true
  | .failed => false

/-- The statements of one call: whether the query is answered, and what becomes of the
revocation of each credential and of the update. -/
structure ErasureStatements where
  queryAnswered : Bool
  revocation : String → StatementFate
  update : StatementFate

/-- One revocation; the cache is updated once the database has answered. -/
def RevocationRepository.revokeUnder (repo : RevocationRepository) (fate : StatementFate)
    (credentialId issuerPublicKey : String) (reason : Option String) (expiresAt : Option Int) :
    RevocationRepository :=
  match fate with
  | .answered => repo.revoke credentialId issuerPublicKey reason expiresAt
  | .answerLost =>
    { repo with table := repo.table.revoke credentialId issuerPublicKey reason expiresAt }
  | .failed => repo

/-- Whether the table records the credential as revoked. -/
def RevocationTable.Records (table : RevocationTable) (credentialId : String) : Prop :=
  ∃ row, table.find credentialId = some row ∧ row.status = .revoked

theorem RevocationTable.records_revoke (table : RevocationTable)
    (credentialId issuer : String) (reason : Option String) (expiresAt : Option Int)
    (id : String) :
    (table.revoke credentialId issuer reason expiresAt).Records id ↔
      id = credentialId ∨ table.Records id := by
  rw [Records, revoke, upsert]
  cases found : table.find credentialId with
  | none =>
    by_cases here : id = credentialId
    · simp [Table.find_insert, here]
    · simp [Table.find_insert, here, Records]
  | some row =>
    have same : row.credentialId = credentialId := (Table.find_eq_some.mp found).2
    by_cases here : id = credentialId
    · simp [Table.find_insert, same, here]
    · simp [Table.find_insert, same, here, Records]

theorem RevocationRepository.records_revokeUnder (repo : RevocationRepository)
    (fate : StatementFate) (credentialId issuer : String) (reason : Option String)
    (expiresAt : Option Int) (id : String) :
    (repo.revokeUnder fate credentialId issuer reason expiresAt).table.Records id ↔
      (id = credentialId ∧ fate.takesEffect = true) ∨ repo.table.Records id := by
  cases fate with
  | answered =>
    show (repo.table.revoke credentialId issuer reason expiresAt).Records id ↔ _
    simp [RevocationTable.records_revoke, StatementFate.takesEffect]
  | answerLost =>
    show (repo.table.revoke credentialId issuer reason expiresAt).Records id ↔ _
    simp [RevocationTable.records_revoke, StatementFate.takesEffect]
  | failed =>
    show repo.table.Records id ↔ _
    simp [StatementFate.takesEffect]

/-! ## The handler -/

structure ErasureReceipt where
  ownerPublicKey : String
  credentialsRevoked : UInt32
  recordsAnonymized : UInt32
  erasedAt : String
  receiptId : String
deriving DecidableEq

structure ErasureState where
  credentials : IssuedCredentials
  revocations : RevocationRepository

/-- The credentials the handler goes through: none when the query fails. -/
def credentialsFound (db : ErasureStatements) (state : ErasureState) (ownerPublicKey : String) :
    List IssuedCredential :=
  if db.queryAnswered then state.credentials.activeOf ownerPublicKey else []

/-- The loop over the credentials, which counts every one of them in 32 bits. -/
def revokeEach (db : ErasureStatements) : List IssuedCredential → RevocationRepository → UInt32 →
    RevocationRepository × UInt32
  | [], repo, credentialsRevoked => (repo, credentialsRevoked)
  | cred :: credentials, repo, credentialsRevoked =>
    revokeEach db credentials
      (repo.revokeUnder (db.revocation cred.credentialId) cred.credentialId cred.issuerPublicKey
        (some "GDPR right-to-erasure") none)
      (credentialsRevoked + 1)

/-- The update, and the count of records in the receipt. -/
def anonymizeRecords (db : ErasureStatements) (credentials : IssuedCredentials)
    (ownerPublicKey : String) : IssuedCredentials × UInt32 :=
  match db.update with
  | .answered =>
    (credentials.anonymizeOwner ownerPublicKey,
      UInt32.ofNat (credentials.ofOwner ownerPublicKey).length)
  | .answerLost => (credentials.anonymizeOwner ownerPublicKey, 0)
  | .failed => (credentials, 0)

/-- No statement's error reaches the caller, so that every call is answered by a receipt. -/
def gdprErasure (db : ErasureStatements) (state : ErasureState)
    (ownerPublicKey erasedAt receiptId : String) : ErasureReceipt × ErasureState :=
  let credentials := credentialsFound db state ownerPublicKey
  let (revocations, credentialsRevoked) := revokeEach db credentials state.revocations 0
  let (anonymized, recordsAnonymized) :=
    anonymizeRecords db state.credentials ownerPublicKey
  (⟨ownerPublicKey, credentialsRevoked, recordsAnonymized, erasedAt, receiptId⟩,
    ⟨anonymized, revocations⟩)

/-! ## What the loop does -/

theorem revokeEach_count (db : ErasureStatements) (credentials : List IssuedCredential)
    (repo : RevocationRepository) (count : UInt32) :
    (revokeEach db credentials repo count).2 = count + UInt32.ofNat credentials.length := by
  induction credentials generalizing repo count with
  | nil => simp [revokeEach]
  | cons cred rest ih =>
    rw [revokeEach, ih, List.length_cons, UInt32.ofNat_add, UInt32.add_assoc,
      UInt32.add_comm (UInt32.ofNat rest.length)]
    rfl

/-- After the loop a credential is recorded as revoked when it was before, or when it is one
of those gone through and its own statement took effect. -/
theorem revokeEach_records (db : ErasureStatements) (credentials : List IssuedCredential)
    (repo : RevocationRepository) (count : UInt32) (id : String) :
    (revokeEach db credentials repo count).1.table.Records id ↔
      repo.table.Records id ∨
        ∃ cred ∈ credentials, cred.credentialId = id ∧ (db.revocation id).takesEffect = true := by
  induction credentials generalizing repo count with
  | nil => simp [revokeEach]
  | cons cred rest ih =>
    rw [revokeEach, ih, RevocationRepository.records_revokeUnder]
    simp only [List.mem_cons, exists_eq_or_imp]
    constructor
    · intro recorded
      rcases recorded with (⟨here, effect⟩ | before) | later
      · exact .inr (.inl ⟨here.symm, by rw [here]; exact effect⟩)
      · exact .inl before
      · exact .inr (.inr later)
    · intro recorded
      rcases recorded with before | ⟨here, effect⟩ | later
      · exact .inl (.inr before)
      · exact .inl (.inl ⟨here.symm, by rw [here]; exact effect⟩)
      · exact .inr later

/-! ## A truthful erasure -/

/-- The credentials of the owner that the call records as revoked. -/
def recordedByCall (db : ErasureStatements) (state : ErasureState) (ownerPublicKey : String) :
    List IssuedCredential :=
  (credentialsFound db state ownerPublicKey).filter fun cred =>
    (db.revocation cred.credentialId).takesEffect

/-- A credential that is no longer in use or whose data are gone. -/
def IssuedCredential.PutAway (cred : IssuedCredential) : Prop :=
  cred.isActive = false ∨ cred.credentialData = anonymizedData

/-- The receipt counts the credentials the call has recorded as revoked, and afterwards every
credential of the owner that is put away is recorded as revoked. -/
structure TruthfulErasure (db : ErasureStatements) (before : ErasureState)
    (ownerPublicKey : String) (receipt : ErasureReceipt) (after : ErasureState) : Prop where
  counted : receipt.credentialsRevoked.toNat = (recordedByCall db before ownerPublicKey).length
  revoked : ∀ cred ∈ after.credentials.ofOwner ownerPublicKey, cred.PutAway →
    after.revocations.table.Records cred.credentialId

/-- The revocations that fail are none, or as many as a counter of 32 bits has lost; and each
credential that the update reaches, or that is put away already, is recorded as revoked before
or is found active by the query and revoked by a statement that takes effect. -/
structure ErasesFully (db : ErasureStatements) (before : ErasureState)
    (ownerPublicKey : String) : Prop where
  noneLost :
    ((credentialsFound db before ownerPublicKey).filter fun cred =>
      !(db.revocation cred.credentialId).takesEffect).length =
        2 ^ 32 * ((credentialsFound db before ownerPublicKey).length / 2 ^ 32)
  noneHidden : ∀ cred ∈ before.credentials.ofOwner ownerPublicKey,
    db.update.takesEffect = true ∨ cred.PutAway →
      before.revocations.table.Records cred.credentialId ∨
        (db.queryAnswered = true ∧ cred.isActive = true ∧
          (db.revocation cred.credentialId).takesEffect = true)

theorem counted_iff {α : Type} (credentials : List α) (effective : α → Bool) :
    credentials.length % 2 ^ 32 = (credentials.filter effective).length ↔
      (credentials.filter fun cred => !effective cred).length =
        2 ^ 32 * (credentials.length / 2 ^ 32) := by
  have parts := List.length_eq_length_filter_add (l := credentials) effective
  omega

/-- An active credential of the owner is the one the query finds under its id. -/
theorem exists_credentialsFound {db : ErasureStatements} {state : ErasureState} {owner : String}
    {cred : IssuedCredential} (member : cred ∈ state.credentials.ofOwner owner) :
    (∃ found ∈ credentialsFound db state owner, found.credentialId = cred.credentialId ∧
        (db.revocation cred.credentialId).takesEffect = true) ↔
      db.queryAnswered = true ∧ cred.isActive = true ∧
        (db.revocation cred.credentialId).takesEffect = true := by
  have ⟨row, owned⟩ := IssuedCredentials.mem_ofOwner.mp member
  rw [credentialsFound]
  cases db.queryAnswered with
  | false => simp
  | true =>
    simp only [if_true, IssuedCredentials.mem_activeOf, true_and]
    constructor
    · intro ⟨found, ⟨foundRow, _, active⟩, same, effect⟩
      have one : found = cred :=
        List.inj_on_of_nodup_map state.credentials.unique foundRow row same
      exact ⟨one ▸ active, effect⟩
    · intro ⟨active, effect⟩
      exact ⟨cred, ⟨row, owned, active⟩, rfl, effect⟩

variable (db : ErasureStatements) (before : ErasureState) (owner erasedAt receiptId : String)

theorem gdprErasure_records {cred : IssuedCredential}
    (member : cred ∈ before.credentials.ofOwner owner) :
    (gdprErasure db before owner erasedAt receiptId).2.revocations.table.Records
        cred.credentialId ↔
      before.revocations.table.Records cred.credentialId ∨
        (db.queryAnswered = true ∧ cred.isActive = true ∧
          (db.revocation cred.credentialId).takesEffect = true) := by
  show (revokeEach db _ before.revocations 0).1.table.Records _ ↔ _
  rw [revokeEach_records, exists_credentialsFound member]

/-- The credentials put away after the call, by the ones they were before it. -/
theorem forall_putAway_iff (p : String → Prop) :
    (∀ cred ∈ (gdprErasure db before owner erasedAt receiptId).2.credentials.ofOwner owner,
        cred.PutAway → p cred.credentialId) ↔
      ∀ cred ∈ before.credentials.ofOwner owner,
        db.update.takesEffect = true ∨ cred.PutAway → p cred.credentialId := by
  have updated :
      (∀ cred ∈ (before.credentials.anonymizeOwner owner).ofOwner owner,
          cred.PutAway → p cred.credentialId) ↔
        ∀ cred ∈ before.credentials.ofOwner owner, p cred.credentialId := by
    constructor
    · intro after cred member
      have moved : cred.anonymize ∈ (before.credentials.anonymizeOwner owner).ofOwner owner :=
        IssuedCredentials.mem_ofOwner_anonymizeOwner.mpr ⟨cred, member, rfl⟩
      exact after cred.anonymize moved (.inl rfl)
    · intro all after member _
      have ⟨cred, old, built⟩ := IssuedCredentials.mem_ofOwner_anonymizeOwner.mp member
      rw [← built]
      exact all cred old
  show (∀ cred ∈ (anonymizeRecords db before.credentials owner).1.ofOwner owner, _) ↔ _
  rw [anonymizeRecords]
  cases db.update with
  | answered => simpa [StatementFate.takesEffect] using updated
  | answerLost => simpa [StatementFate.takesEffect] using updated
  | failed => simp [StatementFate.takesEffect]

theorem gdprErasure_truthful_iff :
    TruthfulErasure db before owner (gdprErasure db before owner erasedAt receiptId).1
        (gdprErasure db before owner erasedAt receiptId).2 ↔
      ErasesFully db before owner := by
  have count : (gdprErasure db before owner erasedAt receiptId).1.credentialsRevoked.toNat =
      (credentialsFound db before owner).length % 2 ^ 32 := by
    show (revokeEach db _ before.revocations 0).2.toNat = _
    rw [revokeEach_count, UInt32.zero_add, UInt32.toNat_ofNat']
  have counted := counted_iff (credentialsFound db before owner) fun cred =>
    (db.revocation cred.credentialId).takesEffect
  rw [← count] at counted
  have hidden := forall_putAway_iff db before owner erasedAt receiptId
    (gdprErasure db before owner erasedAt receiptId).2.revocations.table.Records
  constructor
  · intro truthful
    refine ⟨counted.mp truthful.counted, ?_⟩
    intro cred member putAway
    exact (gdprErasure_records db before owner erasedAt receiptId member).mp
      (hidden.mp truthful.revoked cred member putAway)
  · intro fully
    refine ⟨counted.mpr fully.noneLost, hidden.mpr ?_⟩
    intro cred member putAway
    exact (gdprErasure_records db before owner erasedAt receiptId member).mpr
      (fully.noneHidden cred member putAway)

/-- One active credential, in a database that answers everything but its revocation. -/
def revocationFails : ErasureStatements where
  queryAnswered := true
  revocation _ := .failed
  update := .answered

def oneActive : ErasureState where
  credentials := ⟨[⟨"credential", "issuer", "owner", .null, true, none⟩], by decide⟩
  revocations := ⟨Table.empty, ⟨∅⟩⟩

/-- The receipt says one credential was revoked; it is put away and not revoked. -/
theorem receipt_counts_failed_revocation :
    ¬ TruthfulErasure revocationFails oneActive "owner"
      (gdprErasure revocationFails oneActive "owner" "now" "receipt").1
      (gdprErasure revocationFails oneActive "owner" "now" "receipt").2 := by
  intro truthful
  have counted : (1 : Nat) = 0 := truthful.counted
  cases counted

end OwlId.Verification
