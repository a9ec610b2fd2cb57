import Mathlib
import OwlId.Issuer.Stamps
import OwlId.ProofSystem.StatusList
import OwlId.Verification.RevocationMirror

/-! # The published status list

The issuer publishes one bit per credential it has stored.  To compute them it asks
the verification service for the revoked ids, looks each id up among its own rows
and collects the indices it finds there.

The rows are keyed by the base64url id of the credential.  The revoked ids come in
the spelling of whoever wrote them, and the chain's events write hex, so a hex entry
finds no row.  `status_list_exact_iff` says when the published bits are right.
-/

namespace OwlId.Issuer

open OwlId.Lib OwlId.ProofSystem OwlId.Verification

/-! ## The rows of issued credentials -/

structure IssuedCredential where
  credentialId : String
  metadata : Json

abbrev IssuedTable := Table IssuedCredential.credentialId

/-- `INSERT`; the column is unique. -/
def IssuedTable.store (table : IssuedTable) (row : IssuedCredential) : Except String IssuedTable :=
  match table.find row.credentialId with
  | some _ => .error ("Duplicate entry: Credential with credential_id " ++ row.credentialId ++
      " already exists")
  | none => .ok (table.insert row)

/-- `cred.metadata.get("statusIdx").and_then(as_u64)`. -/
def IssuedCredential.statusIdx (row : IssuedCredential) : Option Nat :=
  (row.metadata.get "statusIdx").bind Json.asU64

/-- The arguments of one direct issuance. -/
structure IssuanceRequest where
  run : IssuanceRun
  issuerPrivateKey : String
  ownerPublicKey : String
  keyAlgorithm : SignatureAlgorithm
  attributes : ClaimMap
  issuerPublicUrl : String
  personhood : Bool

/-- A credential handed out, and the index in it. -/
structure Issued where
  sdJwtVc : String
  statusIdx : Nat

/-- The issuer's database, and what it has handed out. -/
structure IssuerState where
  table : IssuedTable
  issued : List Issued

def issuerStart : IssuerState := ⟨Table.empty, []⟩

section

variable (P : Primitives) (H : Hashes)

def IssuanceRequest.issue (request : IssuanceRequest) : Except IdpError String :=
  issueCredentialDirect P H request.run request.issuerPrivateKey request.ownerPublicKey
    request.keyAlgorithm request.attributes request.issuerPublicUrl request.personhood

def issuedRow (sdJwtVc : String) (statusIdx : Nat) : IssuedCredential :=
  ⟨credentialId H sdJwtVc, .ofFields [("statusIdx", .number (.posInt statusIdx))]⟩

/-- Issuance with database storage: a credential whose row is refused is not handed out. -/
def issueStored (state : IssuerState) (request : IssuanceRequest) :
    Except IdpError String × IssuerState :=
  match request.run.statusIdx, request.issue P H with
  | .ok statusIdx, .ok sdJwtVc =>
    match state.table.store (issuedRow H sdJwtVc statusIdx) with
    | .ok table => (.ok sdJwtVc, ⟨table, state.issued ++ [⟨sdJwtVc, statusIdx⟩]⟩)
    | .error e => (.error (.credentialIssuance ("Database error: " ++ e)), state)
  | _, result => (result, state)

/-! ## The projection -/

/-- The body of `/status-revoked`: the cache, in some order. -/
def statusRevokedBody (snapshot : List String) : Json :=
  .ofFields [("revoked", .array (snapshot.map .string))]

def revokedIds (body : Json) : List String :=
  (((body.get "revoked").bind Json.asArray).map fun ids => ids.filterMap Json.asStr).getD []

/-- The indices of the rows that the ids name; every lookup answers. -/
def revokedIdxs (table : IssuedTable) (revoked : List String) : List Nat :=
  revoked.filterMap fun id => (table.find id).bind IssuedCredential.statusIdx

/-- The list that is compressed, signed and served. -/
def statusList (table : IssuedTable) (body : Json) : StatusList :=
  StatusList.fromRevoked (revokedIdxs table (revokedIds body))

theorem revokedIds_statusRevokedBody (snapshot : List String) :
    revokedIds (statusRevokedBody snapshot) = snapshot := by
  have field : (statusRevokedBody snapshot).get "revoked" =
      some (.array (snapshot.map .string)) := by
    rw [statusRevokedBody, Json.get_ofFields]
    rfl
  simp only [revokedIds, field, Option.bind_some, Json.asArray, Option.map_some, Option.getD_some,
    List.filterMap_map]
  exact List.filterMap_some

/-! ## What the issuer's rows record -/

/-- Every credential handed out has its row, and every row is of one of them. -/
structure Recorded (state : IssuerState) : Prop where
  stored : ∀ c ∈ state.issued,
    state.table.find (credentialId H c.sdJwtVc) = some (issuedRow H c.sdJwtVc c.statusIdx)
  handedOut : ∀ id row, state.table.find id = some row →
    ∃ c ∈ state.issued, row = issuedRow H c.sdJwtVc c.statusIdx

def IssuanceRequest.allocated (request : IssuanceRequest) : Option Nat :=
  request.run.statusIdx.toOption

variable {H}

theorem issuedRow_statusIdx (sdJwtVc : String) (statusIdx : Nat) :
    (issuedRow H sdJwtVc statusIdx).statusIdx = some statusIdx := by
  have field : (issuedRow H sdJwtVc statusIdx).metadata.get "statusIdx" =
      some (.number (.posInt statusIdx)) := by
    rw [issuedRow, Json.get_ofFields]
    rfl
  rw [IssuedCredential.statusIdx, field]
  rfl

/-- What one issuance does: nothing, or one new row under an id that had none. -/
theorem issueStored_cases (state : IssuerState) (request : IssuanceRequest) :
    (issueStored P H state request).2 = state ∨
      ∃ sdJwtVc statusIdx, request.allocated = some statusIdx ∧
        state.table.find (credentialId H sdJwtVc) = none ∧
        (issueStored P H state request).2 =
          ⟨state.table.insert (issuedRow H sdJwtVc statusIdx),
            state.issued ++ [⟨sdJwtVc, statusIdx⟩]⟩ := by
  unfold issueStored
  cases index : request.run.statusIdx with
  | error e => exact .inl rfl
  | ok statusIdx =>
    cases request.issue P H with
    | error e => exact .inl rfl
    | ok sdJwtVc =>
      have allocated : request.allocated = some statusIdx := by
        rw [IssuanceRequest.allocated, index]
        rfl
      cases found : state.table.find (credentialId H sdJwtVc) with
      | some row => exact .inl (by simp [IssuedTable.store, issuedRow, found])
      | none =>
        exact .inr ⟨sdJwtVc, statusIdx, allocated, found, by
          simp [IssuedTable.store, issuedRow, found]⟩

theorem recorded_step {state : IssuerState} (recorded : Recorded H state)
    (request : IssuanceRequest) : Recorded H (issueStored P H state request).2 := by
  rcases issueStored_cases P state request with same | ⟨sdJwtVc, statusIdx, _, fresh, next⟩
  · rw [same]
    exact recorded
  · rw [next]
    constructor
    · intro c member
      rw [Table.find_insert]
      rcases List.mem_append.mp member with old | new
      · -- an earlier credential has a row, so its id is not the new one
        have found := recorded.stored c old
        have different : credentialId H c.sdJwtVc ≠ (issuedRow H sdJwtVc statusIdx).credentialId := by
          intro same
          rw [same] at found
          cases found.symm.trans fresh
        rw [if_neg different, found]
      · obtain rfl := List.mem_singleton.mp new
        exact if_pos rfl
    · intro id row found
      rw [Table.find_insert] at found
      split at found
      · obtain rfl := Option.some.inj found
        exact ⟨⟨sdJwtVc, statusIdx⟩, by simp, rfl⟩
      · obtain ⟨c, member, same⟩ := recorded.handedOut id row found
        exact ⟨c, List.mem_append_left _ member, same⟩

variable (H)

def issuerRun (requests : List IssuanceRequest) : IssuerState :=
  Runs.run (fun state request => (issueStored P H state request).2) issuerStart requests

variable {H}

theorem issuerRun_recorded (requests : List IssuanceRequest) :
    Recorded H (issuerRun P H requests) :=
  Runs.run_invariant (Recorded H)
    ⟨fun _ member => absurd member List.not_mem_nil, fun _ _ found => by cases found⟩
    (fun _ request recorded => recorded_step P recorded request) requests

/-- The indices handed out are among the allocated ones, in order. -/
theorem issuerRun_indices (requests : List IssuanceRequest) :
    ((issuerRun P H requests).issued.map Issued.statusIdx).Sublist
      (requests.filterMap IssuanceRequest.allocated) := by
  apply Runs.run_history (fun history (state : IssuerState) =>
    (state.issued.map Issued.statusIdx).Sublist (history.filterMap IssuanceRequest.allocated))
  · exact List.Sublist.refl _
  · intro history state request ih
    rw [List.filterMap_append]
    rcases issueStored_cases P state request with same | ⟨sdJwtVc, statusIdx, allocated, _, next⟩
    · rw [same]
      exact ih.trans (List.sublist_append_left _ _)
    · rw [next, List.map_append]
      exact ih.append (by simp [allocated])

/-- Two credentials handed out with one index are one credential. -/
theorem issued_eq_of_statusIdx {requests : List IssuanceRequest}
    (distinct : (requests.filterMap IssuanceRequest.allocated).Nodup) {c c' : Issued}
    (member : c ∈ (issuerRun P H requests).issued)
    (member' : c' ∈ (issuerRun P H requests).issued) (same : c.statusIdx = c'.statusIdx) :
    c = c' :=
  List.inj_on_of_nodup_map (distinct.sublist (issuerRun_indices P requests)) member member' same

/-- The published bit of a credential says whether its base64url id is in the snapshot. -/
theorem statusList_isRevoked {requests : List IssuanceRequest}
    (distinct : (requests.filterMap IssuanceRequest.allocated).Nodup) {c : Issued}
    (member : c ∈ (issuerRun P H requests).issued) (snapshot : List String) :
    (statusList (issuerRun P H requests).table (statusRevokedBody snapshot)).isRevoked
        c.statusIdx = true ↔
      credentialId H c.sdJwtVc ∈ snapshot := by
  have recorded := issuerRun_recorded (H := H) P requests
  rw [statusList, revokedIds_statusRevokedBody, StatusList.isRevoked_fromRevoked, decide_eq_true_iff,
    revokedIdxs, List.mem_filterMap]
  constructor
  · intro ⟨id, listed, found⟩
    obtain ⟨row, hit, index⟩ := Option.bind_eq_some_iff.mp found
    obtain ⟨c', member', rfl⟩ := recorded.handedOut id row hit
    rw [issuedRow_statusIdx, Option.some.injEq] at index
    obtain rfl := issued_eq_of_statusIdx P distinct member' member index
    have key : credentialId H c'.sdJwtVc = id := (Table.find_eq_some.mp hit).2
    exact key ▸ listed
  · intro listed
    refine ⟨credentialId H c.sdJwtVc, listed, ?_⟩
    rw [recorded.stored c member, Option.bind_some, issuedRow_statusIdx]

end

/-! ## Exactness over runs -/

/-- The mirrors after a run that starts from the rows of a database. -/
def mirrorRun (rows : RevocationTable) (attestations : Finset String) (steps : List MirrorStep) :
    Mirrors :=
  Runs.run mirrorStep ⟨RevocationRepository.initializeCache rows, attestations⟩ steps

theorem mirrorRun_coherent (rows : RevocationTable) (attestations : Finset String)
    (steps : List MirrorStep) : (mirrorRun rows attestations steps).revocations.Coherent :=
  Runs.run_invariant (fun mirrors : Mirrors => mirrors.revocations.Coherent)
    (RevocationRepository.initializeCache_coherent _)
    (fun _ step coherent => (mirrorStep_applies coherent step).coherent) steps

/-- A list of the ids in the cache, in the order the set happens to iterate. -/
def IsSnapshot (cache : RevocationCache) (snapshot : List String) : Prop :=
  snapshot.toFinset = cache.revokedHashes

/-- A row blocks the credential, under its base64url id or its hash in hex. -/
def BlockedUnderSomeSpelling (H : Hashes) (rows : RevocationTable) (sdJwtVc : String) : Prop :=
  ∃ id, names id (credentialHash H sdJwtVc) = true ∧ rows.blocks id = true

/-- For every credential handed out, the published bit is set exactly when a row blocks it under
one of its spellings, if and only if every credential handed out that a row blocks under its hash
in hex is blocked under its base64url id too. -/
theorem status_list_exact_iff (P : Primitives) (H : Hashes) (requests : List IssuanceRequest)
    (distinct : (requests.filterMap IssuanceRequest.allocated).Nodup)
    (rows : RevocationTable) (attestations : Finset String) (steps : List MirrorStep)
    (snapshot : List String)
    (listed : IsSnapshot (mirrorRun rows attestations steps).revocations.cache snapshot) :
    (∀ c ∈ (issuerRun P H requests).issued,
        ((statusList (issuerRun P H requests).table (statusRevokedBody snapshot)).isRevoked
            c.statusIdx = true ↔
          BlockedUnderSomeSpelling H (mirrorRun rows attestations steps).revocations.table
            c.sdJwtVc)) ↔
      ∀ c ∈ (issuerRun P H requests).issued, ∀ id,
        hexDecode id = some (credentialHash H c.sdJwtVc).toList →
        (mirrorRun rows attestations steps).revocations.table.blocks id = true →
        (mirrorRun rows attestations steps).revocations.table.blocks
          (credentialId H c.sdJwtVc) = true := by
  have coherent := mirrorRun_coherent rows attestations steps
  -- the bit says whether the row under the base64url id blocks
  have bit : ∀ c ∈ (issuerRun P H requests).issued,
      (statusList (issuerRun P H requests).table (statusRevokedBody snapshot)).isRevoked
          c.statusIdx = true ↔
        (mirrorRun rows attestations steps).revocations.table.blocks
          (credentialId H c.sdJwtVc) = true := by
    intro c member
    rw [statusList_isRevoked P distinct member, ← coherent, RevocationCache.isRevoked,
      decide_eq_true_iff, ← listed, List.mem_toFinset]
  constructor
  · intro exact_ c member id spelled blocked
    rw [← bit c member, exact_ c member]
    exact ⟨id, by simp [names, spelled], blocked⟩
  · intro canonical c member
    rw [bit c member]
    constructor
    · intro blocked
      exact ⟨_, names_credentialId c.sdJwtVc, blocked⟩
    · rintro ⟨id, named, blocked⟩
      simp only [names, Bool.or_eq_true, beq_iff_eq] at named
      cases named with
      | inl same =>
        rw [← credentialId_eq] at same
        exact same ▸ blocked
      | inr spelled => exact canonical c member id spelled blocked

/-! ## One credential, revoked in two ways -/

def sampleRequest : IssuanceRequest where
  run := sampleRun
  issuerPrivateKey := sampleSecret
  ownerPublicKey := sampleOwner
  keyAlgorithm := .ed25519
  attributes := sampleAttributes
  issuerPublicUrl := "https://issuer.example"
  personhood := false

theorem sampleRequest_issued :
    ∃ text, (issuerRun (samplePrimitives []) sampleHashes [sampleRequest]).issued =
      [⟨text, 0x100000⟩] := by
  obtain ⟨text, issued⟩ := sampleRun_issues sampleAttributes false
  have returned : sampleRequest.issue (samplePrimitives []) sampleHashes = .ok text := issued
  refine ⟨text, ?_⟩
  simp only [issuerRun, Runs.run, List.foldl_cons, List.foldl_nil, issueStored, returned]
  rfl

/-- A run of one step that blocks one id leaves that id alone in the cache. -/
theorem isRevoked_of_blocked {step : MirrorStep} {id : String}
    (affected : step.effect (sampleMirrors ∅) = some ⟨id, true⟩) (other : String) :
    (mirrorRun Table.empty ∅ [step]).revocations.cache.isRevoked other = decide (other = id) := by
  have coherent : (sampleMirrors ∅).revocations.Coherent :=
    RevocationRepository.initializeCache_coherent _
  have lookup := (mirrorStep_applies coherent step).lookup other
  have start : (sampleMirrors ∅).revocations.cache.isRevoked other = false := coherent other
  have ran : (mirrorRun Table.empty ∅ [step]).revocations.cache.isRevoked other =
      afterEffect (sampleMirrors ∅).revocations.cache.isRevoked (some ⟨id, true⟩) other :=
    affected ▸ lookup
  rw [ran]
  by_cases same : other = id <;> simp [afterEffect, same, start]

theorem snapshot_of_blocked {step : MirrorStep} {id : String}
    (affected : step.effect (sampleMirrors ∅) = some ⟨id, true⟩) :
    IsSnapshot (mirrorRun Table.empty ∅ [step]).revocations.cache [id] := by
  apply Finset.ext
  intro other
  have lookup := isRevoked_of_blocked affected other
  rw [RevocationCache.isRevoked, decide_eq_decide] at lookup
  simp [lookup]

/-- An administrator revokes the credential by its base64url id. -/
def sampleRevocation (text : String) : MirrorStep :=
  .revokeCredential (sampleWorld 0) (credentialId sampleHashes text) sampleIssuerHex none

theorem sampleRevocation_effect (text : String) :
    (sampleRevocation text).effect (sampleMirrors ∅) =
      some ⟨credentialId sampleHashes text, true⟩ := by
  have written : sidecarWrite (sampleWorld 0) (credentialId sampleHashes text)
      (.revoke · sampleIssuerHex "") = .ok () := by
    simp only [sidecarWrite, bind_eq_ok, mapErr_eq_ok]
    exact ⟨_, credentialIdHex_credentialId text, rfl⟩
  have accepted : isOk (sidecarWrite (sampleWorld 0) (credentialId sampleHashes text)
      (.revoke · sampleIssuerHex ((none : Option String).getD ""))) = true := by
    rw [Option.getD_none, written]
    rfl
  simp only [sampleRevocation, MirrorStep.effect, accepted, if_true]

theorem status_list_exact_at_sample :
    ∃ text, (issuerRun (samplePrimitives []) sampleHashes [sampleRequest]).issued =
        [⟨text, 0x100000⟩] ∧
      IsSnapshot (mirrorRun Table.empty ∅ [sampleRevocation text]).revocations.cache
        [credentialId sampleHashes text] ∧
      (statusList (issuerRun (samplePrimitives []) sampleHashes [sampleRequest]).table
        (statusRevokedBody [credentialId sampleHashes text])).isRevoked 0x100000 = true := by
  obtain ⟨text, issued⟩ := sampleRequest_issued
  have listed := snapshot_of_blocked (sampleRevocation_effect text)
  have distinct : ([sampleRequest].filterMap IssuanceRequest.allocated).Nodup :=
    List.nodup_singleton 0x100000
  have coherent := mirrorRun_coherent Table.empty ∅ [sampleRevocation text]
  have blocks (id : String) :
      (mirrorRun Table.empty ∅ [sampleRevocation text]).revocations.table.blocks id =
        decide (id = credentialId sampleHashes text) := by
    rw [← coherent, isRevoked_of_blocked (sampleRevocation_effect text)]
  refine ⟨text, issued, listed, ?_⟩
  have exact_ := (status_list_exact_iff (samplePrimitives []) sampleHashes [sampleRequest] distinct
    Table.empty ∅ [sampleRevocation text] _ listed).mpr (by
      intro c member id _ _
      rw [issued, List.mem_singleton] at member
      subst member
      rw [blocks, decide_eq_true_iff])
  rw [issued] at exact_
  apply (exact_ ⟨text, 0x100000⟩ (List.mem_singleton_self _)).mpr
  exact ⟨credentialId sampleHashes text, names_credentialId text, by
    rw [blocks, decide_eq_true_iff]⟩

/-- The chain announces the revocation of a stored credential: the mirror blocks its hex id, and
its published bit stays clear. -/
theorem revoked_by_event_published_valid :
    ∃ text step, (issuerRun (samplePrimitives []) sampleHashes [sampleRequest]).issued =
        [⟨text, 0x100000⟩] ∧
      step = MirrorStep.handleRevocation
        (hexEncode (credentialHash sampleHashes text).toList) "REVOKED" sampleIssuerHex none ∧
      IsSnapshot (mirrorRun Table.empty ∅ [step]).revocations.cache
        [hexEncode (credentialHash sampleHashes text).toList] ∧
      BlockedUnderSomeSpelling sampleHashes (mirrorRun Table.empty ∅ [step]).revocations.table text ∧
      (statusList (issuerRun (samplePrimitives []) sampleHashes [sampleRequest]).table
        (statusRevokedBody [hexEncode (credentialHash sampleHashes text).toList])).isRevoked
          0x100000 = false := by
  obtain ⟨text, issued⟩ := sampleRequest_issued
  have affected : (MirrorStep.handleRevocation
      (hexEncode (credentialHash sampleHashes text).toList) "REVOKED" sampleIssuerHex none).effect
        (sampleMirrors ∅) = some ⟨hexEncode (credentialHash sampleHashes text).toList, true⟩ := rfl
  have distinct : ([sampleRequest].filterMap IssuanceRequest.allocated).Nodup :=
    List.nodup_singleton 0x100000
  refine ⟨text, _, issued, rfl, snapshot_of_blocked affected, ?_, ?_⟩
  · refine ⟨hexEncode (credentialHash sampleHashes text).toList, by simp [names], ?_⟩
    rw [← mirrorRun_coherent, isRevoked_of_blocked affected, decide_eq_true_iff]
  · have member : (⟨text, 0x100000⟩ : Issued) ∈
        (issuerRun (samplePrimitives []) sampleHashes [sampleRequest]).issued := by simp [issued]
    rw [← Bool.not_eq_true, statusList_isRevoked (samplePrimitives []) distinct member,
      List.mem_singleton]
    exact (hexEncode_ne_b64 _).symm

end OwlId.Issuer
