import Mathlib
import OwlId.Lib.Runs
import OwlId.Verification.DcqlSoundness

/-! # Writers of the revocation mirror

The administrative endpoints, the event stream and the chain syncs all write the
same repository, each under the spelling of the credential id it was given: the
base64url id, or the hex form the chain uses.  Verification looks the credential
up under its base64url id only.  `revocation_mirror_agrees_iff` says what that
means for a run: the lookup tells the last state of every credential along the run
exactly when each step names the credential by its base64url id or repeats the
state it already had.
-/

namespace OwlId.Verification

open OwlId.Lib OwlId.ProofSystem

/-! ## The endpoints -/

section

variable (W : World)

/-- The sidecar normalises the id to hex before it writes. -/
def sidecarWrite (credentialId : String) (write : String → ChainWrite) : Except String Unit := do
  let hex ← mapErr (fun e => "credential id: " ++ e.display)
    (credentialIdHex W.primitives credentialId)
  W.chainWrite (write hex)

/-- The chain first; the mirror is written under the id as given. -/
def revokeCredential (repo : RevocationRepository) (credentialId issuerPublicKey : String)
    (reason : Option String) : Except ApiError Unit × RevocationRepository :=
  match sidecarWrite W credentialId (.revoke · issuerPublicKey (reason.getD "")) with
  | .error e => (.error (.internal ("Chain revoke failed: " ++ e)), repo)
  | .ok () => (.ok (), repo.revoke credentialId issuerPublicKey reason none)

def suspendCredential (repo : RevocationRepository) (credentialId issuerPublicKey : String)
    (reason : Option String) : Except ApiError Unit × RevocationRepository :=
  match sidecarWrite W credentialId (.suspend · issuerPublicKey (reason.getD "")) with
  | .error e => (.error (.internal ("Chain suspend failed: " ++ e)), repo)
  | .ok () => (.ok (), repo.suspend credentialId issuerPublicKey reason)

def credentialNotFound (credentialId : String) : ApiError :=
  .database ("Entity not found: Credential not found: " ++ credentialId)

/-- The issuer key comes from the row, so an id without a row is refused. -/
def reactivateCredential (repo : RevocationRepository) (credentialId : String) :
    Except ApiError Unit × RevocationRepository :=
  match repo.table.find credentialId with
  | none => (.error (credentialNotFound credentialId), repo)
  | some row =>
    match sidecarWrite W credentialId (.reactivate · row.issuerPublicKey) with
    | .error e => (.error (.internal ("Chain reactivate failed: " ++ e)), repo)
    | .ok () =>
      match repo.reactivate credentialId with
      | some repo' => (.ok (), repo')
      | none => (.error (credentialNotFound credentialId), repo)

def malformedId : String :=
  "Invalid credential id format — expected the credential's SHA-256 id as 64 hex " ++
    "characters or its base64url form."

/-- A credential the table does not block is asked about on chain. -/
def checkRevocation (repo : RevocationRepository) (credentialId : String) :
    Except ApiError RevocationStatus × RevocationRepository :=
  match credentialIdHex W.primitives credentialId with
  | .error _ => (.error (.invalidInput malformedId), repo)
  | .ok _ =>
    match repo.table.find credentialId with
    | some ⟨_, _, .revoked, _, _⟩ => (.ok .revoked, repo)
    | some ⟨_, _, .suspended, _, _⟩ => (.ok .suspended, repo)
    | _ =>
      match isCredentialRevoked W credentialId with
      | .ok true => (.ok .revoked, repo.revoke credentialId "" syncReason none)
      | .ok false => (.ok .active, repo)
      | .error e => (.error (.internal ("Chain revocation check failed: " ++ e)), repo)

/-- A `Revocation` event of the chain, under its hex id, with a reason the database takes. -/
def handleRevocation (repo : RevocationRepository) (credentialId status issuerKeyHash : String)
    (reason : Option String) : RevocationRepository :=
  if status = "REVOKED" then repo.revoke credentialId issuerKeyHash reason none
  else if status = "SUSPENDED" then repo.suspend credentialId issuerKeyHash reason
  -- reactivation is a no-op when the row does not exist
  else if status = "ACTIVE" then (repo.reactivate credentialId).getD repo
  else repo

end

/-! ## Steps and what they leave behind -/

inductive MirrorStep where
  | revokeCredential (W : World) (credentialId issuerPublicKey : String) (reason : Option String)
  | suspendCredential (W : World) (credentialId issuerPublicKey : String) (reason : Option String)
  | reactivateCredential (W : World) (credentialId : String)
  | handleRevocation (credentialId status issuerKeyHash : String) (reason : Option String)
  | verifyOnePresentation (W : World) (challenge : String) (audience : Option String)
      (presentation : String)
  | checkRevocation (W : World) (credentialId : String)

def mirrorStep (mirrors : Mirrors) : MirrorStep → Mirrors
  | .revokeCredential W credentialId issuer reason =>
    { mirrors with
      revocations := (revokeCredential W mirrors.revocations credentialId issuer reason).2 }
  | .suspendCredential W credentialId issuer reason =>
    { mirrors with
      revocations := (suspendCredential W mirrors.revocations credentialId issuer reason).2 }
  | .reactivateCredential W credentialId =>
    { mirrors with revocations := (reactivateCredential W mirrors.revocations credentialId).2 }
  | .handleRevocation credentialId status issuer reason =>
    { mirrors with
      revocations := handleRevocation mirrors.revocations credentialId status issuer reason }
  | .verifyOnePresentation W challenge audience presentation =>
    (verifyOnePresentation W mirrors challenge audience presentation).2
  | .checkRevocation W credentialId =>
    { mirrors with revocations := (checkRevocation W mirrors.revocations credentialId).2 }

/-- The credential a step is about, as the step spells it, and whether it leaves it revoked or
    suspended. -/
structure Effect where
  credentialId : String
  blocked : Bool

def isOk {ε α : Type} : Except ε α → Bool
  | .ok _ => true
  | .error _ => false

def saysRevoked : Except String Bool → Bool
  | .ok revoked => revoked
  | .error _ => false

/-- A call that fails affects nothing; an event always reports the state on chain; a chain sync
    reports a revocation. -/
def MirrorStep.effect (mirrors : Mirrors) : MirrorStep → Option Effect
  | .revokeCredential W credentialId issuer reason =>
    if isOk (sidecarWrite W credentialId (.revoke · issuer (reason.getD ""))) then
      some ⟨credentialId, true⟩
    else none
  | .suspendCredential W credentialId issuer reason =>
    if isOk (sidecarWrite W credentialId (.suspend · issuer (reason.getD ""))) then
      some ⟨credentialId, true⟩
    else none
  | .reactivateCredential W credentialId =>
    (mirrors.revocations.table.find credentialId).bind fun row =>
      if isOk (sidecarWrite W credentialId (.reactivate · row.issuerPublicKey)) then
        some ⟨credentialId, false⟩
      else none
  | .handleRevocation credentialId status _ _ =>
    if status = "REVOKED" ∨ status = "SUSPENDED" then some ⟨credentialId, true⟩
    else if status = "ACTIVE" then some ⟨credentialId, false⟩
    else none
  | .verifyOnePresentation W challenge audience presentation =>
    let credId := credentialId W.hashes presentation
    if isOk (checkPresentation W challenge audience presentation) &&
        !mirrors.revocations.cache.isRevoked credId &&
        saysRevoked (isCredentialRevoked W credId) then some ⟨credId, true⟩
    else none
  | .checkRevocation W credentialId =>
    if !mirrors.revocations.table.blocks credentialId &&
        saysRevoked (isCredentialRevoked W credentialId) then some ⟨credentialId, true⟩
    else none

/-! ## What a step does to the lookup -/

/-- The lookup after an effect. -/
def afterEffect (lookup : String → Bool) : Option Effect → String → Bool
  | none => lookup
  | some e => fun id => if id = e.credentialId then e.blocked else lookup id

/-- The new repository is coherent and its lookup is the old one after the effect. -/
structure Applies (repo repo' : RevocationRepository) (effect : Option Effect) : Prop where
  coherent : repo'.Coherent
  lookup : ∀ id, repo'.cache.isRevoked id = afterEffect repo.cache.isRevoked effect id

section

variable {repo : RevocationRepository} (coherent : repo.Coherent)

include coherent

theorem applies_none : Applies repo repo none := ⟨coherent, fun _ => rfl⟩

theorem applies_revoke (credentialId issuer : String) (reason : Option String)
    (expiresAt : Option Int) :
    Applies repo (repo.revoke credentialId issuer reason expiresAt)
      (some ⟨credentialId, true⟩) where
  coherent id := by simp [RevocationRepository.revoke, coherent id]
  lookup id := by
    by_cases here : id = credentialId <;> simp [RevocationRepository.revoke, afterEffect, here]

theorem applies_suspend (credentialId issuer : String) (reason : Option String) :
    Applies repo (repo.suspend credentialId issuer reason) (some ⟨credentialId, true⟩) where
  coherent id := by simp [RevocationRepository.suspend, coherent id]
  lookup id := by
    by_cases here : id = credentialId <;> simp [RevocationRepository.suspend, afterEffect, here]

theorem applies_reactivate {repo' : RevocationRepository} {credentialId : String}
    (updated : repo.reactivate credentialId = some repo') :
    Applies repo repo' (some ⟨credentialId, false⟩) := by
  obtain ⟨table, reactivated, rfl⟩ := Option.map_eq_some_iff.mp updated
  constructor
  · intro id
    simp [RevocationTable.blocks_reactivate reactivated, coherent id]
  · intro id
    by_cases here : id = credentialId <;> simp [afterEffect, here]

/-- An id without a row is not blocked, so leaving it alone also leaves it active. -/
theorem applies_reactivate_missing {credentialId : String}
    (missing : repo.reactivate credentialId = none) :
    Applies repo repo (some ⟨credentialId, false⟩) := by
  refine ⟨coherent, fun id => ?_⟩
  have absent : repo.table.reactivate credentialId = none := by
    simpa [RevocationRepository.reactivate] using missing
  by_cases here : id = credentialId
  · simp [afterEffect, here, coherent credentialId,
      RevocationTable.blocks_of_reactivate_eq_none absent]
  · simp [afterEffect, here]

theorem revokeCredential_applies (W : World) (credentialId issuer : String)
    (reason : Option String) :
    Applies repo (revokeCredential W repo credentialId issuer reason).2
      (if isOk (sidecarWrite W credentialId (.revoke · issuer (reason.getD ""))) then
        some ⟨credentialId, true⟩ else none) := by
  unfold revokeCredential
  cases sidecarWrite W credentialId (.revoke · issuer (reason.getD "")) with
  | error e => exact applies_none coherent
  | ok u => exact applies_revoke coherent credentialId issuer reason none

theorem suspendCredential_applies (W : World) (credentialId issuer : String)
    (reason : Option String) :
    Applies repo (suspendCredential W repo credentialId issuer reason).2
      (if isOk (sidecarWrite W credentialId (.suspend · issuer (reason.getD ""))) then
        some ⟨credentialId, true⟩ else none) := by
  unfold suspendCredential
  cases sidecarWrite W credentialId (.suspend · issuer (reason.getD "")) with
  | error e => exact applies_none coherent
  | ok u => exact applies_suspend coherent credentialId issuer reason

theorem reactivateCredential_applies (W : World) (credentialId : String) :
    Applies repo (reactivateCredential W repo credentialId).2
      ((repo.table.find credentialId).bind fun row =>
        if isOk (sidecarWrite W credentialId (.reactivate · row.issuerPublicKey)) then
          some ⟨credentialId, false⟩ else none) := by
  unfold reactivateCredential
  cases repo.table.find credentialId with
  | none => exact applies_none coherent
  | some row =>
    dsimp only [Option.bind_some]
    cases sidecarWrite W credentialId (.reactivate · row.issuerPublicKey) with
    | error e => exact applies_none coherent
    | ok u =>
      cases updated : repo.reactivate credentialId with
      | none => exact applies_reactivate_missing coherent updated
      | some repo' => exact applies_reactivate coherent updated

theorem handleRevocation_applies (credentialId status issuer : String) (reason : Option String) :
    Applies repo (handleRevocation repo credentialId status issuer reason)
      (if status = "REVOKED" ∨ status = "SUSPENDED" then some ⟨credentialId, true⟩
        else if status = "ACTIVE" then some ⟨credentialId, false⟩ else none) := by
  by_cases revoked : status = "REVOKED"
  · simpa [handleRevocation, revoked]
      using applies_revoke coherent credentialId issuer reason none
  · by_cases suspended : status = "SUSPENDED"
    · simpa [handleRevocation, suspended]
        using applies_suspend coherent credentialId issuer reason
    · by_cases active : status = "ACTIVE"
      · cases updated : repo.reactivate credentialId with
        | none => simpa [handleRevocation, active, updated]
            using applies_reactivate_missing coherent updated
        | some repo' => simpa [handleRevocation, active, updated]
            using applies_reactivate coherent updated
      · simpa [handleRevocation, revoked, suspended, active] using applies_none coherent

theorem checkRevocation_applies (W : World) (credentialId : String) :
    Applies repo (checkRevocation W repo credentialId).2
      (if !repo.table.blocks credentialId && saysRevoked (isCredentialRevoked W credentialId) then
        some ⟨credentialId, true⟩ else none) := by
  unfold checkRevocation
  cases spelled : credentialIdHex W.primitives credentialId with
  | error e =>
    have refused : saysRevoked (isCredentialRevoked W credentialId) = false := by
      simp [isCredentialRevoked, spelled, mapErr, saysRevoked, bind, Except.bind]
    simpa [refused] using applies_none coherent
  | ok hex =>
    dsimp only
    split
    · rename_i found
      simpa [RevocationTable.blocks, found, RevocationStatus.isBlocking]
        using applies_none coherent
    · rename_i found
      simpa [RevocationTable.blocks, found, RevocationStatus.isBlocking]
        using applies_none coherent
    · rename_i notRevoked notSuspended
      have unblocked : repo.table.blocks credentialId = false := by
        unfold RevocationTable.blocks
        cases found : repo.table.find credentialId with
        | none => rfl
        | some row =>
          obtain ⟨id, issuer, status, reason, expiresAt⟩ := row
          cases status with
          | revoked => exact absurd found (notRevoked _ _ _ _)
          | suspended => exact absurd found (notSuspended _ _ _ _)
          | active => rfl
      cases isCredentialRevoked W credentialId with
      | error e => simpa [unblocked, saysRevoked] using applies_none coherent
      | ok revoked =>
        cases revoked with
        | true => simpa [unblocked, saysRevoked]
            using applies_revoke coherent credentialId "" syncReason none
        | false => simpa [unblocked, saysRevoked] using applies_none coherent

end

theorem verifyOnePresentation_applies {mirrors : Mirrors}
    (coherent : mirrors.revocations.Coherent) (W : World) (challenge : String)
    (audience : Option String) (presentation : String) :
    Applies mirrors.revocations
      (verifyOnePresentation W mirrors challenge audience presentation).2.revocations
      (if isOk (checkPresentation W challenge audience presentation) &&
          !mirrors.revocations.cache.isRevoked (credentialId W.hashes presentation) &&
          saysRevoked (isCredentialRevoked W (credentialId W.hashes presentation)) then
        some ⟨credentialId W.hashes presentation, true⟩ else none) := by
  unfold verifyOnePresentation
  cases checkPresentation W challenge audience presentation with
  | error stop => cases stop <;> exact applies_none coherent
  | ok result =>
    obtain ⟨issuerHex, issuerPk, verified⟩ := result
    dsimp only
    by_cases cached :
        mirrors.revocations.cache.isRevoked (credentialId W.hashes presentation) = true
    · simpa [isOk, cached] using applies_none coherent
    · cases isCredentialRevoked W (credentialId W.hashes presentation) with
      | error e =>
        by_cases status : statusRevoked W issuerPk verified.status = true <;>
          simpa [isOk, cached, saysRevoked, status] using applies_none coherent
      | ok revoked =>
        cases revoked with
        | true =>
          simpa [isOk, cached, saysRevoked] using applies_revoke coherent
            (credentialId W.hashes presentation) issuerHex syncReason none
        | false =>
          by_cases status : statusRevoked W issuerPk verified.status = true <;>
            simpa [isOk, cached, saysRevoked, status] using applies_none coherent

/-- Where each step ends: its effect on the lookup, whichever branch it takes. -/
theorem mirrorStep_applies {mirrors : Mirrors} (coherent : mirrors.revocations.Coherent)
    (s : MirrorStep) :
    Applies mirrors.revocations (mirrorStep mirrors s).revocations (s.effect mirrors) := by
  cases s with
  | revokeCredential W id issuer reason => exact revokeCredential_applies coherent W id issuer reason
  | suspendCredential W id issuer reason =>
    exact suspendCredential_applies coherent W id issuer reason
  | reactivateCredential W id => exact reactivateCredential_applies coherent W id
  | handleRevocation id status issuer reason =>
    exact handleRevocation_applies coherent id status issuer reason
  | verifyOnePresentation W challenge audience presentation =>
    exact verifyOnePresentation_applies coherent W challenge audience presentation
  | checkRevocation W id => exact checkRevocation_applies coherent W id

/-! ## Runs -/

/-- The mirrors together with the effects so far. -/
structure Traced where
  mirrors : Mirrors
  log : List Effect

def tracedStep (st : Traced) (s : MirrorStep) : Traced :=
  ⟨mirrorStep st.mirrors s, st.log ++ (s.effect st.mirrors).toList⟩

/-- An empty table and its cache. -/
def traceStart (attestations : Finset String) : Traced :=
  ⟨⟨RevocationRepository.initializeCache Table.empty, attestations⟩, []⟩

/-- The spellings of a credential: its base64url id, and its hash in hex. -/
def names (id : String) (hash : Bytes32) : Bool :=
  id == b64 hash.toList || hexDecode id == some hash.toList

/-- Whether the last effect on the credential, under any spelling, left it revoked or suspended. -/
def lastLeft (log : List Effect) (hash : Bytes32) : Bool :=
  (((log.filter fun e => names e.credentialId hash).getLast?).map Effect.blocked).getD false

@[simp] theorem lastLeft_concat (log : List Effect) (e : Effect) (hash : Bytes32) :
    lastLeft (log ++ [e]) hash =
      if names e.credentialId hash then e.blocked else lastLeft log hash := by
  by_cases named : names e.credentialId hash = true <;> simp [lastLeft, named]

def credentialHash (H : Hashes) (sdJwt : String) : Bytes32 := H.sha256 (asBytes (issuerJwt sdJwt))

theorem credentialId_eq (H : Hashes) (sdJwt : String) :
    credentialId H sdJwt = b64 (credentialHash H sdJwt).toList := rfl

section

variable (H : Hashes)

/-- The lookup of the verification path tells the last state of every credential. -/
def Agrees (st : Traced) : Prop :=
  ∀ sdJwt, st.mirrors.revocations.cache.isRevoked (credentialId H sdJwt) =
    lastLeft st.log (credentialHash H sdJwt)

/-- The step names what it affects by its base64url id, or repeats the state it had. -/
def NamesCanonically (st : Traced) (s : MirrorStep) : Prop :=
  ∀ e, s.effect st.mirrors = some e → ∀ sdJwt,
    names e.credentialId (credentialHash H sdJwt) = true →
    e.credentialId = credentialId H sdJwt ∨
      e.blocked = lastLeft st.log (credentialHash H sdJwt)

variable {H}

theorem names_credentialId (sdJwt : String) :
    names (credentialId H sdJwt) (credentialHash H sdJwt) = true := by
  simp [names, credentialId_eq]

/-- One step keeps the lookup right exactly when it names canonically. -/
theorem agrees_tracedStep_iff {st : Traced} (coherent : st.mirrors.revocations.Coherent)
    (agrees : Agrees H st) (s : MirrorStep) :
    Agrees H (tracedStep st s) ↔ NamesCanonically H st s := by
  have lookup := (mirrorStep_applies coherent s).lookup
  cases effect : s.effect st.mirrors with
  | none =>
    simp only [effect, afterEffect] at lookup
    constructor
    · intro _ e affected
      rw [effect] at affected
      cases affected
    · intro _ sdJwt
      simpa [tracedStep, effect, lookup] using agrees sdJwt
  | some e =>
    simp only [effect, afterEffect] at lookup
    have pointwise (sdJwt : String) :
        (tracedStep st s).mirrors.revocations.cache.isRevoked (credentialId H sdJwt) =
            lastLeft (tracedStep st s).log (credentialHash H sdJwt) ↔
          (names e.credentialId (credentialHash H sdJwt) = true →
            e.credentialId = credentialId H sdJwt ∨
              e.blocked = lastLeft st.log (credentialHash H sdJwt)) := by
      simp only [tracedStep, effect, Option.toList_some, lastLeft_concat, lookup]
      by_cases spelled : credentialId H sdJwt = e.credentialId
      · have named : names e.credentialId (credentialHash H sdJwt) = true :=
          spelled ▸ names_credentialId sdJwt
        simp [spelled, named]
      · by_cases named : names e.credentialId (credentialHash H sdJwt) = true
        · simp only [spelled, if_false, named, if_true, agrees sdJwt, true_implies]
          constructor
          · intro same
            exact .inr same.symm
          · rintro (canonical | same)
            · exact absurd canonical.symm spelled
            · exact same.symm
        · simpa [spelled, named] using agrees sdJwt
    constructor
    · intro after e' affected sdJwt
      rw [effect] at affected
      obtain rfl := Option.some.inj affected
      exact (pointwise sdJwt).mp (after sdJwt)
    · intro canonical sdJwt
      exact (pointwise sdJwt).mpr (canonical e effect sdJwt)

theorem trace_coherent (attestations : Finset String) (steps : List MirrorStep) :
    (Runs.run tracedStep (traceStart attestations) steps).mirrors.revocations.Coherent :=
  Runs.run_invariant (fun st : Traced => st.mirrors.revocations.Coherent)
    (RevocationRepository.initializeCache_coherent _)
    (fun _ s coherent => (mirrorStep_applies coherent s).coherent) steps

theorem traceStart_agrees (attestations : Finset String) : Agrees H (traceStart attestations) := by
  intro sdJwt
  rw [traceStart, RevocationRepository.initializeCache_coherent]
  rfl

end

/-- Along every run, the lookup tells the last state of every credential in every state reached,
    if and only if every step names the credential it affects by its base64url id or repeats the
    state that credential had. -/
theorem revocation_mirror_agrees_iff (H : Hashes) (attestations : Finset String)
    (steps : List MirrorStep) :
    (∀ past, past <+: steps → Agrees H (Runs.run tracedStep (traceStart attestations) past)) ↔
      ∀ past next, past ++ [next] <+: steps →
        NamesCanonically H (Runs.run tracedStep (traceStart attestations) past) next := by
  constructor
  · intro agrees past next reached
    have before := agrees past ((List.prefix_append past [next]).trans reached)
    have after := agrees (past ++ [next]) reached
    rw [Runs.run_concat] at after
    exact (agrees_tracedStep_iff (trace_coherent attestations past) before next).mp after
  · intro canonical
    refine Runs.reached_induction (traceStart_agrees attestations) fun past next reached before => ?_
    rw [Runs.run_concat]
    exact (agrees_tracedStep_iff (trace_coherent attestations past) before next).mpr
      (canonical past next reached)

/-! ## A revocation the lookup does not see -/

theorem hexEncode_ne_b64 (hash : Bytes32) : hexEncode hash.toList ≠ b64 hash.toList := by
  intro same
  have lengths := congrArg (fun s : String => s.toList.length) same
  simp [hexEncode, b64, hexEncodeChars_length, b64EncodeChars_length] at lengths

/-- The chain announces that the sample credential was revoked. -/
def sampleEvent : MirrorStep :=
  .handleRevocation (hexEncode (credentialHash sampleHashes samplePresentation).toList) "REVOKED"
    sampleIssuerHex (some "compromised")

theorem revoked_by_event_not_seen :
    (Runs.run tracedStep (traceStart ∅) [sampleEvent]).mirrors.revocations.cache.isRevoked
        (credentialId sampleHashes samplePresentation) = false ∧
      lastLeft (Runs.run tracedStep (traceStart ∅) [sampleEvent]).log
        (credentialHash sampleHashes samplePresentation) = true := by
  have affected : sampleEvent.effect (traceStart ∅).mirrors =
      some ⟨hexEncode (credentialHash sampleHashes samplePresentation).toList, true⟩ := rfl
  have lookup := (mirrorStep_applies (trace_coherent ∅ []) sampleEvent).lookup
  constructor
  · have different : credentialId sampleHashes samplePresentation ≠
        hexEncode (credentialHash sampleHashes samplePresentation).toList :=
      (hexEncode_ne_b64 _).symm
    rw [show [sampleEvent] = [] ++ [sampleEvent] from rfl, Runs.run_concat, tracedStep, lookup,
      Runs.run_nil, affected]
    simp only [afterEffect, different, if_false]
    exact traceStart_agrees (H := sampleHashes) ∅ samplePresentation
  · rw [show [sampleEvent] = [] ++ [sampleEvent] from rfl, Runs.run_concat, tracedStep,
      Runs.run_nil, affected, Option.toList_some, lastLeft_concat, if_pos (by simp [names])]

end OwlId.Verification
