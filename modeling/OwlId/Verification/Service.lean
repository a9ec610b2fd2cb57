import Mathlib
import OwlId.ProofSystem.SdJwtSoundness
import OwlId.Verification.Sessions
import OwlId.Verification.Revocations

/-! # The verification endpoints

`verify_one_presentation`, `verify_dcql` and the OpenID4VP response endpoint over
it.  `World` is what a request reads from outside the service, fixed while the
request runs: the clock, the libraries, the DID resolver, the chain and the
status lists.  `Service` is what the service itself keeps and changes.

Logging, metrics and the audit trail are left out, and a write to a mirror is
taken to succeed, as the handlers ignore its failure.
-/

namespace OwlId.Verification

open OwlId.Lib OwlId.ProofSystem

/-! ## Outside the service -/

/-- The month of a time in UTC. -/
def utcMonth (time : Time) : UtcMonth :=
  let z := time / 86400 + 719468
  let era := z / 146097
  let dayOfEra := z % 146097
  let yearOfEra := (dayOfEra - dayOfEra / 1460 + dayOfEra / 36524 - dayOfEra / 146096) / 365
  let dayOfYear := dayOfEra - (365 * yearOfEra + yearOfEra / 4 - yearOfEra / 100)
  let shifted := (5 * dayOfYear + 2) / 153
  let month := if shifted < 10 then shifted + 3 else shifted - 9
  let year := yearOfEra + era * 400 + if month ≤ 2 then 1 else 0
  ⟨year.toNat, month.toNat⟩

example : utcMonth 951782399 = ⟨2000, 2⟩ ∧ utcMonth 951868800 = ⟨2000, 3⟩ ∧
    utcMonth 1800000000 = ⟨2027, 1⟩ := by decide

structure ResolvedDid where
  did : String
  keyHex : String
  keyAlg : SignatureAlgorithm
  docHashHex : String

/-- A write to the revocation registry, by hex id and issuer key. -/
inductive ChainWrite where
  | revoke (rootHash issuerPublicKey reason : String)
  | suspend (rootHash issuerPublicKey reason : String)
  | reactivate (rootHash issuerPublicKey : String)

/-- What a request reads from outside; an error is its text. -/
structure World where
  primitives : Primitives
  hashes : Hashes
  now : Time
  resolve : String → Except String ResolvedDid
  /-- The document hash anchored on chain for a DID hash. -/
  getCommitment : String → Except String (Option String)
  /-- The active rows of the issuer mirror, by public key. -/
  trustedIssuers : Except String (List String)
  isIssuerTrusted : String → Except String Bool
  /-- The revocation registry, by hex id. -/
  chainRevoked : String → Except String Bool
  statusListRevoked : String → PublicKey → Nat → Except String Bool
  isAttestedOnChain : String → String → Except String Bool
  /-- Whether the statement on the challenge table runs. -/
  challengeQuery : Except String Unit
  chainWrite : ChainWrite → Except String Unit

/-! ## What the service keeps -/

structure Mirrors where
  revocations : RevocationRepository
  /-- The attested keys, mirrored from the chain. -/
  attestations : Finset String

structure Service where
  mirrors : Mirrors
  challenges : Challenges
  sessions : PresentationSessionStore

inductive ApiError where
  | database (message : String)
  | serialization (message : String)
  | invalidInput (message : String)
  | internal (message : String)

/-- Why the chain of checks on a presentation stops: a verdict, or a failure of the service. -/
inductive Stop where
  | rejected (message : String)
  | aborted (error : ApiError)

section

variable (W : World)

/-! ## The issuer -/

def didWebDidHash (did : String) : String := hexEncode (W.hashes.sha256 (asBytes did)).toList

def isDidWeb (did : String) : Bool := "did:web:".toList.isPrefixOf did.toList

/-- A missing anchor and an unreachable chain both pass. -/
def anchorCheck (resolved : ResolvedDid) : Except String Unit :=
  if isDidWeb resolved.did then
    match W.getCommitment (didWebDidHash W resolved.did) with
    | .ok (some c) =>
      ensure (eqIgnoreAsciiCase c resolved.docHashHex = true)
        ("did:web doc-hash anchor mismatch: on-chain " ++ c ++ ", fetched " ++ resolved.docHashHex)
    | .ok none => .ok ()
    | .error _ => .ok ()
  else .ok ()

/-- The mirror first, then the chain. -/
def issuerTrust (iss issuerHex : String) (issuers : List String) : Except Stop Unit :=
  if issuers.any (eqIgnoreAsciiCase · issuerHex) then .ok ()
  else match W.isIssuerTrusted issuerHex with
    | .ok true => .ok ()
    | .ok false => .error (.rejected ("Untrusted issuer: " ++ iss))
    | .error e => .error (.rejected ("Chain trust check failed for " ++ iss ++ ": " ++ e))

/-- The key the presentation has to be signed with, as hex and decoded. -/
def issuerKey (presentation : String) : Except Stop (String × PublicKey) := do
  let iss ← mapErr (fun e => .rejected ("Invalid SD-JWT VC: " ++ e.display))
    (peekIss W.primitives presentation)
  let resolved ← mapErr (fun e => .rejected ("Issuer DID resolution failed: " ++ e)) (W.resolve iss)
  ensure (resolved.keyAlg = .ed25519)
    (.rejected ("Issuer DID " ++ iss ++
      " resolved to non-Ed25519 key — issuer JWS must be EdDSA"))
  mapErr .rejected (anchorCheck W resolved)
  let issuers ← mapErr (fun e => .aborted (.database e)) W.trustedIssuers
  issuerTrust W iss resolved.keyHex issuers
  let issuerPk ← mapErr (fun e => .rejected ("Bad issuer key: " ++ e.display))
    (PublicKey.fromHex W.primitives resolved.keyHex)
  return (resolved.keyHex, issuerPk)

/-! ## One presentation -/

structure VerifyResponse where
  valid : Bool
  error : Option String
  subjects : Option Json

structure PresentationOutcome where
  response : VerifyResponse
  vct : Option String
  credentialId : Option String
  issuerPublicKey : Option String

def failResponse (message : String) : VerifyResponse := ⟨false, some message, none⟩

def fail (message : String) : PresentationOutcome := ⟨failResponse message, none, none, none⟩

/-- The cryptographic checks: the issuer's hex key and what the credential says. -/
def checkPresentation (challenge : String) (audience : Option String) (presentation : String) :
    Except Stop (String × PublicKey × Verified) := do
  let (issuerHex, issuerPk) ← issuerKey W presentation
  let verified ← mapErr (fun e => .rejected e.display)
    (verify W.primitives W.hashes presentation issuerPk ⟨true, audience, some challenge⟩)
  return (issuerHex, issuerPk, verified)

/-- The sidecar is asked by hex id; an id it cannot decode is an error. -/
def isCredentialRevoked (credentialId : String) : Except String Bool := do
  let hex ← mapErr (fun e => "credential id: " ++ e.display)
    (credentialIdHex W.primitives credentialId)
  W.chainRevoked hex

/-- Only a positive answer of the status list counts. -/
def statusRevoked (issuerPk : PublicKey) : Option StatusRef → Bool
  | some st => match W.statusListRevoked st.uri issuerPk st.idx with
    | .ok revoked => revoked
    | .error _ => false
  | none => false

def syncReason : Option String := some "Synced from chain"

def verifyOnePresentation (mirrors : Mirrors) (challenge : String) (audience : Option String)
    (presentation : String) : Except ApiError PresentationOutcome × Mirrors :=
  match checkPresentation W challenge audience presentation with
  | .error (.aborted e) => (.error e, mirrors)
  | .error (.rejected message) => (.ok (fail message), mirrors)
  | .ok (issuerHex, issuerPk, verified) =>
    let credId := credentialId W.hashes presentation
    if mirrors.revocations.cache.isRevoked credId then (.ok (fail "Credential revoked"), mirrors)
    else match isCredentialRevoked W credId with
      | .ok true =>
        (.ok (fail "Credential revoked on-chain"),
          { mirrors with
            revocations := mirrors.revocations.revoke credId issuerHex syncReason none })
      | _ =>
        -- an unreachable chain does not block
        if statusRevoked W issuerPk verified.status then
          (.ok (fail "Credential revoked (status list)"), mirrors)
        else
          (.ok ⟨⟨true, none, some (.object verified.claims)⟩, some verified.vct, some credId,
            some issuerHex⟩, mirrors)

/-! ## DCQL requests -/

structure VerifyDcqlRequest where
  vpToken : VpToken
  challenge : String
  audience : Option String
  verifierId : Option String
  query : DcqlRequest

structure VerifyDcqlResponse where
  valid : Bool
  perCredential : List (String × VerifyResponse)
  subjects : List (String × Json)
  error : Option String

def failAll (message : String) (vpToken : VpToken) : VerifyDcqlResponse where
  valid := false
  perCredential := vpToken.rows.map fun entry => (entry.1, failResponse message)
  subjects := []
  error := some message

/-- `query_by_id`: of two queries with one id the map keeps the later. -/
def queryById (credentials : List DcqlCredentialQuery) (id : String) :
    Option DcqlCredentialQuery := credentials.reverse.find? fun q => q.id = id

/-- The verifier's identity, by default the audience. -/
def VerifyDcqlRequest.verifier (request : VerifyDcqlRequest) : String :=
  (request.verifierId.or request.audience).getD ""

/-- The attestation key a query asks for, given what the presentation was verified to be. -/
def keyFor (request : VerifyDcqlRequest) (q : DcqlCredentialQuery) (presentation : String)
    (outcome : PresentationOutcome) : Except String AttestKey :=
  let credIdHex := ((credentialIdHex W.primitives (outcome.credentialId.getD "")).toOption).getD ""
  deriveAttestKey W.hashes (utcMonth W.now) q (outcome.vct.getD "") credIdHex
    (owlRootHex W.primitives presentation) request.verifier

/-- A key confirmed on chain is added to the mirror. -/
def attestationOnChain (attestations : Finset String) (kind keyHex : String) :
    Bool × Finset String :=
  match W.isAttestedOnChain kind keyHex with
  | .ok true => (true, insert keyHex attestations)
  | _ => (false, attestations)

def isAttested (attestations : Finset String) (ak : AttestKey) : Bool × Finset String :=
  if ak.keyHex ∈ attestations then (true, attestations)
  else attestationOnChain W attestations ak.kind ak.keyHex

/-- The constraint of the query on a presentation that verified. -/
def checkQuery (request : VerifyDcqlRequest) (attestations : Finset String)
    (q : DcqlCredentialQuery) (presentation : String) (outcome : PresentationOutcome) :
    VerifyResponse × Finset String :=
  match keyFor W request q presentation outcome with
  | .ok ak =>
    let (attested, attestations) := isAttested W attestations ak
    if attested then (outcome.response, attestations)
    else (failResponse ("DCQL credential " ++ q.id ++ " not attested on Midnight (per-kind " ++
      "predicate attestation Set membership miss)"), attestations)
  | .error e => (failResponse e, attestations)

def verifyEntry (request : VerifyDcqlRequest) (mirrors : Mirrors) (credId : String) :
    List String → Except ApiError VerifyResponse × Mirrors
  | [presentation] =>
    match verifyOnePresentation W mirrors request.challenge request.audience presentation with
    | (.error e, mirrors) => (.error e, mirrors)
    | (.ok outcome, mirrors) =>
      match outcome.response.valid, queryById request.query.credentials credId with
      | true, some q =>
        let (response, attestations) :=
          checkQuery W request mirrors.attestations q presentation outcome
        (.ok response, { mirrors with attestations := attestations })
      -- an id the query does not name has nothing more to satisfy
      | _, _ => (.ok outcome.response, mirrors)
  | [] => (.ok (failResponse ("vp_token entry " ++ credId ++
      " is empty (OID4VP §8.1 mandates ≥1 presentation per credential query)")), mirrors)
  | presentations => (.ok (failResponse ("vp_token entry " ++ credId ++ " has " ++
      toString presentations.length ++ " presentations but `multiple` was " ++
      "not set on the credential query")), mirrors)

def verifyEntries (request : VerifyDcqlRequest) (mirrors : Mirrors) :
    List (String × List String) → Except ApiError (List (String × VerifyResponse)) × Mirrors
  | [] => (.ok [], mirrors)
  | (credId, presentations) :: rest =>
    match verifyEntry W request mirrors credId presentations with
    | (.error e, mirrors) => (.error e, mirrors)
    | (.ok response, mirrors) =>
      match verifyEntries request mirrors rest with
      | (.error e, mirrors) => (.error e, mirrors)
      | (.ok responses, mirrors) => (.ok ((credId, response) :: responses), mirrors)

def satisfiedIds (perCredential : List (String × VerifyResponse)) : List String :=
  (perCredential.filter fun entry => entry.2.valid).map Prod.fst

def conclude (query : DcqlRequest) (perCredential : List (String × VerifyResponse)) :
    VerifyDcqlResponse :=
  let setErr := match checkCredentialSets query (satisfiedIds perCredential) with
    | .ok () => none
    | .error e => some e
  { valid := setErr.isNone && perCredential.all fun entry => entry.2.valid
    perCredential := perCredential
    subjects := perCredential.filterMap fun entry => entry.2.subjects.map fun s => (entry.1, s)
    error := setErr }

/-- A challenge is taken from the table first, from the sessions otherwise. -/
def Service.takeChallenge (svc : Service) (now : Time) (challenge : String) : Service × Bool :=
  match svc.challenges.validateServerChallenge now challenge with
  | (challenges, true) => ({ svc with challenges := challenges }, true)
  | (_, false) =>
    let (sessions, consumed) := PresentationSessionStore.consumeNonce svc.sessions now challenge
    ({ svc with sessions := sessions }, consumed)

def staleChallenge : String :=
  "Invalid or expired challenge. Use GET /verify/challenge or a presentation-session nonce."

def verifyDcql (svc : Service) (request : VerifyDcqlRequest) :
    Except ApiError VerifyDcqlResponse × Service :=
  match W.challengeQuery with
  | .error _ => (.ok (failAll "Challenge validation failed" request.vpToken), svc)
  | .ok () =>
    let (svc, challengeOk) := svc.takeChallenge W.now request.challenge
    if challengeOk then
      match verifyEntries W request svc.mirrors request.vpToken.rows with
      | (.error e, mirrors) => (.error e, { svc with mirrors := mirrors })
      | (.ok perCredential, mirrors) =>
        (.ok (conclude request.query perCredential), { svc with mirrors := mirrors })
    else (.ok (failAll staleChallenge request.vpToken), svc)

/-! ## The OpenID4VP response endpoint -/

/-- Where the query that is evaluated comes from. -/
inductive QuerySource where
  | stored (query : DcqlRequest)
  | permissive

def QuerySource.query (vpToken : VpToken) : QuerySource → DcqlRequest
  | .stored query => query
  | .permissive => permissiveQuery vpToken

/-- `state` selects the session by id. -/
def querySource (svc : Service) (state : String) : QuerySource :=
  match PresentationSessionStore.getRequestData svc.sessions W.now state with
  | some data => match data.dcqlQuery with
    | some query => .stored query
    | none => .permissive
  | none => .permissive

def sessionAudience (svc : Service) (state : String) : Option String :=
  (PresentationSessionStore.getRequestData svc.sessions W.now state).bind (·.audience)

/-- The parsed body of a `direct_post`. -/
structure Oid4vpResponse where
  vpToken : VpToken
  state : String

/-- The request the endpoint hands on; `state` is also the challenge. -/
def oid4vpRequest (svc : Service) (body : Oid4vpResponse) : VerifyDcqlRequest :=
  let audience := sessionAudience W svc body.state
  { vpToken := body.vpToken
    challenge := body.state
    audience := audience
    verifierId := audience
    query := (querySource W svc body.state).query body.vpToken }

def openid4vpResponse (svc : Service) (body : Oid4vpResponse) :
    Except ApiError VerifyDcqlResponse × Service :=
  verifyDcql W svc (oid4vpRequest W svc body)

end

end OwlId.Verification
