import Mathlib
import OwlId.Lib.Runs
import OwlId.Verification.DcqlSoundness

/-! # Which query a `direct_post` is judged by

The wire field `state` selects the stored query as a session id and is consumed as
a session nonce.  Ids are UUIDs and nonces are plain hex, so along every run no
string is both: a response that consumes a session never finds its stored query,
and is judged by `permissive_query`.
-/

namespace OwlId.Verification

open OwlId.Lib OwlId.ProofSystem

/-! ## Runs of the service -/

/-- The calls that reach the stores.  `mirror` is any change of the mirrors by the event
    stream or the administrators. -/
inductive Call where
  | createSession (now : Time) (idRandom nonceRandom : Vector UInt8 16)
      (dcql : Option DcqlRequest) (verifierName audience : Option String)
  | generateChallenge (now : Time) (random : Vector UInt8 8)
  | verifyDcql (W : World) (request : VerifyDcqlRequest)
  | openid4vpResponse (W : World) (body : Oid4vpResponse)
  | cleanup (now : Time)
  | mirror (mirrors : Mirrors)

def sessionTtl : Nat := 1800

def challengeTtl : Nat := 300

def step (svc : Service) : Call → Service
  | .createSession now idRandom nonceRandom dcql verifierName audience =>
    { svc with
      sessions := (PresentationSessionStore.create svc.sessions now sessionTtl idRandom nonceRandom
        dcql verifierName audience).1 }
  | .generateChallenge now random =>
    match svc.challenges.generateChallenge now challengeTtl random with
    | some (challenges, _) => { svc with challenges := challenges }
    | none => svc
  | .verifyDcql W request => (Verification.verifyDcql W svc request).2
  | .openid4vpResponse W body => (Verification.openid4vpResponse W svc body).2
  | .cleanup now =>
    { svc with
      sessions := PresentationSessionStore.cleanup svc.sessions now
      challenges := svc.challenges.cleanupPending now }
  | .mirror mirrors => { svc with mirrors := mirrors }

/-- A fresh process: the database survives, the sessions do not. -/
def start (mirrors : Mirrors) (challenges : Challenges) : Service :=
  ⟨mirrors, challenges, Table.empty⟩

/-! ## Ids and nonces -/

/-- The session was named by `create`. -/
def WellNamed (s : Session) : Prop :=
  (∃ random, s.id = uuidV4 random) ∧ ∃ bytes, s.nonce = hexEncode bytes

theorem WellNamed.id_ne_nonce {s t : Session} (hs : WellNamed s) (ht : WellNamed t) :
    s.id ≠ t.nonce := by
  obtain ⟨⟨random, hid⟩, _⟩ := hs
  obtain ⟨_, bytes, hnonce⟩ := ht
  intro same
  have hyphen := hyphen_mem_uuidV4 random
  rw [← hid, same, hnonce] at hyphen
  exact hyphen_notMem_hexEncode bytes hyphen

theorem consumeNonce_rows (store : PresentationSessionStore) (now : Time) (nonce : String) :
    ∀ s ∈ (PresentationSessionStore.consumeNonce store now nonce).1.rows, s ∈ store.rows := by
  intro s member
  unfold PresentationSessionStore.consumeNonce at member
  split at member
  · exact (Table.mem_retain.mp member).1
  · exact member

theorem takeChallenge_sessions (svc : Service) (now : Time) (challenge : String) :
    ∀ s ∈ (svc.takeChallenge now challenge).1.sessions.rows, s ∈ svc.sessions.rows := by
  intro s member
  unfold Service.takeChallenge at member
  split at member
  · exact member
  · exact consumeNonce_rows svc.sessions now challenge s member

/-- Verification only ever removes sessions. -/
theorem verifyDcql_sessions (W : World) (svc : Service) (request : VerifyDcqlRequest) :
    ∀ s ∈ (verifyDcql W svc request).2.sessions.rows, s ∈ svc.sessions.rows := by
  intro s member
  unfold verifyDcql at member
  split at member
  · exact member
  · apply takeChallenge_sessions svc W.now request.challenge
    dsimp only at member
    split at member
    · split at member <;> exact member
    · exact member

theorem step_wellNamed (svc : Service) (call : Call)
    (inv : ∀ s ∈ svc.sessions.rows, WellNamed s) :
    ∀ s ∈ (step svc call).sessions.rows, WellNamed s := by
  intro s member
  cases call with
  | createSession now idRandom nonceRandom dcql verifierName audience =>
    rcases Table.mem_insert member with rfl | old
    · exact ⟨⟨idRandom, rfl⟩, nonceRandom.toList, rfl⟩
    · exact inv s old
  | generateChallenge now random =>
    simp only [step] at member
    split at member <;> exact inv s member
  | verifyDcql W request => exact inv s (verifyDcql_sessions W svc request s member)
  | openid4vpResponse W body => exact inv s (verifyDcql_sessions W svc _ s member)
  | cleanup now => exact inv s (Table.mem_retain.mp member).1
  | mirror mirrors => exact inv s member

/-- In every run, every session was named by `create`. -/
theorem run_wellNamed (mirrors : Mirrors) (challenges : Challenges) (calls : List Call) :
    ∀ s ∈ (Runs.run step (start mirrors challenges) calls).sessions.rows, WellNamed s :=
  Runs.run_invariant (fun svc => ∀ s ∈ svc.sessions.rows, WellNamed s)
    (by simp [start, Table.empty]) (fun svc call => step_wellNamed svc call) calls

/-! ## One response -/

section

variable (W : World) (svc : Service) (body : Oid4vpResponse)

/-- The response takes the nonce of this live session. -/
structure Consumes (s : Session) : Prop where
  running : W.challengeQuery = .ok ()
  notPending : (svc.challenges.validateServerChallenge W.now body.state).2 = false
  session : PresentationSessionStore.sessionOfNonce svc.sessions W.now body.state = some s

/-- The request the session stands for. -/
def storedRequest (s : Session) (query : DcqlRequest) : VerifyDcqlRequest :=
  ⟨body.vpToken, body.state, s.audience, s.audience, query⟩

/-- The response is judged by what the session it consumes asked for. -/
structure Enforced (s : Session) : Prop where
  /-- A stored query is satisfied. -/
  satisfied : ∀ response query, (openid4vpResponse W svc body).1 = .ok response →
    response.valid = true → s.dcqlQuery = some query →
    DcqlSatisfied W (storedRequest body s query) svc.mirrors
  /-- Every presentation passes under the session's nonce and audience. -/
  bound : ∀ response, (openid4vpResponse W svc body).1 = .ok response → response.valid = true →
    ∀ row ∈ body.vpToken.rows, ∃ presentation outcome, row.2 = [presentation] ∧
      Passes W svc.mirrors body.state s.audience presentation outcome
  /-- The permissive query is not used in place of a stored one. -/
  evaluated : ∀ query, s.dcqlQuery = some query → querySource W svc body.state = .stored query

end

section

variable {W : World} {svc : Service} {body : Oid4vpResponse} {s : Session}

/-- The nonce of a session selects no session. -/
theorem Consumes.getRequestData (consumes : Consumes W svc body s)
    (named : ∀ t ∈ svc.sessions.rows, WellNamed t) :
    PresentationSessionStore.getRequestData svc.sessions W.now body.state = none := by
  obtain ⟨member, nonce, _⟩ := PresentationSessionStore.sessionOfNonce_eq_some consumes.session
  have absent : svc.sessions.find body.state = none := by
    cases found : svc.sessions.find body.state with
    | none => rfl
    | some t =>
      obtain ⟨other, id⟩ := Table.find_eq_some.mp found
      exact absurd (id.trans nonce.symm) ((named t other).id_ne_nonce (named s member))
  simp [PresentationSessionStore.getRequestData, absent]

/-- The permissive query names every presented id and asks for no predicate, so it accepts
    nothing that is presented. -/
theorem permissive_rejects {request : VerifyDcqlRequest} {svc' : Service}
    {response : VerifyDcqlResponse} (permissive : request.query = permissiveQuery request.vpToken)
    (returns : verifyDcql W svc request = (.ok response, svc')) (valid : response.valid = true) :
    request.vpToken.rows = [] := by
  obtain ⟨entries, _⟩ := verifyDcql_valid returns valid
  rw [List.eq_nil_iff_forall_not_mem]
  intro row member
  obtain ⟨presentation, _, _, satisfied⟩ := entries row member
  cases selected : queryById request.query.credentials row.1 with
  | none =>
    rw [queryById_eq_none, permissive] at selected
    exact selected (List.mem_map.mpr ⟨_, List.mem_map.mpr ⟨row, member, rfl⟩, rfl⟩)
  | some q =>
    obtain ⟨outcome, ak, _, derived, _⟩ := satisfied q selected
    obtain ⟨_, _, _, _, predicate, key, asked, _⟩ := (deriveAttestKey_eq_ok _ _).mp derived
    have listed := (queryById_eq_some selected).1
    rw [permissive] at listed
    obtain ⟨_, _, rfl⟩ := List.mem_map.mp listed
    cases asked

/-- A response that presents nothing is accepted. -/
theorem empty_response_valid (consumes : Consumes W svc body s)
    (named : ∀ t ∈ svc.sessions.rows, WellNamed t) (empty : body.vpToken.rows = []) :
    ∃ response, (openid4vpResponse W svc body).1 = .ok response ∧ response.valid = true := by
  have permissive : (oid4vpRequest W svc body).query = permissiveQuery body.vpToken := by
    simp [oid4vpRequest, querySource, consumes.getRequestData named, QuerySource.query]
  have fresh : (svc.takeChallenge W.now body.state).2 = true := by
    have pending := consumes.notPending
    unfold Service.takeChallenge
    split
    · rfl
    · simp [PresentationSessionStore.consumeNonce, consumes.session]
  have rows : (oid4vpRequest W svc body).vpToken.rows = [] := empty
  have solved : checkCredentialSets (oid4vpRequest W svc body).query
      ((oid4vpRequest W svc body).vpToken.rows.map Prod.fst) = .ok () := by
    rw [rows, permissive, checkCredentialSets_eq_ok]
    simp [permissiveQuery, requiredSets, empty]
  obtain ⟨response, svc', returns, valid⟩ :=
    verifyDcql_of_mirrored consumes.running fresh (by simp [rows]) solved
  exact ⟨response, congrArg Prod.fst returns, valid⟩

end

/-- In every run, a response enforces the session it consumes exactly when that session stored
    no query. -/
theorem openid4vp_enforces_iff (mirrors : Mirrors) (challenges : Challenges)
    (calls : List Call) (W : World) (body : Oid4vpResponse) (s : Session)
    (consumes : Consumes W (Runs.run step (start mirrors challenges) calls) body s) :
    Enforced W (Runs.run step (start mirrors challenges) calls) body s ↔ s.dcqlQuery = none := by
  have named := run_wellNamed mirrors challenges calls
  have missing := consumes.getRequestData named
  constructor
  · intro enforced
    cases stored : s.dcqlQuery with
    | none => rfl
    | some query =>
      have evaluated := enforced.evaluated query stored
      simp [querySource, missing] at evaluated
  · intro nothing
    refine ⟨fun _ query _ _ stored => ?_, fun response returns valid => ?_, fun query stored => ?_⟩
    · rw [nothing] at stored
      cases stored
    · have rows : body.vpToken.rows = [] := by
        refine permissive_rejects (W := W) ?_ (Prod.ext returns rfl) valid
        simp [oid4vpRequest, querySource, missing, QuerySource.query]
      simp [rows]
    · rw [nothing] at stored
      cases stored

/-! ## A session whose query is skipped -/

def sampleNonceBytes : Vector UInt8 16 := Vector.ofFn fun i => UInt8.ofNat (17 * i.val)

def sampleNonce : String := "00112233445566778899aabbccddeeff"

def sampleQuery : DcqlRequest := ⟨[plainQuery "kyc" (.kycGte 2)], none⟩

/-- A verifier opens a session that asks for a KYC level. -/
def sampleCalls : List Call :=
  [.createSession 1750000000 (Vector.replicate 16 7) sampleNonceBytes (some sampleQuery) none
    (some "https://verifier.example")]

def sampleStart : Service := start (sampleMirrors ∅) Table.empty

def sampleBody : Oid4vpResponse := ⟨Table.empty, sampleNonce⟩

def sampleSession : Session where
  id := uuidV4 (Vector.replicate 16 7)
  nonce := hexEncode sampleNonceBytes.toList
  expiresAt := 1750001800
  dcqlQuery := some sampleQuery
  verifierName := none
  audience := some "https://verifier.example"

theorem sampleNonce_eq : hexEncode sampleNonceBytes.toList = sampleNonce := by decide

theorem sampleCalls_sessions :
    (Runs.run step sampleStart sampleCalls).sessions.rows = [sampleSession] := rfl

/-- One minute later the wallet posts an empty token. -/
theorem sample_consumes :
    Consumes (sampleWorld 1750000060) (Runs.run step sampleStart sampleCalls) sampleBody
      sampleSession where
  running := rfl
  notPending := rfl
  session := by
    rw [PresentationSessionStore.sessionOfNonce, sampleCalls_sessions, List.find?_cons_of_pos]
    simp [sampleSession, sampleBody, sampleWorld, sampleNonce_eq]

theorem openid4vp_empty_token_accepted :
    ∃ response, (openid4vpResponse (sampleWorld 1750000060)
        (Runs.run step sampleStart sampleCalls) sampleBody).1 = .ok response ∧
      response.valid = true ∧ sampleSession.dcqlQuery = some sampleQuery ∧
      ¬ DcqlSatisfied (sampleWorld 1750000060)
        (storedRequest sampleBody sampleSession sampleQuery)
        (Runs.run step sampleStart sampleCalls).mirrors := by
  obtain ⟨response, returns, valid⟩ :=
    empty_response_valid sample_consumes (run_wellNamed _ _ _) rfl
  refine ⟨response, returns, valid, rfl, fun satisfied => ?_⟩
  obtain ⟨presentation, row, _⟩ := satisfied.credentials rfl _ (List.mem_singleton.mpr rfl)
  cases row

theorem openid4vp_enforces_iff_at_sample :
    ¬ Enforced (sampleWorld 1750000060) (Runs.run step sampleStart sampleCalls) sampleBody
      sampleSession := by
  rw [sampleStart, openid4vp_enforces_iff (sampleMirrors ∅) Table.empty sampleCalls
    (sampleWorld 1750000060) sampleBody sampleSession sample_consumes]
  simp [sampleSession]

end OwlId.Verification
