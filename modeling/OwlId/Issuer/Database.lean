import Mathlib
import OwlId.Lib.Results
import OwlId.Lib.Table

/-! # The issuer's database

Sessions and claims are two maps, each under a lock of its own.  A method takes one lock
(`cleanup_expired` both) and is atomic; whatever a handler does between two calls may be
interleaved with the calls of others.  Every method that changes a session is
`updateSession` with a function, so `find_updateSession` is all that callers need.

The claims of a person are data that no method looks into, hence a parameter.
-/

namespace OwlId.Issuer

open OwlId.Lib

/-! ## Sessions -/

abbrev Uuid := Nat

inductive ProviderFlowType where
  | samlRedirect | qrPolling | webhookAsync | formBased | oidcRedirect
deriving DecidableEq

inductive SessionStatus where
  | pending | verifying | verified | failed | expired
deriving DecidableEq

inductive FlowState where
  | samlPending (relayState : String)
  | samlProcessing (relayState : String)
  | pollingPending
  | polling (orderRef : String) (pollCount lastPoll : Nat)
  | webhookPending (externalSessionId : Option String)
  | webhookWaiting (externalSessionId : String)
  | oidcPending (state : String)
  | oidcProcessing (state : String)
  | formPending
  | formProcessing
  | completed
  | failed (reason : String)
deriving DecidableEq

structure VerificationSession where
  id : Uuid
  providerId : String
  flowType : ProviderFlowType
  status : SessionStatus
  flowState : FlowState
  expiresAt : Nat
  credentialIssued : Bool
deriving DecidableEq

/-- Thirty minutes. -/
def sessionLifetime : Nat := 1800

/-- The state a flow starts in; the fresh identifiers of the redirect flows are drawn by the
caller. -/
def initialFlowState (fresh : String) : ProviderFlowType → FlowState
  | .samlRedirect => .samlPending fresh
  | .qrPolling => .pollingPending
  | .webhookAsync => .webhookPending none
  | .formBased => .formPending
  | .oidcRedirect => .oidcPending fresh

namespace VerificationSession

/-- `VerificationSession::new`. -/
def new (id : Uuid) (fresh providerId : String) (flowType : ProviderFlowType) (now : Nat) :
    VerificationSession where
  id := id
  providerId := providerId
  flowType := flowType
  status := .pending
  flowState := initialFlowState fresh flowType
  expiresAt := now + sessionLifetime
  credentialIssued := false

def isExpired (session : VerificationSession) (now : Nat) : Bool := session.expiresAt < now

/-! ### Changes -/

/-- A verified session is also complete. -/
def withStatus (session : VerificationSession) (status : SessionStatus) : VerificationSession :=
  if status = .verified then { session with status := status, flowState := .completed }
  else { session with status := status }

def verify (session : VerificationSession) : VerificationSession :=
  { session with status := .verified, flowState := .completed }

def fail (session : VerificationSession) (reason : String) : VerificationSession :=
  { session with status := .failed, flowState := .failed reason }

/-- The state after one more poll, `none` outside the polling states. -/
def polled (session : VerificationSession) (orderRef : String) (now : Nat) :
    Option VerificationSession :=
  match session.flowState with
  | .polling _ pollCount _ =>
    some { session with flowState := .polling orderRef (pollCount + 1) now }
  | .pollingPending => some { session with flowState := .polling orderRef 1 now }
  | _ => none

@[simp] theorem new_id (id : Uuid) (fresh providerId : String) (flowType : ProviderFlowType)
    (now : Nat) : (new id fresh providerId flowType now).id = id := rfl

@[simp] theorem withStatus_id (session : VerificationSession) (status : SessionStatus) :
    (session.withStatus status).id = session.id := by
  unfold withStatus
  split <;> rfl

@[simp] theorem withStatus_status (session : VerificationSession) (status : SessionStatus) :
    (session.withStatus status).status = status := by
  unfold withStatus
  split <;> rfl

/-- A poll changes nothing but the flow state. -/
theorem polled_eq_some {session after : VerificationSession} {orderRef : String} {now : Nat}
    (polls : session.polled orderRef now = some after) :
    ∃ count, after = { session with flowState := .polling orderRef count now } := by
  unfold polled at polls
  split at polls
  · exact ⟨_, (Option.some.inj polls).symm⟩
  · exact ⟨_, (Option.some.inj polls).symm⟩
  · cases polls

end VerificationSession

/-! ## The database -/

/-- What `InvalidSessionState` prints as the actual state. -/
inductive ActualState where
  | status (status : SessionStatus)
  | credentialIssued
  | flow (state : FlowState)
deriving DecidableEq

/-- The variants of `IdpError` that the database returns. -/
inductive SessionError where
  | sessionNotFound (id : Uuid)
  | invalidSessionState (expected : String) (actual : ActualState)
deriving DecidableEq

structure IdpDatabase (Claims : Type) where
  sessions : Table VerificationSession.id
  claims : Table (Prod.fst : Uuid × Claims → Uuid)

namespace IdpDatabase

variable {Claims : Type}

def new : IdpDatabase Claims := ⟨Table.empty, Table.empty⟩

def getSession (db : IdpDatabase Claims) (id : Uuid) : Option VerificationSession :=
  db.sessions.find id

def getClaims (db : IdpDatabase Claims) (id : Uuid) : Option Claims :=
  (db.claims.find id).map Prod.snd

/-- `create_session_with_flow`, of a session that was just drawn. -/
def createSessionWithFlow (db : IdpDatabase Claims) (session : VerificationSession) :
    IdpDatabase Claims :=
  { db with sessions := db.sessions.insert session }

/-- The change is made in place, so the row keeps its id. -/
def updateSession (db : IdpDatabase Claims) (id : Uuid)
    (updateFn : VerificationSession → VerificationSession) :
    Except SessionError (IdpDatabase Claims) := do
  let session ← okOr (db.getSession id) (.sessionNotFound id)
  return { db with sessions := db.sessions.insert { updateFn session with id := id } }

def updateSessionStatus (db : IdpDatabase Claims) (id : Uuid) (status : SessionStatus) :
    Except SessionError (IdpDatabase Claims) :=
  db.updateSession id (·.withStatus status)

def updateFlowState (db : IdpDatabase Claims) (id : Uuid) (flowState : FlowState) :
    Except SessionError (IdpDatabase Claims) :=
  db.updateSession id fun session => { session with flowState := flowState }

def markSessionVerified (db : IdpDatabase Claims) (id : Uuid) :
    Except SessionError (IdpDatabase Claims) :=
  db.updateSession id VerificationSession.verify

def markSessionFailed (db : IdpDatabase Claims) (id : Uuid) (reason : String) :
    Except SessionError (IdpDatabase Claims) :=
  db.updateSession id (·.fail reason)

/-- The check and the flip happen under one lock. -/
def tryClaimIssuance (db : IdpDatabase Claims) (id : Uuid) :
    Except SessionError (IdpDatabase Claims) := do
  let session ← okOr (db.getSession id) (.sessionNotFound id)
  ensure (session.status = .verified)
    (.invalidSessionState "verified" (.status session.status))
  ensure (session.credentialIssued = false)
    (.invalidSessionState "credential_issued=false" .credentialIssued)
  db.updateSession id fun session => { session with credentialIssued := true }

def updatePollingState (db : IdpDatabase Claims) (id : Uuid) (orderRef : String) (now : Nat) :
    Except SessionError (IdpDatabase Claims) := do
  let session ← okOr (db.getSession id) (.sessionNotFound id)
  let polled ← okOr (session.polled orderRef now)
    (.invalidSessionState "polling" (.flow session.flowState))
  db.updateSession id fun _ => polled

/-- A session the background task looks at. -/
def isPolling (session : VerificationSession) : Bool :=
  session.flowType = .qrPolling && session.status = .pending &&
    match session.flowState with
    | .polling _ _ _ => true
    | _ => false

def getPollingSessions (db : IdpDatabase Claims) : List VerificationSession :=
  db.sessions.rows.filter isPolling

/-- Whether a webhook for this external id is about the session. -/
def awaitsExternal (externalId : String) (session : VerificationSession) : Bool :=
  session.flowState = .webhookPending (some externalId) ||
    session.flowState = .webhookWaiting externalId

def findSessionByExternalId (db : IdpDatabase Claims) (externalId : String) :
    Option VerificationSession :=
  db.sessions.rows.find? (awaitsExternal externalId)

def findSessionByRelayState (db : IdpDatabase Claims) (relayState : String) :
    Option VerificationSession :=
  db.sessions.rows.find? fun session => session.flowState = .samlPending relayState

/-- No session is looked up. -/
def storeClaims (db : IdpDatabase Claims) (id : Uuid) (claims : Claims) : IdpDatabase Claims :=
  { db with claims := db.claims.insert (id, claims) }

def expiredIds (db : IdpDatabase Claims) (now : Nat) : List Uuid :=
  (db.sessions.rows.filter fun session => session.isExpired now).map VerificationSession.id

/-- Both locks are held, so a session and its claims go together. -/
def cleanupExpired (db : IdpDatabase Claims) (now : Nat) : IdpDatabase Claims where
  sessions := db.sessions.retain fun session => session.id ∉ db.expiredIds now
  claims := db.claims.retain fun entry => entry.1 ∉ db.expiredIds now

/-! ## What a change does -/

variable {db db' : IdpDatabase Claims} {id : Uuid} {now : Nat}

/-- What every change of a session does, guards included. -/
theorem updateSession_eq_ok {f : VerificationSession → VerificationSession} :
    db.updateSession id f = .ok db' ↔ ∃ session, db.getSession id = some session ∧
      db' = { db with sessions := db.sessions.insert { f session with id := id } } := by
  simp only [updateSession, bind_eq_ok, okOr_eq_ok, pure_eq_ok]
  constructor
  · rintro ⟨session, found, rfl⟩
    exact ⟨session, found, rfl⟩
  · rintro ⟨session, found, rfl⟩
    exact ⟨session, found, rfl⟩

theorem exists_updateSession_eq_ok {session : VerificationSession}
    (found : db.getSession id = some session) (f : VerificationSession → VerificationSession) :
    ∃ db', db.updateSession id f = .ok db' :=
  ⟨_, updateSession_eq_ok.mpr ⟨session, found, rfl⟩⟩

/-- A change fails on nothing but a session that is not there. -/
theorem getSession_of_updateSession_error {f : VerificationSession → VerificationSession}
    {e : SessionError} (fails : db.updateSession id f = .error e) : db.getSession id = none := by
  by_contra stored
  obtain ⟨session, found⟩ := Option.ne_none_iff_exists'.mp stored
  obtain ⟨_, updates⟩ := exists_updateSession_eq_ok found f
  rw [fails] at updates
  cases updates

theorem getSession_createSessionWithFlow (session : VerificationSession) (other : Uuid) :
    (db.createSessionWithFlow session).getSession other =
      if other = session.id then some session else db.getSession other := by
  rw [getSession, createSessionWithFlow, Table.find_insert]
  rfl

theorem getSession_id {session : VerificationSession} (found : db.getSession id = some session) :
    session.id = id := (Table.find_eq_some.mp found).2

/-- A session that a search finds is stored under its id. -/
theorem isSome_getSession_of_find {p : VerificationSession → Bool} {session : VerificationSession}
    (found : db.sessions.rows.find? p = some session) : (db.getSession session.id).isSome := by
  have stored : db.getSession session.id = some session :=
    Table.find_eq_some.mpr ⟨List.mem_of_find?_eq_some found, rfl⟩
  rw [stored]
  rfl

/-- The session is changed and the others are not. -/
theorem getSession_updateSession {f : VerificationSession → VerificationSession}
    (updates : db.updateSession id f = .ok db') (other : Uuid) :
    db'.getSession other =
      if other = id then (db.getSession id).map fun session => { f session with id := id }
      else db.getSession other := by
  obtain ⟨session, found, rfl⟩ := updateSession_eq_ok.mp updates
  rw [getSession, Table.find_insert, found]
  rfl

theorem claims_updateSession {f : VerificationSession → VerificationSession}
    (updates : db.updateSession id f = .ok db') : db'.claims = db.claims := by
  obtain ⟨session, _, rfl⟩ := updateSession_eq_ok.mp updates
  rfl

theorem tryClaimIssuance_eq_ok :
    db.tryClaimIssuance id = .ok db' ↔ ∃ session, db.getSession id = some session ∧
      session.status = .verified ∧ session.credentialIssued = false ∧
      db.updateSession id (fun session => { session with credentialIssued := true }) =
        .ok db' := by
  simp only [tryClaimIssuance, bind_eq_ok, okOr_eq_ok, ensure_eq_ok, exists_const]

theorem updatePollingState_eq_ok {orderRef : String} :
    db.updatePollingState id orderRef now = .ok db' ↔ ∃ session after,
      db.getSession id = some session ∧ session.polled orderRef now = some after ∧
      db.updateSession id (fun _ => after) = .ok db' := by
  simp only [updatePollingState, bind_eq_ok, okOr_eq_ok]
  constructor
  · rintro ⟨session, found, after, polls, updates⟩
    exact ⟨session, after, found, polls, updates⟩
  · rintro ⟨session, after, found, polls, updates⟩
    exact ⟨session, found, after, polls, updates⟩

theorem getClaims_storeClaims {claims : Claims} (other : Uuid) :
    (db.storeClaims id claims).getClaims other =
      if other = id then some claims else db.getClaims other := by
  rw [getClaims, storeClaims, Table.find_insert]
  by_cases here : other = id
  · rw [if_pos here, if_pos here, Option.map_some]
  · rw [if_neg here, if_neg here, getClaims]

theorem mem_expiredIds : id ∈ db.expiredIds now ↔
    ∃ session, db.getSession id = some session ∧ session.isExpired now = true := by
  simp only [expiredIds, List.mem_map, List.mem_filter, getSession, Table.find_eq_some]
  constructor
  · rintro ⟨session, ⟨member, late⟩, rfl⟩
    exact ⟨session, ⟨member, rfl⟩, late⟩
  · rintro ⟨session, ⟨member, rfl⟩, late⟩
    exact ⟨session, ⟨member, late⟩, rfl⟩

/-- A session survives unless it is expired. -/
theorem getSession_cleanupExpired (id : Uuid) :
    (db.cleanupExpired now).getSession id = (db.getSession id).filter (! ·.isExpired now) := by
  apply Option.ext
  intro session
  simp only [getSession, cleanupExpired, Table.find_retain, Option.filter_eq_some_iff]
  refine and_congr_right fun found => ?_
  have named := getSession_id found
  simp only [decide_eq_true_eq, mem_expiredIds, named, Bool.not_eq_true']
  constructor
  · intro kept
    by_contra late
    exact kept ⟨session, found, by simpa using late⟩
  · rintro fresh ⟨other, same, late⟩
    obtain rfl := Option.some.inj (found.symm.trans same)
    rw [fresh] at late
    cases late

/-- Only the claims of expired sessions go. -/
theorem getClaims_cleanupExpired (id : Uuid) :
    (db.cleanupExpired now).getClaims id = if id ∈ db.expiredIds now then none
      else db.getClaims id := by
  rw [getClaims, cleanupExpired, Table.find_retain]
  cases found : db.claims.find id with
  | none => simp [getClaims, found]
  | some entry =>
    obtain ⟨key, claims⟩ := entry
    obtain rfl : key = id := (Table.find_eq_some.mp found).2
    by_cases late : key ∈ db.expiredIds now
    · simp [late]
    · simp [late, getClaims, found]

/-- The background task sees the sessions that are polling. -/
theorem mem_getPollingSessions {session : VerificationSession} :
    session ∈ db.getPollingSessions ↔
      db.getSession session.id = some session ∧ isPolling session = true := by
  rw [getPollingSessions, List.mem_filter, getSession, Table.find_eq_some]
  simp

theorem isPolling_eq_true {session : VerificationSession} :
    isPolling session = true ↔ session.flowType = .qrPolling ∧ session.status = .pending ∧
      ∃ orderRef pollCount lastPoll, session.flowState = .polling orderRef pollCount lastPoll := by
  simp only [isPolling, Bool.and_eq_true, decide_eq_true_eq, and_assoc]
  refine and_congr_right fun _ => and_congr_right fun _ => ?_
  cases session.flowState <;> simp

end IdpDatabase

end OwlId.Issuer
