import Mathlib
import OwlId.Issuer.Database

/-! # Writes to one session

Every handler of the issuer changes the database through a few methods that name one
session.  `SessionWrite` lists them and `apply_cases` says once what such a write can do:
either it stores claims, without looking at the sessions, or it changes the named session
and nothing else.  What later modules know about writes they know from there.
-/

namespace OwlId.Issuer

open OwlId.Lib

variable {Claims : Type}

/-- A call of the database about one session. -/
inductive SessionWrite (Claims : Type) where
  | updateSessionStatus (status : SessionStatus)
  | updateFlowState (flowState : FlowState)
  | markSessionVerified
  | markSessionFailed (reason : String)
  | updatePollingState (orderRef : String)
  | storeClaims (claims : Claims)

namespace SessionWrite

/-- The call, made for session `id` at this time. -/
def apply (db : IdpDatabase Claims) (id : Uuid) (now : Nat) :
    SessionWrite Claims → Except SessionError (IdpDatabase Claims)
  | .updateSessionStatus status => db.updateSessionStatus id status
  | .updateFlowState flowState => db.updateFlowState id flowState
  | .markSessionVerified => db.markSessionVerified id
  | .markSessionFailed reason => db.markSessionFailed id reason
  | .updatePollingState orderRef => db.updatePollingState id orderRef now
  | .storeClaims claims => .ok (db.storeClaims id claims)

/-- The status the write leaves behind. -/
def statusAfter (before : SessionStatus) : SessionWrite Claims → SessionStatus
  | .updateSessionStatus status => status
  | .markSessionVerified => .verified
  | .markSessionFailed _ => .failed
  | .updateFlowState _ | .updatePollingState _ | .storeClaims _ => before

/-! ## What a write does -/

/-- The part of a session that no write touches. -/
structure Keeps (before after : VerificationSession) : Prop where
  id : after.id = before.id
  providerId : after.providerId = before.providerId
  flowType : after.flowType = before.flowType
  expiresAt : after.expiresAt = before.expiresAt
  credentialIssued : after.credentialIssued = before.credentialIssued

/-- `db'` is `db` with the session `id` changed to `after`. -/
structure Replaces (db db' : IdpDatabase Claims) (id : Uuid) (after : VerificationSession) :
    Prop where
  getSession (other : Uuid) :
    db'.getSession other = if other = id then some after else db.getSession other
  claims : db'.claims = db.claims

variable {db db' : IdpDatabase Claims} {id : Uuid} {now : Nat}

theorem replaces_of_updateSession {session : VerificationSession}
    {f : VerificationSession → VerificationSession} (found : db.getSession id = some session)
    (updates : db.updateSession id f = .ok db') :
    Replaces db db' id { f session with id := id } where
  getSession other := by
    rw [IdpDatabase.getSession_updateSession updates, found]
    rfl
  claims := IdpDatabase.claims_updateSession updates

/-- A write that goes through `updateSession` with a function that keeps what is kept. -/
theorem exists_replaces {f : VerificationSession → VerificationSession}
    (updates : db.updateSession id f = .ok db') (keeps : ∀ session, Keeps session (f session)) :
    ∃ session after, db.getSession id = some session ∧ Replaces db db' id after ∧
      Keeps session after ∧ after.status = (f session).status := by
  obtain ⟨session, found, _⟩ := IdpDatabase.updateSession_eq_ok.mp updates
  have kept := keeps session
  exact ⟨session, _, found, replaces_of_updateSession found updates,
    ⟨(IdpDatabase.getSession_id found).symm, kept.providerId, kept.flowType, kept.expiresAt,
      kept.credentialIssued⟩, rfl⟩

theorem keeps_withStatus (session : VerificationSession) (status : SessionStatus) :
    Keeps session (session.withStatus status) := by
  unfold VerificationSession.withStatus
  split <;> exact ⟨rfl, rfl, rfl, rfl, rfl⟩

/-- What a write can do. -/
theorem apply_cases {write : SessionWrite Claims} (applied : write.apply db id now = .ok db') :
    (∃ claims, write = .storeClaims claims ∧ db' = db.storeClaims id claims) ∨
    ∃ session after, db.getSession id = some session ∧ Replaces db db' id after ∧
      Keeps session after ∧ after.status = write.statusAfter session.status := by
  cases write with
  | storeClaims claims => exact .inl ⟨claims, rfl, (Except.ok.inj applied).symm⟩
  | updateSessionStatus status =>
    obtain ⟨session, after, found, replaces, keeps, status⟩ :=
      exists_replaces applied fun session => keeps_withStatus session status
    refine .inr ⟨session, after, found, replaces, keeps, status.trans ?_⟩
    exact session.withStatus_status _
  | updateFlowState flowState =>
    have changed := exists_replaces applied fun session =>
      (⟨rfl, rfl, rfl, rfl, rfl⟩ : Keeps session { session with flowState := flowState })
    exact .inr changed
  | markSessionVerified =>
    exact .inr (exists_replaces applied fun _ => ⟨rfl, rfl, rfl, rfl, rfl⟩)
  | markSessionFailed reason =>
    exact .inr (exists_replaces applied fun _ => ⟨rfl, rfl, rfl, rfl, rfl⟩)
  | updatePollingState orderRef =>
    -- the new row was computed from the row found, so the function is constant
    obtain ⟨session, polled, found, polls, updates⟩ :=
      IdpDatabase.updatePollingState_eq_ok.mp applied
    obtain ⟨count, rfl⟩ := VerificationSession.polled_eq_some polls
    refine .inr ⟨session, _, found, replaces_of_updateSession found updates, ?_, rfl⟩
    exact ⟨(IdpDatabase.getSession_id found).symm, rfl, rfl, rfl, rfl⟩

/-! ## Consequences -/

/-- A session is there after a write exactly when it was there before, with what is kept. -/
theorem getSession_apply {write : SessionWrite Claims} (applied : write.apply db id now = .ok db')
    {other : Uuid} {after : VerificationSession} (found : db'.getSession other = some after) :
    ∃ before, db.getSession other = some before ∧ Keeps before after ∧
      (other ≠ id → after = before) := by
  rcases apply_cases applied with ⟨claims, rfl, rfl⟩ | ⟨session, changed, here, replaces, keeps, _⟩
  · exact ⟨after, found, ⟨rfl, rfl, rfl, rfl, rfl⟩, fun _ => rfl⟩
  · rw [replaces.getSession] at found
    by_cases same : other = id
    · rw [if_pos same] at found
      obtain rfl := Option.some.inj found
      exact ⟨session, same ▸ here, keeps, absurd same⟩
    · rw [if_neg same] at found
      exact ⟨after, found, ⟨rfl, rfl, rfl, rfl, rfl⟩, fun _ => rfl⟩

theorem isSome_getSession_apply {write : SessionWrite Claims}
    (applied : write.apply db id now = .ok db') (other : Uuid) :
    (db'.getSession other).isSome = (db.getSession other).isSome := by
  rcases apply_cases applied with ⟨claims, rfl, rfl⟩ | ⟨session, after, here, replaces, _, _⟩
  · rfl
  · rw [replaces.getSession]
    by_cases same : other = id
    · rw [if_pos same, same, here, Option.isSome_some, Option.isSome_some]
    · rw [if_neg same]

end SessionWrite

end OwlId.Issuer
