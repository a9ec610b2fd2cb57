import Mathlib
import OwlId.Issuer.PollingRounds
import OwlId.Issuer.SessionWrites

/-! # The handlers of a verification session

A handler reads its session, may await the provider, and then makes a list of writes one
after the other.  Between any two of these points other handlers, the clock and the
clean-up go on.  The reads decide whether the handler goes on at all (`HandlerCall.begin`);
what the provider answers decides the writes (`Asked.writes`); nothing is read again before
a write, so a write acts on whatever the session has become.
-/

namespace OwlId.Issuer

open OwlId.Lib

variable {Claims : Type}

/-! ## What handlers do -/

/-- What a handler awaits from the provider of its session. -/
inductive Asked where
  /-- `start_verification`, right after the session was created. -/
  | start
  | pollSession (orderRef : String)
  /-- The background task, for one session of its snapshot. -/
  | pollRound (orderRef : String)
  | completeVerification
  | samlCallback
  | oidcCallback

inductive ProviderAnswer (Claims : Type) where
  | started (externalSessionId : Option String)
  | polled (result : PollResult Claims)
  | claims (claims : Claims)
  | error (message : String)

/-- The claims are stored before the session is marked. -/
def verifyWith (claims : Claims) : List (SessionWrite Claims) :=
  [.storeClaims claims, .markSessionVerified]

/-- The writes of `poll_session` after those of `update_polling_state`. -/
def pollSessionWrites : PollResult Claims → List (SessionWrite Claims)
  | .complete claims => verifyWith claims
  | .pending _ | .userInteracting _ => []
  | .failed reason => [.markSessionFailed reason]
  | .expired => [.updateSessionStatus .expired]

def pollRoundWrites (orderRef : String) : PollResult Claims → List (SessionWrite Claims)
  | .complete claims => verifyWith claims
  | .pending _ => [.updatePollingState orderRef]
  | .userInteracting _ => [.updateSessionStatus .verifying, .updatePollingState orderRef]
  | .failed reason => [.markSessionFailed reason]
  | .expired => [.updateSessionStatus .expired]

/-- What a handler writes once the provider has answered. -/
def Asked.writes : Asked → ProviderAnswer Claims → List (SessionWrite Claims)
  | .start, .started (some externalId) => [.updateFlowState (.webhookPending (some externalId))]
  | .pollSession orderRef, .polled result => .updatePollingState orderRef :: pollSessionWrites result
  | .pollRound orderRef, .polled result => pollRoundWrites orderRef result
  | .pollRound orderRef, .error _ => [.updatePollingState orderRef]
  | .completeVerification, .claims claims => verifyWith claims
  | .samlCallback, .claims claims => verifyWith claims
  | .oidcCallback, .claims claims => verifyWith claims
  | _, _ => []

inductive HandlerStage (Claims : Type) where
  | asking (asked : Asked)
  | writing (writes : List (SessionWrite Claims))

/-- A handler in flight.  An error of a write is logged where `goesOn`, and ends it elsewhere. -/
structure SessionHandler (Claims : Type) where
  session : Uuid
  goesOn : Bool
  stage : HandlerStage Claims

/-- The writes ahead of a handler. -/
def SessionHandler.pending (handler : SessionHandler Claims) : List (SessionWrite Claims) :=
  match handler.stage with
  | .asking _ => []
  | .writing writes => writes

/-- What the handlers take from the configuration, and the sample data of `auto_verify`. -/
structure HandlerConfig (Claims : Type) where
  polling : PollingConfig
  isRegistered : String → Bool
  digidSample : Claims
  bankidSample : Claims

/-- Which handler runs, about what. -/
inductive HandlerCall (Claims : Type) where
  | pollSession (id : Uuid)
  | pollRound (id : Uuid)
  | completeVerification (id : Uuid)
  | samlCallback (relayState : String)
  /-- The provider has already accepted the webhook and read the claims from it. -/
  | webhook (externalId : String) (claims : Claims)
  | autoVerify (id : Uuid)
  /-- `form` holds the claims of the form, if it is valid. -/
  | submitIdentity (id : Uuid) (form : Option Claims)
  /-- The session named by the entry of the state parameter. -/
  | oidcCallback (id : Uuid)

/-- The providers whose start marks the session pending once more. -/
def isMock (providerId : String) : Bool := providerId = "mock-digid" || providerId = "mock-bankid"

section

variable (config : HandlerConfig Claims) (now : Nat)

/-- `poll_session` looks at the flow, not at the status. -/
def pollSessionBegin (session : VerificationSession) : Option (SessionHandler Claims) :=
  if session.flowType = .qrPolling && config.isRegistered session.providerId then
    match session.flowState with
    | .polling orderRef _ _ => some ⟨session.id, false, .asking (.pollSession orderRef)⟩
    | _ => none
  else none

/-- The turn of one session in a round of the background task. -/
def pollRoundBegin (session : VerificationSession) : Option (SessionHandler Claims) :=
  if IdpDatabase.isPolling session then
    match session.flowState with
    | .polling orderRef pollCount _ =>
      if config.polling.maxPollCount ≤ pollCount then
        some ⟨session.id, false, .writing [.markSessionFailed "Verification timed out"]⟩
      else if config.isRegistered session.providerId then
        some ⟨session.id, true, .asking (.pollRound orderRef)⟩
      else none
    | _ => none
  else none

/-- A verified session is answered from the stored claims. -/
def completeVerificationBegin (session : VerificationSession) : Option (SessionHandler Claims) :=
  if session.isExpired now || session.status = .verified then none
  else if session.flowType = .webhookAsync && config.isRegistered session.providerId then
    match session.flowState with
    | .webhookPending (some _) => some ⟨session.id, false, .asking .completeVerification⟩
    | _ => none
  else none

/-- The status is not looked at. -/
def autoVerifyBegin (session : VerificationSession) : Option (SessionHandler Claims) :=
  if session.isExpired now then none
  else if session.providerId = "mock-digid" then
    some ⟨session.id, false, .writing (verifyWith config.digidSample)⟩
  else if session.providerId = "mock-bankid" then
    some ⟨session.id, false, .writing (verifyWith config.bankidSample)⟩
  else none

/-- `submit_identity` of the two mock providers. -/
def submitIdentityBegin (session : VerificationSession) (form : Option Claims) :
    Option (SessionHandler Claims) :=
  if session.flowType = .formBased && isMock session.providerId then
    if session.isExpired now then
      -- only one of the two records that the session expired
      if session.providerId = "mock-digid" then
        some ⟨session.id, false, .writing [.updateSessionStatus .expired]⟩
      else none
    else if session.status = .pending then
      match form with
      | some claims =>
        if session.providerId = "mock-digid" then
          some ⟨session.id, false,
            .writing (.updateSessionStatus .verifying :: verifyWith claims)⟩
        else some ⟨session.id, false, .writing (verifyWith claims)⟩
      | none => none
    else none
  else none

/-- What a handler does before it first waits; `none` where it answers at once. -/
def HandlerCall.begin (db : IdpDatabase Claims) (drawn : Uuid) :
    HandlerCall Claims → Option (SessionHandler Claims)
  | .pollSession id => (db.getSession id).bind (pollSessionBegin config)
  | .pollRound id => (db.getSession id).bind (pollRoundBegin config)
  | .completeVerification id => (db.getSession id).bind (completeVerificationBegin config now)
  | .samlCallback relayState =>
    (db.findSessionByRelayState relayState).bind fun session =>
      if config.isRegistered session.providerId then
        some ⟨session.id, false, .asking .samlCallback⟩
      else none
  | .webhook externalId claims =>
    (db.findSessionByExternalId externalId).map fun session =>
      ⟨session.id, false, .writing (verifyWith claims)⟩
  | .autoVerify id => (db.getSession id).bind (autoVerifyBegin config now)
  | .submitIdentity id form =>
    (db.getSession id).bind fun session => submitIdentityBegin now session form
  -- the session is not looked up, but the entry was stored for one that was created
  | .oidcCallback id => if id < drawn then some ⟨id, false, .asking .oidcCallback⟩ else none

end

/-! ### How handlers begin -/

/-- What a handler may have decided to write when it first waits. -/
inductive Opening : List (SessionWrite Claims) → Prop where
  | asks : Opening []
  | timesOut (reason : String) : Opening [.markSessionFailed reason]
  | expires : Opening [.updateSessionStatus .expired]
  | verifies (claims : Claims) : Opening (verifyWith claims)
  | verifiesSlowly (claims : Claims) :
    Opening (.updateSessionStatus .verifying :: verifyWith claims)

section

variable {config : HandlerConfig Claims} {now : Nat} {session : VerificationSession}
  {handler : SessionHandler Claims}

theorem pollSessionBegin_opens (begins : pollSessionBegin config session = some handler) :
    handler.session = session.id ∧ Opening handler.pending := by
  unfold pollSessionBegin at begins
  split at begins
  · split at begins
    · cases begins
      exact ⟨rfl, .asks⟩
    · cases begins
  · cases begins

theorem pollRoundBegin_opens (begins : pollRoundBegin config session = some handler) :
    handler.session = session.id ∧ Opening handler.pending := by
  unfold pollRoundBegin at begins
  split at begins
  · split at begins
    · split at begins
      · cases begins
        exact ⟨rfl, .timesOut _⟩
      · split at begins
        · cases begins
          exact ⟨rfl, .asks⟩
        · cases begins
    · cases begins
  · cases begins

theorem completeVerificationBegin_opens
    (begins : completeVerificationBegin config now session = some handler) :
    handler.session = session.id ∧ Opening handler.pending := by
  unfold completeVerificationBegin at begins
  split at begins
  · cases begins
  · split at begins
    · split at begins
      · cases begins
        exact ⟨rfl, .asks⟩
      · cases begins
    · cases begins

theorem autoVerifyBegin_opens (begins : autoVerifyBegin config now session = some handler) :
    handler.session = session.id ∧ Opening handler.pending := by
  unfold autoVerifyBegin at begins
  split at begins
  · cases begins
  · split at begins
    · cases begins
      exact ⟨rfl, .verifies _⟩
    · split at begins
      · cases begins
        exact ⟨rfl, .verifies _⟩
      · cases begins

theorem submitIdentityBegin_opens {form : Option Claims}
    (begins : submitIdentityBegin now session form = some handler) :
    handler.session = session.id ∧ Opening handler.pending := by
  unfold submitIdentityBegin at begins
  split at begins
  · split at begins
    · split at begins
      · cases begins
        exact ⟨rfl, .expires⟩
      · cases begins
    · split at begins
      · cases form with
        | some claims =>
          simp only at begins
          split at begins
          · cases begins
            exact ⟨rfl, .verifiesSlowly claims⟩
          · cases begins
            exact ⟨rfl, .verifies claims⟩
        | none => cases begins
      · cases begins
  · cases begins

variable {db : IdpDatabase Claims} {drawn : Uuid}

/-- A handler that read its session. -/
theorem opens_of_read {id : Uuid} {begin_ : VerificationSession → Option (SessionHandler Claims)}
    (opens : ∀ session, begin_ session = some handler →
      handler.session = session.id ∧ Opening handler.pending)
    (begins : (db.getSession id).bind begin_ = some handler) :
    Opening handler.pending ∧ (db.getSession handler.session).isSome := by
  obtain ⟨session, found, begins⟩ := Option.bind_eq_some_iff.mp begins
  obtain ⟨named, opening⟩ := opens session begins
  rw [named, IdpDatabase.getSession_id found, found]
  exact ⟨opening, rfl⟩

/-- A handler begins on a session that is there, or with an entry that names one that was. -/
theorem begin_opens {call : HandlerCall Claims}
    (begins : call.begin config now db drawn = some handler) :
    Opening handler.pending ∧
      ((db.getSession handler.session).isSome ∨
        handler.session < drawn ∧ handler.pending = []) := by
  cases call with
  | pollSession id =>
    exact (opens_of_read (fun _ => pollSessionBegin_opens) begins).imp_right .inl
  | pollRound id => exact (opens_of_read (fun _ => pollRoundBegin_opens) begins).imp_right .inl
  | completeVerification id =>
    exact (opens_of_read (fun _ => completeVerificationBegin_opens) begins).imp_right .inl
  | autoVerify id => exact (opens_of_read (fun _ => autoVerifyBegin_opens) begins).imp_right .inl
  | submitIdentity id form =>
    exact (opens_of_read (fun _ => submitIdentityBegin_opens) begins).imp_right .inl
  | samlCallback relayState =>
    obtain ⟨session, found, begins⟩ := Option.bind_eq_some_iff.mp begins
    split at begins
    · cases begins
      exact ⟨.asks, .inl (IdpDatabase.isSome_getSession_of_find found)⟩
    · cases begins
  | webhook externalId claims =>
    obtain ⟨session, found, rfl⟩ := Option.map_eq_some_iff.mp begins
    exact ⟨.verifies claims, .inl (IdpDatabase.isSome_getSession_of_find found)⟩
  | oidcCallback id =>
    simp only [HandlerCall.begin, Option.ite_none_right_eq_some, Option.some.injEq] at begins
    obtain ⟨known, rfl⟩ := begins
    exact ⟨.asks, .inr ⟨known, rfl⟩⟩

end

/-! ## The service -/

/-- `drawn` counts the session ids drawn so far. -/
structure SessionService (Claims : Type) where
  db : IdpDatabase Claims
  now : Nat
  drawn : Uuid
  handlers : Nat → Option (SessionHandler Claims)

inductive ServiceStep (Claims : Type) where
  /-- `create_session`; the handler goes on to start the verification. -/
  | createSession (handler : Nat) (fresh providerId : String) (flowType : ProviderFlowType)
  | call (handler : Nat) (call : HandlerCall Claims)
  | answer (handler : Nat) (answer : ProviderAnswer Claims)
  /-- The next write of a handler. -/
  | write (handler : Nat)
  | drop (handler : Nat)
  | tick (seconds : Nat)
  | cleanup

namespace SessionService

/-- From here no session gets to `polling`: nothing moves one on from `pollingPending`. -/
def start : SessionService Claims := ⟨IdpDatabase.new, 0, 0, fun _ => none⟩

def setHandler (s : SessionService Claims) (i : Nat) (handler : Option (SessionHandler Claims)) :
    SessionService Claims :=
  { s with handlers := Function.update s.handlers i handler }

/-- The start of a mock provider is a write, the others are asked. -/
def startStage (providerId : String) : HandlerStage Claims :=
  if isMock providerId then .writing [.updateSessionStatus .pending] else .asking .start

/-- A handler with these writes ahead has ended when there are none. -/
def ahead (handler : SessionHandler Claims) (writes : List (SessionWrite Claims)) :
    Option (SessionHandler Claims) :=
  if writes.isEmpty then none else some { handler with stage := .writing writes }

variable (config : HandlerConfig Claims)

def step (s : SessionService Claims) : ServiceStep Claims → SessionService Claims
  | .createSession i fresh providerId flowType =>
    if (s.handlers i).isNone then
      { s.setHandler i (some ⟨s.drawn, false, startStage providerId⟩) with
        db := s.db.createSessionWithFlow
          (VerificationSession.new s.drawn fresh providerId flowType s.now)
        drawn := s.drawn + 1 }
    else s
  | .call i call =>
    if (s.handlers i).isNone then s.setHandler i (call.begin config s.now s.db s.drawn) else s
  | .answer i answer =>
    match s.handlers i with
    | some ⟨session, goesOn, .asking asked⟩ =>
      s.setHandler i (ahead ⟨session, goesOn, .asking asked⟩ (asked.writes answer))
    | _ => s
  | .write i =>
    match s.handlers i with
    | some ⟨session, goesOn, .writing (write :: rest)⟩ =>
      match write.apply s.db session s.now with
      | .ok db => { s.setHandler i (ahead ⟨session, goesOn, .writing (write :: rest)⟩ rest) with
          db := db }
      | .error _ =>
        s.setHandler i (if goesOn then ahead ⟨session, goesOn, .writing (write :: rest)⟩ rest
          else none)
    | _ => s
  | .drop i => s.setHandler i none
  | .tick seconds => { s with now := s.now + seconds }
  | .cleanup => { s with db := s.db.cleanupExpired s.now }

abbrev run (steps : List (ServiceStep Claims)) : SessionService Claims :=
  Runs.run (step config) start steps

/-! ## What a step can do -/

/-- The moves of the service.  A handler that ends, or a call that is answered at once, leaves
    its place free. -/
inductive Moves (s : SessionService Claims) : ServiceStep Claims → SessionService Claims → Prop
  | stays (input : ServiceStep Claims) : Moves s input s
  | created (i : Nat) (fresh providerId : String) (flowType : ProviderFlowType)
    (free : s.handlers i = none) :
    Moves s (.createSession i fresh providerId flowType)
      (setHandler
        { s with
          db := s.db.createSessionWithFlow
            (VerificationSession.new s.drawn fresh providerId flowType s.now)
          drawn := s.drawn + 1 }
        i (some ⟨s.drawn, false, startStage providerId⟩))
  | called (i : Nat) (call : HandlerCall Claims) (handler : SessionHandler Claims)
    (free : s.handlers i = none) (begins : call.begin config s.now s.db s.drawn = some handler) :
    Moves s (.call i call) (s.setHandler i (some handler))
  | answered (i : Nat) (answer : ProviderAnswer Claims) (session : Uuid) (goesOn : Bool)
    (asked : Asked) (here : s.handlers i = some ⟨session, goesOn, .asking asked⟩) :
    Moves s (.answer i answer)
      (s.setHandler i (ahead ⟨session, goesOn, .asking asked⟩ (asked.writes answer)))
  | written (i : Nat) (handler : SessionHandler Claims) (write : SessionWrite Claims)
    (rest : List (SessionWrite Claims)) (db : IdpDatabase Claims)
    (here : s.handlers i = some handler) (pending : handler.pending = write :: rest)
    (applied : write.apply s.db handler.session s.now = .ok db) :
    Moves s (.write i) { s.setHandler i (ahead handler rest) with db := db }
  | skipped (i : Nat) (handler : SessionHandler Claims) (write : SessionWrite Claims)
    (rest : List (SessionWrite Claims)) (here : s.handlers i = some handler)
    (pending : handler.pending = write :: rest) :
    Moves s (.write i) (s.setHandler i (ahead handler rest))
  | ended (input : ServiceStep Claims) (i : Nat) : Moves s input (s.setHandler i none)
  | ticked (seconds : Nat) : Moves s (.tick seconds) { s with now := s.now + seconds }
  | cleaned : Moves s .cleanup { s with db := s.db.cleanupExpired s.now }

theorem step_moves (s : SessionService Claims) (input : ServiceStep Claims) :
    Moves config s input (s.step config input) := by
  cases input with
  | createSession i fresh providerId flowType =>
    simp only [step, Option.isNone_iff_eq_none]
    split
    next free => exact .created i fresh providerId flowType free
    next => exact .stays _
  | call i call =>
    simp only [step, Option.isNone_iff_eq_none]
    split
    next free =>
      cases begins : call.begin config s.now s.db s.drawn with
      | some handler => exact .called i call handler free begins
      | none => exact .ended _ i
    next => exact .stays _
  | answer i answer =>
    simp only [step]
    split
    next session goesOn asked here => exact .answered i answer session goesOn asked here
    next => exact .stays _
  | write i =>
    simp only [step]
    split
    next session goesOn write rest here =>
      split
      next db applied => exact .written i _ write rest db here rfl applied
      next =>
        split
        · exact .skipped i _ write rest here rfl
        · exact .ended _ i
    next => exact .stays _
  | drop i => exact .ended _ i
  | tick seconds => exact .ticked seconds
  | cleanup => exact .cleaned

variable {config} {s : SessionService Claims} {i : Nat}

/-- The handlers after one of them went on to these writes. -/
theorem handlers_ahead {j : Nat} {handler other : SessionHandler Claims}
    {writes : List (SessionWrite Claims)}
    (here : (s.setHandler i (ahead handler writes)).handlers j = some other) :
    j = i ∧ other = { handler with stage := .writing writes } ∨
      j ≠ i ∧ s.handlers j = some other := by
  by_cases its : j = i
  · simp only [setHandler, its, Function.update_self, ahead] at here
    split at here
    · cases here
    · exact .inl ⟨its, (Option.some.inj here).symm⟩
  · exact .inr ⟨its, by simpa [setHandler, its] using here⟩

theorem handlers_ended {j : Nat} {handler : SessionHandler Claims}
    (here : (s.setHandler i none).handlers j = some handler) : s.handlers j = some handler := by
  by_cases its : j = i
  · simp [setHandler, its] at here
  · simpa [setHandler, its] using here

theorem handlers_put {j : Nat} {handler other : SessionHandler Claims}
    (here : (s.setHandler i (some handler)).handlers j = some other) :
    j = i ∧ other = handler ∨ j ≠ i ∧ s.handlers j = some other := by
  by_cases its : j = i
  · simp only [setHandler, its, Function.update_self, Option.some.injEq] at here
    exact .inl ⟨its, here.symm⟩
  · exact .inr ⟨its, by simpa [setHandler, its] using here⟩

end SessionService

end OwlId.Issuer
