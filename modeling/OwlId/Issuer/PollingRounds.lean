import Mathlib
import OwlId.Issuer.Database
import OwlId.Lib.Runs

/-! # Rounds of the polling task

One round takes a snapshot of the sessions that are polling and polls their providers in
turn.  A round touches each session on its own (`round_of_polling`), so what it does to a
session depends on the answer about it alone.  The claims of an answer are of any type
here: the rounds of the task get raw ones and normalize them first.
-/

namespace OwlId.Issuer

open OwlId.Lib
open IdpDatabase (isPolling isPolling_eq_true)

variable {Claims : Type}

/-! ## One round -/

structure PollingConfig where
  pollInterval : Nat
  maxPollCount : Nat

inductive PollResult (Claims : Type) where
  | pending (message : String)
  | userInteracting (message : String)
  | complete (claims : Claims)
  | failed (reason : String)
  | expired

/-- The order in which a map is gone through, which is any. -/
structure MapOrder where
  arrange : List VerificationSession → List VerificationSession
  perm : ∀ sessions, (arrange sessions).Perm sessions

def MapOrder.asListed : MapOrder := ⟨id, fun sessions => List.Perm.refl sessions⟩

/-- When a round runs, how the provider of each session answers in it, and the order in which it
    meets the sessions. -/
structure PollingRound (Claims : Type) where
  now : Nat
  pollStatus : Uuid → Except String (PollResult Claims)
  order : MapOrder

/-- The sessions that the round goes through. -/
def PollingRound.snapshot {Asked : Type} (round : PollingRound Asked) (db : IdpDatabase Claims) :
    List VerificationSession :=
  round.order.arrange db.getPollingSessions

/-- An error is logged and the loop goes on. -/
def orLogged (result : Except SessionError (IdpDatabase Claims)) (db : IdpDatabase Claims) :
    IdpDatabase Claims :=
  match result with
  | .ok db' => db'
  | .error _ => db

def applyPoll (db : IdpDatabase Claims) (id : Uuid) (orderRef : String) (now : Nat) :
    Except String (PollResult Claims) → IdpDatabase Claims
  | .ok (.complete claims) =>
    let stored := db.storeClaims id claims
    orLogged (stored.markSessionVerified id) stored
  | .ok (.pending _) => orLogged (db.updatePollingState id orderRef now) db
  | .ok (.userInteracting _) =>
    let updated := orLogged (db.updateSessionStatus id .verifying) db
    orLogged (updated.updatePollingState id orderRef now) updated
  | .ok (.failed reason) => orLogged (db.markSessionFailed id reason) db
  | .ok .expired => orLogged (db.updateSessionStatus id .expired) db
  -- a transient error only counts as one more poll
  | .error _ => orLogged (db.updatePollingState id orderRef now) db

section

variable (config : PollingConfig) (isRegistered : String → Bool)

/-- The body of the loop, for a session of the snapshot, over claims that are normalized. -/
def pollSession (round : PollingRound Claims) (db : IdpDatabase Claims)
    (session : VerificationSession) : Except SessionError (IdpDatabase Claims) :=
  match session.flowState with
  | .polling orderRef pollCount lastPoll =>
    if config.maxPollCount ≤ pollCount then
      db.markSessionFailed session.id "Verification timed out"
    else if round.now - lastPoll < config.pollInterval then .ok db
    else if isRegistered session.providerId = false then .ok db
    else .ok (applyPoll db session.id orderRef round.now (round.pollStatus session.id))
  | _ => .ok db

/-- The first error ends the round; what was written before it stays. -/
def pollSessions (round : PollingRound Claims) :
    IdpDatabase Claims → List VerificationSession → IdpDatabase Claims × Except SessionError Unit
  | db, [] => (db, .ok ())
  | db, session :: rest =>
    match pollSession config isRegistered round db session with
    | .ok db' => pollSessions round db' rest
    | .error e => (db, .error e)

def pollPendingSessions (db : IdpDatabase Claims) (round : PollingRound Claims) :
    IdpDatabase Claims × Except SessionError Unit :=
  pollSessions config isRegistered round db (round.snapshot db)

/-- The loop of the task logs a round's error and waits for the next tick. -/
def roundStep (db : IdpDatabase Claims) (round : PollingRound Claims) : IdpDatabase Claims :=
  (pollPendingSessions config isRegistered db round).1

abbrev runRounds (db : IdpDatabase Claims) (rounds : List (PollingRound Claims)) :
    IdpDatabase Claims :=
  Runs.run (roundStep config isRegistered) db rounds

end

/-! ## A round acts on each session alone -/

/-- The two databases hold the same session and the same claims under this id. -/
structure SameAt (db db' : IdpDatabase Claims) (id : Uuid) : Prop where
  session : db'.getSession id = db.getSession id
  claims : db'.getClaims id = db.getClaims id

theorem SameAt.refl (db : IdpDatabase Claims) (id : Uuid) : SameAt db db id := ⟨rfl, rfl⟩

theorem SameAt.trans {a b c : IdpDatabase Claims} {id : Uuid} (first : SameAt a b id)
    (second : SameAt b c id) : SameAt a c id :=
  ⟨second.session.trans first.session, second.claims.trans first.claims⟩

section

variable {db db' : IdpDatabase Claims} {id other : Uuid}

theorem sameAt_updateSession {f : VerificationSession → VerificationSession}
    (updates : db.updateSession id f = .ok db') (elsewhere : other ≠ id) :
    SameAt db db' other := by
  constructor
  · rw [IdpDatabase.getSession_updateSession updates, if_neg elsewhere]
  · rw [IdpDatabase.getClaims, IdpDatabase.claims_updateSession updates, IdpDatabase.getClaims]

/-- A change under another id is not seen, whether it succeeds or is logged. -/
theorem sameAt_orLogged_updateSession {f : VerificationSession → VerificationSession}
    (elsewhere : other ≠ id) : SameAt db (orLogged (db.updateSession id f) db) other := by
  cases updates : db.updateSession id f with
  | ok db' => exact sameAt_updateSession updates elsewhere
  | error e => exact SameAt.refl db other

theorem sameAt_orLogged_updatePollingState {orderRef : String} {now : Nat}
    (elsewhere : other ≠ id) :
    SameAt db (orLogged (db.updatePollingState id orderRef now) db) other := by
  cases updates : db.updatePollingState id orderRef now with
  | ok db' =>
    obtain ⟨_, _, _, _, updates⟩ := IdpDatabase.updatePollingState_eq_ok.mp updates
    exact sameAt_updateSession updates elsewhere
  | error e => exact SameAt.refl db other

theorem sameAt_storeClaims {claims : Claims} (elsewhere : other ≠ id) :
    SameAt db (db.storeClaims id claims) other := by
  refine ⟨rfl, ?_⟩
  rw [IdpDatabase.getClaims_storeClaims, if_neg elsewhere]

theorem sameAt_applyPoll {orderRef : String} {now : Nat}
    (answer : Except String (PollResult Claims)) (elsewhere : other ≠ id) :
    SameAt db (applyPoll db id orderRef now answer) other := by
  cases answer with
  | error e => exact sameAt_orLogged_updatePollingState elsewhere
  | ok result =>
    cases result with
    | pending message => exact sameAt_orLogged_updatePollingState elsewhere
    | userInteracting message =>
      exact (sameAt_orLogged_updateSession elsewhere).trans
        (sameAt_orLogged_updatePollingState elsewhere)
    | complete claims =>
      exact (sameAt_storeClaims elsewhere).trans (sameAt_orLogged_updateSession elsewhere)
    | failed reason => exact sameAt_orLogged_updateSession elsewhere
    | expired => exact sameAt_orLogged_updateSession elsewhere

variable {config : PollingConfig} {isRegistered : String → Bool} {round : PollingRound Claims}

theorem sameAt_pollSession {session : VerificationSession}
    (polls : pollSession config isRegistered round db session = .ok db')
    (elsewhere : other ≠ session.id) : SameAt db db' other := by
  unfold pollSession at polls
  split at polls
  · split at polls
    · exact sameAt_updateSession polls elsewhere
    · split at polls
      · cases polls
        exact SameAt.refl db other
      · split at polls
        · cases polls
          exact SameAt.refl db other
        · cases polls
          exact sameAt_applyPoll _ elsewhere
  · cases polls
    exact SameAt.refl db other

/-- Polling a session that exists never ends the round. -/
theorem pollSession_ok {session : VerificationSession}
    (exists_ : db.getSession session.id ≠ none) :
    ∃ db', pollSession config isRegistered round db session = .ok db' := by
  obtain ⟨current, found⟩ := Option.ne_none_iff_exists'.mp exists_
  unfold pollSession
  split
  · split
    · exact ⟨_, IdpDatabase.updateSession_eq_ok.mpr ⟨current, found, rfl⟩⟩
    · split
      · exact ⟨_, rfl⟩
      · split
        · exact ⟨_, rfl⟩
        · exact ⟨_, rfl⟩
  · exact ⟨_, rfl⟩

/-- Of a list without repetitions, only the entry of an id reaches what is stored under it. -/
theorem pollSessions_at (sessions : List VerificationSession)
    (distinct : (sessions.map VerificationSession.id).Nodup)
    (exist : ∀ session ∈ sessions, db.getSession session.id ≠ none) :
    (id ∉ sessions.map VerificationSession.id →
      SameAt db (pollSessions config isRegistered round db sessions).1 id) ∧
    ∀ session ∈ sessions, ∃ before after, SameAt db before session.id ∧
      pollSession config isRegistered round before session = .ok after ∧
      SameAt after (pollSessions config isRegistered round db sessions).1 session.id := by
  induction sessions generalizing db id with
  | nil => exact ⟨fun _ => SameAt.refl db id, by simp⟩
  | cons head rest ih =>
    obtain ⟨fresh, others⟩ := List.nodup_cons.mp distinct
    obtain ⟨db', polls⟩ : ∃ db', pollSession config isRegistered round db head = .ok db' :=
      pollSession_ok (exist head List.mem_cons_self)
    have elsewhere (session : VerificationSession) (later : session ∈ rest) :
        session.id ≠ head.id :=
      fun same => fresh (same ▸ List.mem_map_of_mem later)
    have exist' : ∀ session ∈ rest, db'.getSession session.id ≠ none := by
      intro session later
      rw [(sameAt_pollSession polls (elsewhere session later)).session]
      exact exist session (List.mem_cons_of_mem head later)
    have runs : pollSessions config isRegistered round db (head :: rest) =
        pollSessions config isRegistered round db' rest := by
      rw [pollSessions, polls]
    rw [runs]
    constructor
    · intro absent
      rw [List.map_cons, List.mem_cons, not_or] at absent
      exact (sameAt_pollSession polls absent.1).trans ((ih others exist').1 absent.2)
    · intro session member
      cases List.mem_cons.mp member with
      | inl here =>
        subst here
        exact ⟨db, db', SameAt.refl db _, polls, (ih others exist').1 fresh⟩
      | inr later =>
        obtain ⟨before, after, same, polls', rest'⟩ :=
          (@ih db' id others exist').2 session later
        exact ⟨before, after, (sameAt_pollSession polls (elsewhere session later)).trans same,
          polls', rest'⟩

section Snapshot

variable {Asked : Type} (round : PollingRound Asked) (db : IdpDatabase Claims)

@[simp] theorem mem_snapshot {session : VerificationSession} :
    session ∈ round.snapshot db ↔ session ∈ db.getPollingSessions :=
  (round.order.perm db.getPollingSessions).mem_iff

theorem snapshot_distinct : ((round.snapshot db).map VerificationSession.id).Nodup := by
  have listed := (round.order.perm db.getPollingSessions).map VerificationSession.id
  exact listed.nodup_iff.mpr
    (db.sessions.unique.sublist (List.filter_sublist.map VerificationSession.id))

theorem snapshot_exist : ∀ session ∈ round.snapshot db, db.getSession session.id ≠ none := by
  intro session member
  rw [mem_snapshot] at member
  rw [(IdpDatabase.mem_getPollingSessions.mp member).1]
  exact Option.some_ne_none session

end Snapshot

/-- A round touches the sessions it lists, each of them once. -/
theorem roundStep_at {session : VerificationSession} (member : session ∈ db.getPollingSessions) :
    ∃ before after, SameAt db before session.id ∧
      pollSession config isRegistered round before session = .ok after ∧
      SameAt after (roundStep config isRegistered db round) session.id :=
  (@pollSessions_at _ db session.id config isRegistered round _ (snapshot_distinct round db)
    (snapshot_exist round db)).2 session ((mem_snapshot round db).mpr member)

/-- What a round does to a session that is polling. -/
theorem round_of_polling {session : VerificationSession}
    (found : db.getSession session.id = some session) (polling : isPolling session = true) :
    ∃ before after, before.getSession session.id = some session ∧
      pollSession config isRegistered round before session = .ok after ∧
      SameAt after (roundStep config isRegistered db round) session.id := by
  obtain ⟨before, after, same, polls, rest⟩ :=
    roundStep_at (IdpDatabase.mem_getPollingSessions.mpr ⟨found, polling⟩)
  exact ⟨before, after, same.session.trans found, polls, rest⟩

/-! ## What one answer does -/

/-- The session after a poll that did not decide anything. -/
def polledAgain (session : VerificationSession) (orderRef : String) (pollCount now : Nat) :
    VerificationSession :=
  { session with flowState := .polling orderRef (pollCount + 1) now }

/-- An answer that neither completes the verification nor ends it. -/
def IsTransient : Except String (PollResult Claims) → Prop
  | .ok (.complete _) | .ok (.failed _) | .ok .expired => False
  | _ => True

def IsInteracting : Except String (PollResult Claims) → Prop
  | .ok (.userInteracting _) => True
  | _ => False

theorem getSession_updatePollingState {session : VerificationSession} {orderRef ref : String}
    {pollCount last now : Nat} (found : db.getSession session.id = some session)
    (polling : session.flowState = .polling ref pollCount last) :
    (orLogged (db.updatePollingState session.id orderRef now) db).getSession session.id =
      some (polledAgain session orderRef pollCount now) := by
  have polled :
      session.polled orderRef now = some (polledAgain session orderRef pollCount now) := by
    rw [VerificationSession.polled, polling]
    rfl
  obtain ⟨db', updates⟩ : ∃ db', db.updatePollingState session.id orderRef now = .ok db' :=
    ⟨_, IdpDatabase.updatePollingState_eq_ok.mpr ⟨session, _, found, polled,
      IdpDatabase.updateSession_eq_ok.mpr ⟨session, found, rfl⟩⟩⟩
  obtain ⟨current, after, found', polls, update⟩ := IdpDatabase.updatePollingState_eq_ok.mp updates
  obtain rfl := Option.some.inj (found.symm.trans found')
  obtain rfl := Option.some.inj (polled.symm.trans polls)
  rw [updates, orLogged, IdpDatabase.getSession_updateSession update, if_pos rfl, found]
  rfl

theorem getSession_orLogged_updateSession {session : VerificationSession}
    {f : VerificationSession → VerificationSession}
    (found : db.getSession session.id = some session) (keeps : (f session).id = session.id) :
    (orLogged (db.updateSession session.id f) db).getSession session.id = some (f session) := by
  obtain ⟨db', updates⟩ : ∃ db', db.updateSession session.id f = .ok db' :=
    ⟨_, IdpDatabase.updateSession_eq_ok.mpr ⟨session, found, rfl⟩⟩
  rw [updates, orLogged, IdpDatabase.getSession_updateSession updates, if_pos rfl, found,
    Option.map_some, ← keeps]

theorem getClaims_orLogged_updateSession {f : VerificationSession → VerificationSession} :
    (orLogged (db.updateSession id f) db).getClaims other = db.getClaims other := by
  cases updates : db.updateSession id f with
  | ok db' =>
    rw [orLogged, IdpDatabase.getClaims, IdpDatabase.claims_updateSession updates,
      IdpDatabase.getClaims]
  | error e => rfl

variable {config : PollingConfig} {isRegistered : String → Bool} {round : PollingRound Claims}
  {session : VerificationSession}

/-- The poll that is due goes to the provider. -/
theorem pollSession_due {orderRef : String} {pollCount lastPoll : Nat}
    (polling : session.flowState = .polling orderRef pollCount lastPoll)
    (few : pollCount < config.maxPollCount) (due : config.pollInterval ≤ round.now - lastPoll)
    (registered : isRegistered session.providerId = true) :
    pollSession config isRegistered round db session =
      .ok (applyPoll db session.id orderRef round.now (round.pollStatus session.id)) := by
  rw [pollSession, polling]
  dsimp only
  rw [if_neg (by omega), if_neg (by omega), if_neg (by simp [registered])]

/-- A transient answer leaves the session in its polling state, and with its status unless the
    user is interacting. -/
theorem applyPoll_transient {orderRef : String} {pollCount lastPoll now : Nat}
    {answer : Except String (PollResult Claims)}
    (found : db.getSession session.id = some session)
    (polling : session.flowState = .polling orderRef pollCount lastPoll)
    (transient : IsTransient answer) :
    ∃ after, (applyPoll db session.id orderRef now answer).getSession session.id = some after ∧
      after.id = session.id ∧ after.providerId = session.providerId ∧
      after.flowState = .polling orderRef (pollCount + 1) now ∧
      after.flowType = session.flowType ∧
      (IsInteracting answer → after.status = .verifying) ∧
      (¬ IsInteracting answer → after.status = session.status) := by
  cases answer with
  | error e =>
    exact ⟨_, getSession_updatePollingState found polling, rfl, rfl, rfl, rfl, nofun, fun _ => rfl⟩
  | ok result =>
    cases result with
    | pending message =>
      exact ⟨_, getSession_updatePollingState found polling, rfl, rfl, rfl, rfl, nofun,
        fun _ => rfl⟩
    | userInteracting message =>
      let interacting := session.withStatus .verifying
      have updated : (orLogged (db.updateSessionStatus session.id .verifying) db).getSession
          interacting.id = some interacting :=
        getSession_orLogged_updateSession found rfl
      exact ⟨polledAgain interacting orderRef pollCount now,
        getSession_updatePollingState updated polling, rfl, rfl, rfl, rfl, fun _ => rfl,
        fun other => absurd trivial other⟩
    | complete claims => exact transient.elim
    | failed reason => exact transient.elim
    | expired => exact transient.elim

/-- The answer that completes the verification. -/
theorem applyPoll_complete {orderRef : String} {now : Nat} {claims : Claims}
    (found : db.getSession session.id = some session) :
    (applyPoll db session.id orderRef now (.ok (.complete claims))).getSession session.id =
        some session.verify ∧
      (applyPoll db session.id orderRef now (.ok (.complete claims))).getClaims session.id =
        some claims := by
  have stored : (db.storeClaims session.id claims).getSession session.id = some session := found
  constructor
  · exact getSession_orLogged_updateSession stored rfl
  · exact getClaims_orLogged_updateSession.trans
      ((IdpDatabase.getClaims_storeClaims _).trans (if_pos rfl))

/-- One round with a transient answer. -/
theorem round_transient {orderRef : String} {pollCount lastPoll : Nat}
    (found : db.getSession session.id = some session) (polls : isPolling session = true)
    (polling : session.flowState = .polling orderRef pollCount lastPoll)
    (few : pollCount < config.maxPollCount) (due : config.pollInterval ≤ round.now - lastPoll)
    (registered : isRegistered session.providerId = true)
    (transient : IsTransient (round.pollStatus session.id)) :
    ∃ after, (roundStep config isRegistered db round).getSession session.id = some after ∧
      after.id = session.id ∧ after.providerId = session.providerId ∧
      after.flowState = .polling orderRef (pollCount + 1) round.now ∧
      (isPolling after = true ↔ ¬ IsInteracting (round.pollStatus session.id)) := by
  obtain ⟨before, result, here, poll, rest⟩ := round_of_polling found polls
  rw [pollSession_due polling few due registered, Except.ok.injEq] at poll
  obtain ⟨after, stored, named, provider, flow, kind, interacting, quiet⟩ :=
    applyPoll_transient here polling transient
  refine ⟨after, ?_, named, provider, flow, ?_⟩
  · rw [rest.session, ← poll, stored]
  · obtain ⟨qr, pending, _⟩ := isPolling_eq_true.mp polls
    constructor
    · intro polled interacts
      have status := (isPolling_eq_true.mp polled).2.1
      rw [interacting interacts] at status
      cases status
    · intro silent
      exact isPolling_eq_true.mpr ⟨kind.trans qr, (quiet silent).trans pending, _, _, _, flow⟩

end

end OwlId.Issuer
