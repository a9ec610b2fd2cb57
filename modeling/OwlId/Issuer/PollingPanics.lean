import Mathlib
import OwlId.Issuer.Normalizer
import OwlId.Issuer.PollingRounds

/-! # Panics in the polling task

A provider that completes a verification hands over raw claims, and the round normalizes
them inline.  One normaliser slices a text by bytes and panics where it cannot; the panic
unwinds the round in the middle of its sessions and ends the task.  Here a round has such
an end too, and `polling_survives_iff` says when it is not reached.
-/

namespace OwlId.Issuer

open OwlId.Lib

/-! ## Rounds over raw claims -/

/-- How a round ends. -/
inductive RoundEnd where
  | returned (result : Except SessionError Unit)
  | panicked

abbrev RawRound := PollingRound RawProviderClaims

section

variable (chrono : Chrono)

/-- The answer with its claims normalized; `none` where that panics. -/
def normalizeAnswer : Except String (PollResult RawProviderClaims) →
    Option (Except String (PollResult VerifiedIdentityClaims))
  | .ok (.complete raw) => (raw.normalize chrono).map fun claims => .ok (.complete claims)
  | .ok (.pending message) => some (.ok (.pending message))
  | .ok (.userInteracting message) => some (.ok (.userInteracting message))
  | .ok (.failed reason) => some (.ok (.failed reason))
  | .ok .expired => some (.ok .expired)
  | .error e => some (.error e)

variable (config : PollingConfig) (isRegistered : String → Bool)

/-- Whether the round asks the provider of a session. -/
def IsDue (round : RawRound) (session : VerificationSession) : Prop :=
  ∃ orderRef pollCount lastPoll, session.flowState = .polling orderRef pollCount lastPoll ∧
    pollCount < config.maxPollCount ∧ config.pollInterval ≤ round.now - lastPoll ∧
    isRegistered session.providerId = true

/-- The body of the loop; `none` where it panics. -/
def pollRawSession (round : RawRound) (db : IdpDatabase VerifiedIdentityClaims)
    (session : VerificationSession) :
    Option (Except SessionError (IdpDatabase VerifiedIdentityClaims)) :=
  match session.flowState with
  | .polling orderRef pollCount lastPoll =>
    if config.maxPollCount ≤ pollCount then
      some (db.markSessionFailed session.id "Verification timed out")
    else if round.now - lastPoll < config.pollInterval then some (.ok db)
    else if isRegistered session.providerId = false then some (.ok db)
    else
      (normalizeAnswer chrono (round.pollStatus session.id)).map fun answer =>
        .ok (applyPoll db session.id orderRef round.now answer)
  | _ => some (.ok db)

def pollRawSessions (round : RawRound) : IdpDatabase VerifiedIdentityClaims →
    List VerificationSession → IdpDatabase VerifiedIdentityClaims × RoundEnd
  | db, [] => (db, .returned (.ok ()))
  | db, session :: rest =>
    match pollRawSession chrono config isRegistered round db session with
    | some (.ok db') => pollRawSessions round db' rest
    | some (.error e) => (db, .returned (.error e))
    | none => (db, .panicked)

def pollPendingRaw (db : IdpDatabase VerifiedIdentityClaims) (round : RawRound) :
    IdpDatabase VerifiedIdentityClaims × RoundEnd :=
  pollRawSessions chrono config isRegistered round db (round.snapshot db)

/-! ## The task -/

/-- The background task; once a round has panicked no other follows. -/
structure PollingTask where
  db : IdpDatabase VerifiedIdentityClaims
  running : Bool

def PollingTask.tick (task : PollingTask) (round : RawRound) : PollingTask :=
  if task.running then
    match pollPendingRaw chrono config isRegistered task.db round with
    | (db, .returned _) => ⟨db, true⟩
    | (db, .panicked) => ⟨db, false⟩
  else task

/-! ## Rounds without a panic -/

/-- No session whose provider is asked completes with claims that cannot be normalized. -/
def Normalizable (round : RawRound) (sessions : List VerificationSession) : Prop :=
  ∀ session ∈ sessions, IsDue config isRegistered round session →
    ∀ raw, round.pollStatus session.id = .ok (.complete raw) → raw.Sliceable

/-- The same round over normalized claims. -/
def normalizedRound (round : RawRound) : PollingRound VerifiedIdentityClaims where
  now := round.now
  pollStatus id := (normalizeAnswer chrono (round.pollStatus id)).getD (.error "")
  order := round.order

variable {chrono config isRegistered}
variable {round : RawRound} {db : IdpDatabase VerifiedIdentityClaims}
  {session : VerificationSession} {sessions : List VerificationSession}

theorem normalizeAnswer_isSome_iff {answer : Except String (PollResult RawProviderClaims)} :
    (normalizeAnswer chrono answer).isSome = true ↔
      ∀ raw, answer = .ok (.complete raw) → raw.Sliceable := by
  cases answer with
  | error e => exact iff_of_true rfl fun _ same => by simp at same
  | ok result =>
    cases result with
    | complete raw =>
      rw [normalizeAnswer, Option.isSome_map, normalize_isSome_iff]
      refine ⟨fun sliceable other same => ?_, fun sliceable => sliceable raw rfl⟩
      obtain rfl := PollResult.complete.inj (Except.ok.inj same)
      exact sliceable
    | _ => exact iff_of_true rfl fun _ same => by simp at same

/-- A session does not panic exactly when it is calm, whatever the database holds. -/
theorem pollRawSession_isSome_iff :
    (pollRawSession chrono config isRegistered round db session).isSome = true ↔
      Normalizable config isRegistered round [session] := by
  simp only [Normalizable, List.mem_singleton, forall_eq, IsDue, pollRawSession]
  cases polling : session.flowState with
  | polling orderRef pollCount lastPoll =>
    simp only [FlowState.polling.injEq]
    by_cases few : pollCount < config.maxPollCount
    · rw [if_neg (by omega)]
      by_cases due : config.pollInterval ≤ round.now - lastPoll
      · rw [if_neg (by omega)]
        by_cases registered : isRegistered session.providerId = true
        · rw [if_neg (by simp [registered]), Option.isSome_map, normalizeAnswer_isSome_iff]
          exact ⟨fun calm _ => calm, fun calm =>
            calm ⟨orderRef, pollCount, lastPoll, ⟨rfl, rfl, rfl⟩, few, due, registered⟩⟩
        · rw [if_pos (by simpa using registered)]
          refine iff_of_true rfl ?_
          rintro ⟨_, _, _, _, _, _, known⟩
          exact absurd known registered
      · rw [if_pos (by omega)]
        refine iff_of_true rfl ?_
        rintro ⟨_, _, _, ⟨_, _, here⟩, _, late, _⟩
        exact absurd (here ▸ late) due
    · rw [if_pos (by omega)]
      refine iff_of_true rfl ?_
      rintro ⟨_, _, _, ⟨_, here, _⟩, more, _⟩
      exact absurd (here ▸ more) few
  | _ =>
    refine iff_of_true rfl ?_
    rintro ⟨_, _, _, here, _⟩
    cases here

theorem pollStatus_normalizedRound {id : Uuid}
    {answer : Except String (PollResult VerifiedIdentityClaims)}
    (normalized : normalizeAnswer chrono (round.pollStatus id) = some answer) :
    (normalizedRound chrono round).pollStatus id = answer := by
  simp only [normalizedRound, normalized, Option.getD_some]

/-- A body that does not panic is the body over normalized claims. -/
theorem pollRawSession_eq
    (calm : (pollRawSession chrono config isRegistered round db session).isSome = true) :
    pollRawSession chrono config isRegistered round db session =
      some (pollSession config isRegistered (normalizedRound chrono round) db session) := by
  unfold pollRawSession pollSession at *
  cases polling : session.flowState with
  | polling orderRef pollCount lastPoll =>
    simp only [polling] at calm ⊢
    have sameClock : (normalizedRound chrono round).now = round.now := rfl
    by_cases many : config.maxPollCount ≤ pollCount
    · rw [if_pos many, if_pos many]
    · rw [if_neg many] at calm
      rw [if_neg many, if_neg many]
      by_cases early : round.now - lastPoll < config.pollInterval
      · rw [if_pos early, sameClock, if_pos early]
      · rw [if_neg early] at calm
        rw [if_neg early, sameClock, if_neg early]
        by_cases unknown : isRegistered session.providerId = false
        · rw [if_pos unknown, if_pos unknown]
        · rw [if_neg unknown, Option.isSome_map] at calm
          rw [if_neg unknown, if_neg unknown]
          obtain ⟨answer, normalized⟩ := Option.isSome_iff_exists.mp calm
          rw [normalized, Option.map_some, pollStatus_normalizedRound normalized]
  | _ => rfl

theorem Normalizable.tail {head : VerificationSession}
    (normalizable : Normalizable config isRegistered round (head :: sessions)) :
    Normalizable config isRegistered round sessions :=
  fun session member => normalizable session (List.mem_cons_of_mem head member)

theorem Normalizable.head {head : VerificationSession}
    (normalizable : Normalizable config isRegistered round (head :: sessions)) :
    Normalizable config isRegistered round [head] := by
  intro session member
  rw [List.mem_singleton.mp member]
  exact normalizable head List.mem_cons_self

/-- A round in which nothing panics is the round over normalized claims. -/
theorem pollRawSessions_eq (normalizable : Normalizable config isRegistered round sessions) :
    pollRawSessions chrono config isRegistered round db sessions =
      let outcome := pollSessions config isRegistered (normalizedRound chrono round) db sessions
      (outcome.1, .returned outcome.2) := by
  induction sessions generalizing db with
  | nil => rfl
  | cons head rest ih =>
    rw [pollRawSessions, pollSessions,
      pollRawSession_eq (pollRawSession_isSome_iff.mpr normalizable.head)]
    cases pollSession config isRegistered (normalizedRound chrono round) db head with
    | ok db' => exact ih normalizable.tail
    | error e => rfl

/-- A round that returns normally had nothing to panic over. -/
theorem normalizable_of_returned
    (returned : (pollRawSessions chrono config isRegistered round db sessions).2 =
      .returned (.ok ())) : Normalizable config isRegistered round sessions := by
  induction sessions generalizing db with
  | nil => exact fun _ member => absurd member List.not_mem_nil
  | cons head rest ih =>
    rw [pollRawSessions] at returned
    split at returned
    case h_1 db' body =>
      have here : Normalizable config isRegistered round [head] :=
        pollRawSession_isSome_iff.mp (Option.isSome_iff_exists.mpr ⟨_, body⟩)
      intro session member
      rcases List.mem_cons.mp member with rfl | later
      · exact here session List.mem_cons_self
      · exact ih returned session later
    case h_2 => cases returned
    case h_3 => cases returned

/-- Sessions that exist never end a round. -/
theorem pollSessions_returns {Claims : Type} {config : PollingConfig} {isRegistered : String → Bool}
    {round : PollingRound Claims} {db : IdpDatabase Claims} (sessions : List VerificationSession)
    (distinct : (sessions.map VerificationSession.id).Nodup)
    (exist : ∀ session ∈ sessions, db.getSession session.id ≠ none) :
    (pollSessions config isRegistered round db sessions).2 = .ok () := by
  induction sessions generalizing db with
  | nil => rfl
  | cons head rest ih =>
    obtain ⟨fresh, others⟩ := List.nodup_cons.mp distinct
    obtain ⟨db', polls⟩ : ∃ db', pollSession config isRegistered round db head = .ok db' :=
      pollSession_ok (exist head List.mem_cons_self)
    rw [pollSessions, polls]
    refine ih others fun session later => ?_
    have elsewhere : session.id ≠ head.id := fun same =>
      fresh (same ▸ List.mem_map_of_mem later)
    rw [(sameAt_pollSession polls elsewhere).session]
    exact exist session (List.mem_cons_of_mem head later)

/-- A round over sessions that exist returns normally or panics. -/
theorem pollRawSessions_end (sessions : List VerificationSession)
    (distinct : (sessions.map VerificationSession.id).Nodup)
    (exist : ∀ session ∈ sessions, db.getSession session.id ≠ none) :
    (pollRawSessions chrono config isRegistered round db sessions).2 = .returned (.ok ()) ∨
      (pollRawSessions chrono config isRegistered round db sessions).2 = .panicked := by
  induction sessions generalizing db with
  | nil => exact .inl rfl
  | cons head rest ih =>
    obtain ⟨fresh, others⟩ := List.nodup_cons.mp distinct
    obtain ⟨db', polls⟩ : ∃ db',
        pollSession config isRegistered (normalizedRound chrono round) db head = .ok db' :=
      pollSession_ok (exist head List.mem_cons_self)
    rw [pollRawSessions]
    by_cases body : (pollRawSession chrono config isRegistered round db head).isSome = true
    · rw [pollRawSession_eq body, polls]
      refine ih others fun session later => ?_
      have elsewhere : session.id ≠ head.id := fun same =>
        fresh (same ▸ List.mem_map_of_mem later)
      rw [(sameAt_pollSession polls elsewhere).session]
      exact exist session (List.mem_cons_of_mem head later)
    · rw [Option.not_isSome_iff_eq_none.mp body]
      exact .inr rfl

/-- What is asked of a snapshot does not depend on its order. -/
theorem normalizable_snapshot_iff : Normalizable config isRegistered round (round.snapshot db) ↔
    Normalizable config isRegistered round db.getPollingSessions := by
  simp only [Normalizable, mem_snapshot]

variable (chrono config isRegistered)

/-- The round runs to its end, and the body has run on every session of the snapshot, as it was
at the start, with its effect in the database the round leaves. -/
structure RoundApplied (db : IdpDatabase VerifiedIdentityClaims) (round : RawRound) : Prop where
  ended : (pollPendingRaw chrono config isRegistered db round).2 = .returned (.ok ())
  applied : ∀ session ∈ db.getPollingSessions, ∃ before after, SameAt db before session.id ∧
    pollRawSession chrono config isRegistered round before session = some (.ok after) ∧
    SameAt after (pollPendingRaw chrono config isRegistered db round).1 session.id

theorem roundApplied_iff (db : IdpDatabase VerifiedIdentityClaims) (round : RawRound) :
    RoundApplied chrono config isRegistered db round ↔
      Normalizable config isRegistered round db.getPollingSessions := by
  rw [← normalizable_snapshot_iff]
  refine ⟨fun applied => normalizable_of_returned applied.ended, fun normalizable => ?_⟩
  have whole : pollRawSessions chrono config isRegistered round db (round.snapshot db) =
      let outcome := pollSessions config isRegistered (normalizedRound chrono round) db
        (round.snapshot db)
      (outcome.1, .returned outcome.2) := pollRawSessions_eq normalizable
  refine ⟨?_, fun session member => ?_⟩
  · rw [pollPendingRaw, whole]
    simp only [RoundEnd.returned.injEq]
    exact pollSessions_returns _ (snapshot_distinct round db) (snapshot_exist round db)
  · have listed := (mem_snapshot round db).mpr member
    obtain ⟨before, after, same, polls, rest⟩ := (@pollSessions_at _ db session.id config
      isRegistered (normalizedRound chrono round) _ (snapshot_distinct round db)
      (snapshot_exist round db)).2 session listed
    refine ⟨before, after, same, ?_, ?_⟩
    · have here : Normalizable config isRegistered round [session] := fun other isSession =>
        List.mem_singleton.mp isSession ▸ normalizable session listed
      rw [pollRawSession_eq (pollRawSession_isSome_iff.mpr here), polls]
    · rw [pollPendingRaw, whole]
      exact rest

theorem tick_running_iff (task : PollingTask) (round : RawRound) :
    (task.tick chrono config isRegistered round).running = true ↔ task.running = true ∧
      Normalizable config isRegistered round task.db.getPollingSessions := by
  rw [← roundApplied_iff chrono]
  unfold PollingTask.tick
  cases stopped : task.running with
  | false =>
    simp only [Bool.false_eq_true, if_false, false_and, stopped]
  | true =>
    simp only [if_true, true_and]
    rcases pollRawSessions_end _ (snapshot_distinct round task.db)
      (snapshot_exist round task.db) with returned | panicked
    · have ended : (pollPendingRaw chrono config isRegistered task.db round).2 =
          .returned (.ok ()) := returned
      have applied := (roundApplied_iff chrono config isRegistered task.db round).mpr
        (normalizable_snapshot_iff.mp (normalizable_of_returned returned))
      generalize pollPendingRaw chrono config isRegistered task.db round = outcome at ended ⊢
      obtain ⟨db, roundEnd⟩ := outcome
      obtain rfl : roundEnd = .returned (.ok ()) := ended
      exact iff_of_true rfl applied
    · have ended : (pollPendingRaw chrono config isRegistered task.db round).2 = .panicked :=
        panicked
      have notApplied : ¬RoundApplied chrono config isRegistered task.db round := fun applied => by
        have clash := applied.ended.symm.trans ended
        cases clash
      generalize pollPendingRaw chrono config isRegistered task.db round = outcome at ended ⊢
      obtain ⟨db, roundEnd⟩ := outcome
      obtain rfl : roundEnd = .panicked := ended
      exact iff_of_false nofun notApplied

/-- The task is running exactly while every round has found only what it can normalize. -/
theorem run_running_iff (db : IdpDatabase VerifiedIdentityClaims) (rounds : List RawRound) :
    (Runs.run (PollingTask.tick chrono config isRegistered) ⟨db, true⟩ rounds).running = true ↔
      ∀ past next, past ++ [next] <+: rounds → Normalizable config isRegistered next
        (Runs.run (PollingTask.tick chrono config isRegistered) ⟨db, true⟩
          past).db.getPollingSessions := by
  induction rounds using List.reverseRecOn with
  | nil =>
    refine iff_of_true rfl fun past next reached => ?_
    have empty := List.prefix_nil.mp reached
    simp at empty
  | append_singleton rounds last ih =>
    rw [Runs.run_concat, tick_running_iff, ih]
    refine ⟨fun ⟨earlier, now⟩ past next reached => ?_, fun all => ⟨?_, ?_⟩⟩
    · rcases List.prefix_concat_iff.mp reached with whole | before
      · obtain ⟨rfl, same⟩ := List.append_inj' whole rfl
        obtain rfl := List.singleton_inj.mp same
        exact now
      · exact earlier past next before
    · exact fun past next reached => all past next (reached.trans (List.prefix_append _ _))
    · exact all rounds last (List.prefix_refl _)

/-- A round applies every answer exactly when no due session completes with a BankID personal
number whose first eight bytes cannot be cut off; and over any rounds the task is still running
exactly when that was so in each of them. -/
theorem polling_survives_iff (chrono : Chrono) (config : PollingConfig)
    (isRegistered : String → Bool) (db : IdpDatabase VerifiedIdentityClaims)
    (round : RawRound) (rounds : List RawRound) :
    (RoundApplied chrono config isRegistered db round ↔
      Normalizable config isRegistered round db.getPollingSessions) ∧
    ((Runs.run (PollingTask.tick chrono config isRegistered) ⟨db, true⟩ rounds).running = true ↔
      ∀ past next, past ++ [next] <+: rounds → Normalizable config isRegistered next
        (Runs.run (PollingTask.tick chrono config isRegistered) ⟨db, true⟩
          past).db.getPollingSessions) :=
  ⟨roundApplied_iff chrono config isRegistered db round,
    run_running_iff chrono config isRegistered db rounds⟩

end

/-! ### Two sessions in one round -/

def samplePollingSession : VerificationSession where
  id := 1
  providerId := "bankid"
  flowType := .qrPolling
  status := .pending
  flowState := .polling "order" 1 0
  expiresAt := 1800
  credentialIssued := false

def samplePollingConfig : PollingConfig := ⟨2, 90⟩

def bankIdAnswer (personalNumber : String) : RawProviderClaims :=
  .bankId ⟨⟨personalNumber, "Karin Svensson", "Karin", "Svensson"⟩⟩

/-- The provider completes the first session with a personal number of its own, the second with a
well-formed one. -/
def twoAnswers (personalNumber : String) : RawRound where
  now := 2
  pollStatus id :=
    .ok (.complete (bankIdAnswer (if id = 1 then personalNumber else "199501011234")))
  order := .asListed

def twoSessions : IdpDatabase VerifiedIdentityClaims :=
  (IdpDatabase.new.createSessionWithFlow samplePollingSession).createSessionWithFlow
    { samplePollingSession with id := 2 }

/-- A personal number of four characters: the round panics on the first session, and the second
one stays as it was. -/
theorem short_personal_number_stops_polling :
    (pollPendingRaw sampleChrono samplePollingConfig (fun _ => true) twoSessions
        (twoAnswers "1980")).2 = .panicked ∧
      (pollPendingRaw sampleChrono samplePollingConfig (fun _ => true) twoSessions
        (twoAnswers "1980")).1.getSession 2 = some { samplePollingSession with id := 2 } ∧
      ¬RoundApplied sampleChrono samplePollingConfig (fun _ => true) twoSessions
        (twoAnswers "1980") := by
  have panicked : (pollPendingRaw sampleChrono samplePollingConfig (fun _ => true) twoSessions
      (twoAnswers "1980")).2 = .panicked := rfl
  refine ⟨panicked, by decide, fun applied => ?_⟩
  have clash := applied.ended.symm.trans panicked
  cases clash

end OwlId.Issuer
