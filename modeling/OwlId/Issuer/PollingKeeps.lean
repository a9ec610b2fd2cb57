import Mathlib
import OwlId.Issuer.PollingPanics

/-! # Sessions that polling keeps

A session is polled round after round until its provider completes it.  Two things lose it
on the way.  The answer `UserInteracting` moves it to a status that the snapshot of the
next round leaves out, so it is never polled again; and a panic over the claims of any
session ends the task.  `polling_keeps_session_iff` says that there is no third one.
-/

namespace OwlId.Issuer

open OwlId.Lib
open IdpDatabase (isPolling isPolling_eq_true)

/-! ## Rounds over normalized claims -/

def FlowState.pollCount : FlowState → Nat
  | .polling _ pollCount _ => pollCount
  | _ => 0

def FlowState.lastPoll : FlowState → Nat
  | .polling _ _ lastPoll => lastPoll
  | _ => 0

/-- The poll interval elapses before each of the times. -/
def Spaced (config : PollingConfig) (last : Nat) : List Nat → Prop
  | [] => True
  | now :: rest => config.pollInterval ≤ now - last ∧ Spaced config now rest

section

variable {Claims : Type} {config : PollingConfig} {isRegistered : String → Bool}
variable {db : IdpDatabase Claims} {session : VerificationSession}
  {rounds : List (PollingRound Claims)} {round : PollingRound Claims} {final : Nat}

/-- What the rounds ahead, and one more at the final time, need of a session that is polling. -/
structure Ready (config : PollingConfig) (isRegistered : String → Bool) (db : IdpDatabase Claims)
    (session : VerificationSession) (rounds : List (PollingRound Claims)) (final : Nat) :
    Prop where
  found : db.getSession session.id = some session
  polls : isPolling session = true
  registered : isRegistered session.providerId = true
  transient : ∀ round ∈ rounds, IsTransient (round.pollStatus session.id)
  spaced : Spaced config session.flowState.lastPoll (rounds.map PollingRound.now ++ [final])
  few : session.flowState.pollCount + rounds.length < config.maxPollCount

/-- The session is in the snapshot of the next round. -/
def Listed (db : IdpDatabase Claims) (id : Uuid) : Prop :=
  id ∈ db.getPollingSessions.map VerificationSession.id

theorem listed_iff {id : Uuid} :
    Listed db id ↔ ∃ session, db.getSession id = some session ∧ isPolling session = true := by
  constructor
  · intro listed
    obtain ⟨session, member, same⟩ := List.mem_map.mp listed
    obtain ⟨found, polls⟩ := IdpDatabase.mem_getPollingSessions.mp member
    exact ⟨session, same ▸ found, polls⟩
  · rintro ⟨session, found, polls⟩
    have named := IdpDatabase.getSession_id found
    exact List.mem_map.mpr
      ⟨session, IdpDatabase.mem_getPollingSessions.mpr ⟨named ▸ found, polls⟩, named⟩

/-- After a quiet answer the session is ready for the remaining rounds. -/
theorem Ready.next (ready : Ready config isRegistered db session (round :: rounds) final) :
    ∃ after, after.id = session.id ∧
      (roundStep config isRegistered db round).getSession session.id = some after ∧
      (IsInteracting (round.pollStatus session.id) → isPolling after = false) ∧
      (¬ IsInteracting (round.pollStatus session.id) →
        Ready config isRegistered (roundStep config isRegistered db round) after rounds final) := by
  obtain ⟨qr, pending, orderRef, pollCount, lastPoll, polling⟩ := isPolling_eq_true.mp ready.polls
  have few := ready.few
  have spaced := ready.spaced
  rw [polling, FlowState.pollCount, List.length_cons] at few
  rw [polling, FlowState.lastPoll, List.map_cons, List.cons_append, Spaced] at spaced
  obtain ⟨after, stored, named, provider, flow, polled⟩ := round_transient ready.found ready.polls
    polling (by omega) spaced.1 ready.registered (ready.transient round List.mem_cons_self)
  refine ⟨after, named, stored, fun interacts => ?_, fun quiet => ?_⟩
  · rw [← Bool.not_eq_true, polled, not_not]
    exact interacts
  · constructor
    · rw [named]
      exact stored
    · exact polled.mpr quiet
    · rw [provider]
      exact ready.registered
    · intro later member
      rw [named]
      exact ready.transient later (List.mem_cons_of_mem round member)
    · rw [flow, FlowState.lastPoll]
      exact spaced.2
    · rw [flow, FlowState.pollCount]
      omega

/-- Without interactions every round lists the session again, and it is ready for the final
    one. -/
theorem Ready.kept (ready : Ready config isRegistered db session rounds final)
    (quiet : ∀ round ∈ rounds, ¬ IsInteracting (round.pollStatus session.id)) :
    (∀ past, past <+: rounds → Listed (runRounds config isRegistered db past) session.id) ∧
      ∃ after, after.id = session.id ∧
        Ready config isRegistered (runRounds config isRegistered db rounds) after [] final := by
  induction rounds generalizing db session with
  | nil =>
    refine ⟨fun past reached => ?_, session, rfl, ready⟩
    rw [List.prefix_nil.mp reached]
    exact listed_iff.mpr ⟨session, ready.found, ready.polls⟩
  | cons round rest ih =>
    obtain ⟨after, named, _, _, goesOn⟩ := ready.next
    have ready' := goesOn (quiet round List.mem_cons_self)
    obtain ⟨listed, last, same, ready''⟩ := ih ready' fun later member =>
      named ▸ quiet later (List.mem_cons_of_mem round member)
    refine ⟨fun past reached => ?_, last, same.trans named, ready''⟩
    cases past with
    | nil => exact listed_iff.mpr ⟨session, ready.found, ready.polls⟩
    | cons first past =>
      obtain ⟨rfl, within⟩ := List.cons_prefix_cons.mp reached
      exact named ▸ listed past within

/-- The first interaction takes the session out of the rounds. -/
theorem Ready.quiet (ready : Ready config isRegistered db session rounds final)
    (listed : ∀ past, past <+: rounds → past ≠ [] →
      Listed (runRounds config isRegistered db past) session.id) :
    ∀ round ∈ rounds, ¬ IsInteracting (round.pollStatus session.id) := by
  induction rounds generalizing db session with
  | nil => simp
  | cons round rest ih =>
    obtain ⟨after, named, stored, stranded, goesOn⟩ := ready.next
    have calm : ¬ IsInteracting (round.pollStatus session.id) := by
      intro interacts
      obtain ⟨other, found, polls⟩ := listed_iff.mp (listed [round] (by simp) (by simp))
      obtain rfl := Option.some.inj (stored.symm.trans found)
      rw [stranded interacts] at polls
      cases polls
    have later := ih (goesOn calm) fun past reached _ => by
      rw [named]
      exact listed (round :: past) (List.cons_prefix_cons.mpr ⟨rfl, reached⟩) (by simp)
    intro other member
    cases List.mem_cons.mp member with
    | inl here => exact here ▸ calm
    | inr there => exact named ▸ later other there

end

/-! ## Rounds of the task -/

section

variable {chrono : Chrono} {config : PollingConfig} {isRegistered : String → Bool}
variable {round : RawRound} {db db' : IdpDatabase VerifiedIdentityClaims} {id : Uuid}
  {session : VerificationSession} {sessions : List VerificationSession}

theorem isInteracting_normalizedRound :
    IsInteracting ((normalizedRound chrono round).pollStatus id) ↔
      IsInteracting (round.pollStatus id) := by
  simp only [normalizedRound]
  cases round.pollStatus id with
  | error e => rfl
  | ok result =>
    cases result with
    | complete raw =>
      cases sliced : raw.normalize chrono <;> simp [normalizeAnswer, sliced, IsInteracting]
    | _ => rfl

theorem quiet_normalized_iff {rounds : List RawRound} :
    (∀ round ∈ rounds.map (normalizedRound chrono), ¬ IsInteracting (round.pollStatus id)) ↔
      ∀ round ∈ rounds, ¬ IsInteracting (round.pollStatus id) := by
  simp only [List.forall_mem_map, isInteracting_normalizedRound]

theorem isTransient_normalizedRound (transient : IsTransient (round.pollStatus id)) :
    IsTransient ((normalizedRound chrono round).pollStatus id) := by
  simp only [normalizedRound]
  cases answer : round.pollStatus id with
  | error e => trivial
  | ok result =>
    rw [answer] at transient
    cases result with
    | complete raw => exact transient.elim
    | failed reason => exact transient.elim
    | expired => exact transient.elim
    | pending message => trivial
    | userInteracting message => trivial

/-- A session that is polled does not touch another, whether its claims can be normalized or not. -/
theorem sameAt_pollRawSession
    (polls : pollRawSession chrono config isRegistered round db session = some (.ok db'))
    (elsewhere : id ≠ session.id) : SameAt db db' id := by
  rw [pollRawSession_eq (by rw [polls]; rfl), Option.some.injEq] at polls
  exact sameAt_pollSession polls elsewhere

/-- A round that panics has touched no session but those it lists either. -/
theorem sameAt_pollRawSessions (absent : id ∉ sessions.map VerificationSession.id) :
    SameAt db (pollRawSessions chrono config isRegistered round db sessions).1 id := by
  induction sessions generalizing db with
  | nil => exact SameAt.refl db id
  | cons head rest ih =>
    rw [List.map_cons, List.mem_cons, not_or] at absent
    rw [pollRawSessions]
    split
    case h_1 db' polls => exact (sameAt_pollRawSession polls absent.1).trans (ih absent.2)
    case h_2 => exact SameAt.refl db id
    case h_3 => exact SameAt.refl db id

/-- A list is polled in two parts, the second one if the first returns. -/
theorem pollRawSessions_append (first second : List VerificationSession) :
    pollRawSessions chrono config isRegistered round db (first ++ second) =
      match pollRawSessions chrono config isRegistered round db first with
      | (db', .returned (.ok ())) =>
        pollRawSessions chrono config isRegistered round db' second
      | outcome => outcome := by
  induction first generalizing db with
  | nil => rfl
  | cons head rest ih =>
    rw [List.cons_append, pollRawSessions, pollRawSessions]
    cases pollRawSession chrono config isRegistered round db head with
    | none => rfl
    | some result =>
      cases result with
      | ok db' => exact ih
      | error e => rfl

theorem normalizable_concat {before : List VerificationSession} :
    Normalizable config isRegistered round (before ++ [session]) ↔
      Normalizable config isRegistered round before ∧
        Normalizable config isRegistered round [session] := by
  simp only [Normalizable, List.mem_append, or_imp, forall_and]

/-- The body of the loop where the answer completes the session and its claims can be
    normalized. -/
theorem pollRawSession_complete {raw : RawProviderClaims}
    (found : db.getSession session.id = some session)
    (due : IsDue config isRegistered round session)
    (completes : round.pollStatus session.id = .ok (.complete raw))
    (normalizable : Normalizable config isRegistered round [session]) :
    ∃ claims db', raw.normalize chrono = some claims ∧
      pollRawSession chrono config isRegistered round db session = some (.ok db') ∧
      db'.getSession session.id = some session.verify ∧
      db'.getClaims session.id = some claims := by
  have sliceable : raw.Sliceable :=
    normalizable session (List.mem_singleton_self session) due raw completes
  obtain ⟨claims, normalized⟩ :=
    Option.isSome_iff_exists.mp ((normalize_isSome_iff chrono raw).mpr sliceable)
  have answer : (normalizedRound chrono round).pollStatus session.id = .ok (.complete claims) :=
    pollStatus_normalizedRound (by rw [completes, normalizeAnswer, normalized]; rfl)
  obtain ⟨orderRef, pollCount, lastPoll, polling, few, elapsed, registered⟩ := due
  refine ⟨claims, applyPoll db session.id orderRef round.now (.ok (.complete claims)), normalized,
    ?_, applyPoll_complete found⟩
  have elapsed' : config.pollInterval ≤ (normalizedRound chrono round).now - lastPoll := elapsed
  rw [pollRawSession_eq (pollRawSession_isSome_iff.mpr normalizable),
    pollSession_due polling few elapsed' registered, answer]
  rfl

/-- What the round that completes a session does to it: if nothing of the snapshot panics up to
    this session, its claims are stored and it is verified, and otherwise it is left as it was. -/
theorem completing_round {raw : RawProviderClaims} {before after : List VerificationSession}
    (found : db.getSession session.id = some session)
    (due : IsDue config isRegistered round session)
    (snapshot : round.snapshot db = before ++ session :: after)
    (completes : round.pollStatus session.id = .ok (.complete raw)) :
    (Normalizable config isRegistered round (before ++ [session]) →
      ∃ claims, raw.normalize chrono = some claims ∧
        (pollPendingRaw chrono config isRegistered db round).1.getSession session.id =
          some session.verify ∧
        (pollPendingRaw chrono config isRegistered db round).1.getClaims session.id = some claims) ∧
    (¬ Normalizable config isRegistered round (before ++ [session]) →
      (pollPendingRaw chrono config isRegistered db round).1.getSession session.id =
        some session) := by
  have distinct := snapshot_distinct round db
  have exist := snapshot_exist round db
  rw [snapshot] at exist
  rw [snapshot, List.map_append, List.map_cons] at distinct
  obtain ⟨notBefore, notAfter⟩ : session.id ∉ before.map VerificationSession.id ∧
      session.id ∉ after.map VerificationSession.id := by
    simpa [not_or] using (List.nodup_cons.mp (List.nodup_middle.mp distinct)).1
  have ends := @pollRawSessions_end chrono config isRegistered round db before
    (List.Nodup.of_append_left distinct)
    (fun other member => exist other (List.mem_append_left _ member))
  have earlier : SameAt db (pollRawSessions chrono config isRegistered round db before).1
      session.id := sameAt_pollRawSessions notBefore
  have calm : (pollRawSessions chrono config isRegistered round db before).2 = .returned (.ok ()) →
      Normalizable config isRegistered round before := normalizable_of_returned
  have panics : (pollRawSessions chrono config isRegistered round db before).2 = .panicked →
      ¬ Normalizable config isRegistered round before := by
    intro panicked normalizable
    rw [pollRawSessions_eq normalizable] at panicked
    cases panicked
  -- the round up to the session, then its own turn, then the rest of the snapshot
  rw [pollPendingRaw, snapshot, pollRawSessions_append, normalizable_concat]
  generalize pollRawSessions chrono config isRegistered round db before = outcome at *
  obtain ⟨reached, roundEnd⟩ := outcome
  have here : reached.getSession session.id = some session := earlier.session.trans found
  rcases ends with returned | panicked
  · obtain rfl : roundEnd = .returned (.ok ()) := returned
    dsimp only
    rw [pollRawSessions]
    constructor
    · rintro ⟨_, normalizable⟩
      obtain ⟨claims, db', normalized, body, verified, stored⟩ :=
        pollRawSession_complete here due completes normalizable
      rw [body]
      have rest : SameAt db' (pollRawSessions chrono config isRegistered round db' after).1
          session.id := sameAt_pollRawSessions notAfter
      exact ⟨claims, normalized, rest.session.trans verified, rest.claims.trans stored⟩
    · intro stuck
      have body :
          ¬ (pollRawSession chrono config isRegistered round reached session).isSome = true :=
        fun body => stuck ⟨calm rfl, pollRawSession_isSome_iff.mp body⟩
      rw [Option.not_isSome_iff_eq_none.mp body]
      exact here
  · -- the panic came before the session's turn
    obtain rfl : roundEnd = .panicked := panicked
    exact ⟨fun normalizable => absurd normalizable.1 (panics rfl), fun _ => here⟩

end

/-! ## Runs of the task -/

section

variable (chrono : Chrono) (config : PollingConfig) (isRegistered : String → Bool)

/-- The task after these rounds. -/
abbrev polledTask (db : IdpDatabase VerifiedIdentityClaims) (rounds : List RawRound) :
    PollingTask :=
  Runs.run (PollingTask.tick chrono config isRegistered) ⟨db, true⟩ rounds

/-- A live QR session, whose provider gives transient answers and then completes it, with polls
    to spare. -/
structure LivePolling (db : IdpDatabase VerifiedIdentityClaims) (session : VerificationSession)
    (rounds : List RawRound) (final : RawRound) (raw : RawProviderClaims) : Prop where
  found : db.getSession session.id = some session
  flow : session.flowType = .qrPolling
  live : session.status = .pending ∨ session.status = .verifying
  waits : session.flowState = .pollingPending ∨
    ∃ orderRef pollCount lastPoll, session.flowState = .polling orderRef pollCount lastPoll
  registered : isRegistered session.providerId = true
  transient : ∀ round ∈ rounds, IsTransient (round.pollStatus session.id)
  completes : final.pollStatus session.id = .ok (.complete raw)
  spaced : Spaced config session.flowState.lastPoll (rounds.map PollingRound.now ++ [final.now])
  few : session.flowState.pollCount + rounds.length < config.maxPollCount

/-- After each round the session is still polled, and the last one stores its claims and verifies
    it. -/
structure Kept (db : IdpDatabase VerifiedIdentityClaims) (id : Uuid) (rounds : List RawRound)
    (final : RawRound) (raw : RawProviderClaims) : Prop where
  polled : ∀ past, past <+: rounds → past ≠ [] →
    Listed (polledTask chrono config isRegistered db past).db id
  verified : ∃ session,
    (polledTask chrono config isRegistered db (rounds ++ [final])).db.getSession id =
      some session ∧ session.status = .verified
  stored : ∃ claims, raw.normalize chrono = some claims ∧
    (polledTask chrono config isRegistered db (rounds ++ [final])).db.getClaims id = some claims

/-- No panic comes before the session is completed: each earlier round can normalize what its
    snapshot completes with, and the final one at least up to this session. -/
structure Unpanicked (db : IdpDatabase VerifiedIdentityClaims) (id : Uuid) (rounds : List RawRound)
    (final : RawRound) : Prop where
  earlier : ∀ past next, past ++ [next] <+: rounds → Normalizable config isRegistered next
    (polledTask chrono config isRegistered db past).db.getPollingSessions
  last : ∀ before session after,
    final.snapshot (polledTask chrono config isRegistered db rounds).db =
      before ++ session :: after → session.id = id →
    Normalizable config isRegistered final (before ++ [session])

variable {chrono config isRegistered}
variable {db : IdpDatabase VerifiedIdentityClaims} {session : VerificationSession}
  {rounds : List RawRound} {round final : RawRound} {raw : RawProviderClaims} {id : Uuid}

theorem tick_db {task : PollingTask} (running : task.running = true) :
    (task.tick chrono config isRegistered round).db =
      (pollPendingRaw chrono config isRegistered task.db round).1 := by
  rw [PollingTask.tick, if_pos running]
  split <;> simp [*]

theorem tick_stopped {task : PollingTask} (stopped : task.running = false) :
    task.tick chrono config isRegistered round = task := by
  rw [PollingTask.tick, stopped]
  rfl

/-- The rounds of a task that is still running are rounds over normalized claims. -/
theorem polledTask_db (running : (polledTask chrono config isRegistered db rounds).running = true) :
    (polledTask chrono config isRegistered db rounds).db =
      runRounds config isRegistered db (rounds.map (normalizedRound chrono)) := by
  induction rounds using List.reverseRecOn with
  | nil => rfl
  | append_singleton rounds last ih =>
    -- the last round did not panic, so it is a round over normalized claims too
    rw [polledTask, Runs.run_concat, tick_running_iff] at running
    obtain ⟨before, normalizable⟩ := running
    rw [polledTask, Runs.run_concat, tick_db before, List.map_append, List.map_singleton,
      runRounds, Runs.run_concat, pollPendingRaw,
      pollRawSessions_eq (normalizable_snapshot_iff.mpr normalizable)]
    rw [ih before]
    rfl

theorem running_before {past : List RawRound}
    (running : (polledTask chrono config isRegistered db rounds).running = true)
    (reached : past <+: rounds) :
    (polledTask chrono config isRegistered db past).running = true :=
  (run_running_iff chrono config isRegistered db past).mpr fun before next within =>
    (run_running_iff chrono config isRegistered db rounds).mp running before next
      (within.trans reached)

/-- A round leaves a session alone that is not polling. -/
theorem tick_of_not_polling {task : PollingTask}
    (found : task.db.getSession session.id = some session) (stranded : isPolling session = false) :
    (task.tick chrono config isRegistered round).db.getSession session.id = some session := by
  cases running : task.running with
  | false =>
    rw [tick_stopped running]
    exact found
  | true =>
    -- neither the round nor its panic reaches a session that the snapshot leaves out
    have absent : ¬ Listed task.db session.id := by
      intro listed
      obtain ⟨other, found', polls⟩ := listed_iff.mp listed
      obtain rfl := Option.some.inj (found.symm.trans found')
      rw [stranded] at polls
      cases polls
    have absent' : session.id ∉ (round.snapshot task.db).map VerificationSession.id := by
      intro member
      obtain ⟨other, among, same⟩ := List.mem_map.mp member
      exact absent (List.mem_map.mpr ⟨other, (mem_snapshot round task.db).mp among, same⟩)
    rw [tick_db running]
    exact (sameAt_pollRawSessions absent').session.trans found

theorem run_of_not_polling (found : db.getSession session.id = some session)
    (stranded : isPolling session = false) (rounds : List RawRound) :
    (polledTask chrono config isRegistered db rounds).db.getSession session.id = some session :=
  Runs.run_invariant (fun task : PollingTask => task.db.getSession session.id = some session) found
    (fun _ _ here => tick_of_not_polling here stranded) rounds

variable (chrono) in
/-- The session is ready for the rounds over normalized claims. -/
theorem LivePolling.ready (live : LivePolling config isRegistered db session rounds final raw)
    (polls : isPolling session = true) :
    Ready config isRegistered db session (rounds.map (normalizedRound chrono)) final.now where
  found := live.found
  polls := polls
  registered := live.registered
  transient := by
    intro round member
    obtain ⟨round, among, rfl⟩ := List.mem_map.mp member
    exact isTransient_normalizedRound (live.transient round among)
  spaced := by
    have sameClock : (rounds.map (normalizedRound chrono)).map PollingRound.now =
        rounds.map PollingRound.now := by
      rw [List.map_map]
      rfl
    rw [sameClock]
    exact live.spaced
  few := by
    rw [List.length_map]
    exact live.few

/-- The final round asks for a session that is still polled. -/
theorem Ready.isDue (ready : Ready config isRegistered db session [] final.now) :
    IsDue config isRegistered final session := by
  obtain ⟨_, _, orderRef, pollCount, lastPoll, polling⟩ := isPolling_eq_true.mp ready.polls
  have few := ready.few
  have spaced := ready.spaced
  rw [polling, FlowState.pollCount, List.length_nil] at few
  rw [polling, FlowState.lastPoll, List.map_nil, List.nil_append, Spaced] at spaced
  exact ⟨orderRef, pollCount, lastPoll, polling, by omega, spaced.1, ready.registered⟩

/-- The final round of a task that has not stopped, over a session that nothing has stranded. -/
theorem LivePolling.final_round
    (live : LivePolling config isRegistered db session rounds final raw)
    (polls : isPolling session = true)
    (quiet : ∀ round ∈ rounds, ¬ IsInteracting (round.pollStatus session.id))
    (running : (polledTask chrono config isRegistered db rounds).running = true) :
    ∃ before after rest, after.id = session.id ∧ isPolling after = true ∧
      final.snapshot (polledTask chrono config isRegistered db rounds).db =
        before ++ after :: rest ∧
      (Normalizable config isRegistered final (before ++ [after]) →
        ∃ claims, raw.normalize chrono = some claims ∧
          (polledTask chrono config isRegistered db (rounds ++ [final])).db.getSession session.id =
            some after.verify ∧
          (polledTask chrono config isRegistered db (rounds ++ [final])).db.getClaims session.id =
            some claims) ∧
      (¬ Normalizable config isRegistered final (before ++ [after]) →
        (polledTask chrono config isRegistered db (rounds ++ [final])).db.getSession session.id =
          some after) := by
  obtain ⟨_, after, named, ready⟩ := (live.ready chrono polls).kept (quiet_normalized_iff.mpr quiet)
  rw [← polledTask_db running] at ready
  have listed : after ∈ final.snapshot (polledTask chrono config isRegistered db rounds).db :=
    (mem_snapshot _ _).mpr (IdpDatabase.mem_getPollingSessions.mpr ⟨ready.found, ready.polls⟩)
  obtain ⟨before, rest, snapshot⟩ := List.append_of_mem listed
  have completes : final.pollStatus after.id = .ok (.complete raw) := by
    rw [named]
    exact live.completes
  have outcome := @completing_round chrono config isRegistered final _ after raw before rest
    ready.found ready.isDue snapshot completes
  rw [← tick_db running, named] at outcome
  have last : polledTask chrono config isRegistered db (rounds ++ [final]) =
      (polledTask chrono config isRegistered db rounds).tick chrono config isRegistered final :=
    Runs.run_concat _ _ rounds final
  rw [last]
  exact ⟨before, after, rest, named, ready.polls, snapshot, outcome⟩

theorem LivePolling.kept (live : LivePolling config isRegistered db session rounds final raw)
    (polls : isPolling session = true)
    (quiet : ∀ round ∈ rounds, ¬ IsInteracting (round.pollStatus session.id))
    (unpanicked : Unpanicked chrono config isRegistered db session.id rounds final) :
    Kept chrono config isRegistered db session.id rounds final raw := by
  have running := (run_running_iff chrono config isRegistered db rounds).mpr unpanicked.earlier
  have listed := ((live.ready chrono polls).kept (quiet_normalized_iff.mpr quiet)).1
  obtain ⟨before, after, rest, named, _, snapshot, completed, _⟩ :=
    live.final_round polls quiet running
  obtain ⟨claims, normalized, verified, stored⟩ :=
    completed (unpanicked.last before after rest snapshot named)
  refine ⟨fun past reached _ => ?_, ⟨_, verified, rfl⟩, ⟨claims, normalized, stored⟩⟩
  rw [polledTask_db (running_before running reached)]
  exact listed _ (reached.map (normalizedRound chrono))

/-- A kept session was never left behind by a panic. -/
theorem Kept.running (kept : Kept chrono config isRegistered db id rounds final raw) :
    (polledTask chrono config isRegistered db rounds).running = true := by
  by_contra stopped
  -- a task that has stopped cannot verify the session, which was still polled after its last round
  rw [Bool.not_eq_true] at stopped
  obtain ⟨after, found, verified⟩ := kept.verified
  rw [polledTask, Runs.run_concat, tick_stopped stopped] at found
  have some : rounds ≠ [] := by
    rintro rfl
    cases stopped
  obtain ⟨other, found', polls⟩ := listed_iff.mp (kept.polled rounds (List.prefix_refl rounds) some)
  obtain rfl := Option.some.inj (found.symm.trans found')
  have pending := (isPolling_eq_true.mp polls).2.1
  rw [verified] at pending
  cases pending

theorem Kept.quiet (kept : Kept chrono config isRegistered db session.id rounds final raw)
    (live : LivePolling config isRegistered db session rounds final raw)
    (polls : isPolling session = true) :
    ∀ round ∈ rounds, ¬ IsInteracting (round.pollStatus session.id) := by
  rw [← @quiet_normalized_iff chrono]
  apply (live.ready chrono polls).quiet
  intro past reached some
  obtain ⟨rest, whole⟩ := reached
  obtain ⟨past, rest, rfl, rfl, _⟩ := List.map_eq_append_iff.mp whole.symm
  have reached : past <+: past ++ rest := List.prefix_append past rest
  rw [← polledTask_db (running_before kept.running reached)]
  exact kept.polled past reached fun empty => some (by rw [empty, List.map_nil])

theorem Kept.unpanicked (kept : Kept chrono config isRegistered db session.id rounds final raw)
    (live : LivePolling config isRegistered db session rounds final raw)
    (polls : isPolling session = true) :
    Unpanicked chrono config isRegistered db session.id rounds final := by
  refine ⟨(run_running_iff chrono config isRegistered db rounds).mp kept.running, ?_⟩
  intro before other rest snapshot named
  obtain ⟨before', after, rest', named', pending, snapshot', _, left⟩ :=
    live.final_round polls (kept.quiet live polls) kept.running
  obtain rfl : other = after := by
    have listed := (mem_snapshot final _).mp (snapshot ▸ List.mem_append_cons_self)
    have listed' := (mem_snapshot final _).mp (snapshot' ▸ List.mem_append_cons_self)
    have found := (IdpDatabase.mem_getPollingSessions.mp listed).1
    have found' := (IdpDatabase.mem_getPollingSessions.mp listed').1
    rw [named] at found
    rw [named', found] at found'
    exact Option.some.inj found'
  -- the snapshot has the session once
  have once := List.Nodup.of_map VerificationSession.id
    (snapshot_distinct final (polledTask chrono config isRegistered db rounds).db)
  rw [snapshot, List.nodup_middle, List.nodup_cons, List.mem_append, not_or] at once
  rw [snapshot, List.append_cons_inj_of_notMem once.1.1 once.1.2] at snapshot'
  obtain ⟨rfl, _, _⟩ := snapshot'
  -- a panic up to its turn would have left it pending
  by_contra panics
  obtain ⟨verified, found, status⟩ := kept.verified
  rw [left panics] at found
  obtain rfl := Option.some.inj found
  rw [(isPolling_eq_true.mp pending).2.1] at status
  cases status

/-- A live session survives its rounds exactly when the snapshot contains it, no answer says that
    the user is interacting, and no round panics before the session is completed. -/
theorem polling_keeps_session_iff (chrono : Chrono) (config : PollingConfig)
    (isRegistered : String → Bool) (db : IdpDatabase VerifiedIdentityClaims)
    (session : VerificationSession) (rounds : List RawRound) (final : RawRound)
    (raw : RawProviderClaims)
    (live : LivePolling config isRegistered db session rounds final raw) :
    Kept chrono config isRegistered db session.id rounds final raw ↔
      isPolling session = true ∧
        (∀ round ∈ rounds, ¬ IsInteracting (round.pollStatus session.id)) ∧
        Unpanicked chrono config isRegistered db session.id rounds final := by
  constructor
  · intro kept
    cases polls : isPolling session with
    | true => exact ⟨rfl, kept.quiet live polls, kept.unpanicked live polls⟩
    | false =>
      -- a session outside the snapshot is never written, so it is not verified either
      obtain ⟨after, stored, verified⟩ := kept.verified
      rw [run_of_not_polling live.found polls] at stored
      obtain rfl := Option.some.inj stored
      have status := live.live
      rw [verified] at status
      simp at status
  · rintro ⟨polls, quiet, unpanicked⟩
    exact live.kept polls quiet unpanicked

end

/-! ### A session of two rounds -/

def samplePollingDatabase : IdpDatabase VerifiedIdentityClaims :=
  IdpDatabase.new.createSessionWithFlow samplePollingSession

def answering (now : Nat) (answer : PollResult RawProviderClaims) : RawRound :=
  ⟨now, fun _ => .ok answer, .asListed⟩

def completing : RawRound := answering 4 (.complete (bankIdAnswer "199501011234"))

theorem sample_live {answer : PollResult RawProviderClaims}
    (transient : IsTransient (.ok answer : Except String (PollResult RawProviderClaims))) :
    LivePolling samplePollingConfig (fun _ => true) samplePollingDatabase samplePollingSession
      [answering 2 answer] completing (bankIdAnswer "199501011234") where
  found := rfl
  flow := rfl
  live := .inl rfl
  waits := .inr ⟨_, _, _, rfl⟩
  registered := rfl
  transient := by simpa [answering] using transient
  completes := rfl
  spaced := ⟨(by decide : 2 ≤ 2 - 0), (by decide : 2 ≤ 4 - 2), trivial⟩
  few := (by decide : 1 + 1 < 90)

theorem polling_keeps_session_at_sample :
    Kept sampleChrono samplePollingConfig (fun _ => true) samplePollingDatabase 1
      [answering 2 (.pending "open the app")] completing
      (bankIdAnswer "199501011234") := by
  have live := @sample_live (.pending "open the app") trivial
  refine (polling_keeps_session_iff sampleChrono samplePollingConfig (fun _ => true)
    samplePollingDatabase samplePollingSession _ _ _ live).mpr ⟨by decide, ?_, ?_, ?_⟩
  · simp [answering, IsInteracting]
  · intro past next reached session _ _ raw completes
    obtain rfl : next = answering 2 (.pending "open the app") :=
      List.mem_singleton.mp (reached.subset (List.mem_append_right _ (List.mem_singleton_self _)))
    cases completes
  · intro before session after _ _ other _ _ raw completes
    obtain rfl := PollResult.complete.inj (Except.ok.inj completes)
    exact ⟨"19950101".toList, by decide, by decide⟩

/-- Opening the app strands the session: the completion is never asked for. -/
theorem interacting_session_stranded :
    LivePolling samplePollingConfig (fun _ => true) samplePollingDatabase samplePollingSession
      [answering 2 (.userInteracting "app opened")] completing
      (bankIdAnswer "199501011234") ∧
    ¬ Kept sampleChrono samplePollingConfig (fun _ => true) samplePollingDatabase 1
      [answering 2 (.userInteracting "app opened")] completing
      (bankIdAnswer "199501011234") := by
  have live := @sample_live (.userInteracting "app opened") trivial
  exact ⟨live, fun kept => kept.quiet live (by decide) _ List.mem_cons_self trivial⟩

end OwlId.Issuer
