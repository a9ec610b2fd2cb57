import Mathlib
import OwlId.Issuer.SessionHandlers

/-! # Terminal statuses

No write of a handler looks at the status it replaces.  A terminal status is stable all the
same as long as a handler decides on a status only when the session has no other terminal
one and no other handler is about to write one that clashes.  The invariant `Settling` says
the same of the writes that are already decided; every step that is calm keeps it.
-/

namespace OwlId.Issuer

open OwlId.Lib

variable {Claims : Type}

/-! ## The statuses a handler writes -/

namespace SessionStatus

def IsTerminal : SessionStatus → Prop
  | .verified | .failed | .expired => True
  | .pending | .verifying => False

/-- Two statuses that must not be written after one another. -/
def Clashes (status other : SessionStatus) : Prop :=
  status ≠ other ∧ (status.IsTerminal ∨ other.IsTerminal)

theorem eq_of_not_clashes {status other : SessionStatus} (agree : ¬ Clashes status other)
    (terminal : status.IsTerminal) : other = status := by
  by_contra different
  exact agree ⟨Ne.symm different, .inl terminal⟩

theorem Clashes.symm {status other : SessionStatus} (clashes : Clashes status other) :
    Clashes other status := ⟨clashes.1.symm, clashes.2.symm⟩

end SessionStatus

namespace SessionWrite

open SessionStatus

/-- The status a write sets. -/
def status? : SessionWrite Claims → Option SessionStatus
  | .updateSessionStatus status => some status
  | .markSessionVerified => some .verified
  | .markSessionFailed _ => some .failed
  | .updateFlowState _ | .updatePollingState _ | .storeClaims _ => none

theorem statusAfter_eq (write : SessionWrite Claims) (before : SessionStatus) :
    write.statusAfter before = write.status?.getD before := by
  cases write <;> rfl

def statuses (writes : List (SessionWrite Claims)) : List SessionStatus :=
  writes.filterMap status?

/-- A handler that has set a terminal status does not set another. -/
def Ordered (writes : List (SessionWrite Claims)) : Prop :=
  (statuses writes).Pairwise fun status later => status.IsTerminal → later = status

@[simp] theorem statuses_nil : statuses ([] : List (SessionWrite Claims)) = [] := rfl

@[simp] theorem statuses_cons (write : SessionWrite Claims) (rest : List (SessionWrite Claims)) :
    statuses (write :: rest) = write.status?.toList ++ statuses rest := by
  unfold statuses
  cases found : write.status? with
  | none => rw [List.filterMap_cons_none found]; rfl
  | some status => rw [List.filterMap_cons_some found]; rfl

theorem mem_statuses_tail {write : SessionWrite Claims} {rest : List (SessionWrite Claims)}
    {status : SessionStatus} (member : status ∈ statuses rest) :
    status ∈ statuses (write :: rest) := by
  rw [statuses_cons]
  exact List.mem_append_right _ member

theorem mem_statuses_head {write : SessionWrite Claims} {rest : List (SessionWrite Claims)}
    {status : SessionStatus} (sets : write.status? = some status) :
    status ∈ statuses (write :: rest) := by
  rw [statuses_cons, sets]
  exact List.mem_append_left _ List.mem_cons_self

theorem Ordered.tail {write : SessionWrite Claims} {rest : List (SessionWrite Claims)}
    (ordered : Ordered (write :: rest)) : Ordered rest := by
  rw [Ordered, statuses_cons] at ordered
  exact (List.pairwise_append.mp ordered).2.1

/-- After a terminal status the same handler only repeats it. -/
theorem Ordered.head {write : SessionWrite Claims} {rest : List (SessionWrite Claims)}
    {status later : SessionStatus} (ordered : Ordered (write :: rest))
    (sets : write.status? = some status) (terminal : status.IsTerminal)
    (member : later ∈ statuses rest) : later = status := by
  rw [Ordered, statuses_cons, sets] at ordered
  exact (List.pairwise_append.mp ordered).2.2 status List.mem_cons_self later member terminal

end SessionWrite

open SessionStatus SessionWrite

/-! ### Every handler sets its terminal status last -/

theorem ordered_of_short {writes : List (SessionWrite Claims)}
    (short : (statuses writes).length ≤ 1) : Ordered writes := by
  unfold Ordered
  match statuses writes, short with
  | [], _ => exact List.Pairwise.nil
  | [status], _ => exact List.pairwise_singleton _ status

/-- After an answer at most one status is set. -/
theorem asked_ordered (asked : Asked) (answer : ProviderAnswer Claims) :
    Ordered (asked.writes answer) := by
  apply ordered_of_short
  unfold Asked.writes
  split
  case h_2 orderRef result => cases result <;> simp [status?, pollSessionWrites, verifyWith]
  case h_3 orderRef result => cases result <;> simp [status?, pollRoundWrites, verifyWith]
  all_goals simp [status?, verifyWith]

theorem opening_ordered {writes : List (SessionWrite Claims)} (opens : Opening writes) :
    Ordered writes := by
  cases opens with
  | asks => exact List.Pairwise.nil
  | timesOut reason => exact ordered_of_short (by simp [status?])
  | expires => exact ordered_of_short (by simp [status?])
  | verifies claims => exact ordered_of_short (by simp [status?, verifyWith])
  | verifiesSlowly claims => simp [Ordered, status?, verifyWith, IsTerminal]

/-! ## The invariant -/

namespace SessionService

/-- The other handlers of the session write no status that clashes with these writes. -/
def Apart (s : SessionService Claims) (i : Nat) (id : Uuid) (writes : List (SessionWrite Claims)) :
    Prop :=
  ∀ j other, j ≠ i → s.handlers j = some other → other.session = id →
    ∀ status ∈ statuses writes, ∀ later ∈ statuses other.pending, ¬ Clashes status later

/-- The session has no terminal status other than those the writes set. -/
def Open (s : SessionService Claims) (id : Uuid) (writes : List (SessionWrite Claims)) : Prop :=
  ∀ session, s.db.getSession id = some session → session.status.IsTerminal →
    ∀ status ∈ statuses writes, status = session.status

/-- The statuses still to be written agree with each other and with the sessions. -/
structure Settling (s : SessionService Claims) : Prop where
  sessionDrawn : ∀ id session, s.db.getSession id = some session → id < s.drawn
  handlerDrawn : ∀ i handler, s.handlers i = some handler → handler.session < s.drawn
  ordered : ∀ i handler, s.handlers i = some handler → Ordered handler.pending
  apart : ∀ i handler, s.handlers i = some handler →
    s.Apart i handler.session handler.pending
  settled : ∀ i handler, s.handlers i = some handler → s.Open handler.session handler.pending

theorem start_settling : Settling (start : SessionService Claims) := ⟨nofun, nofun, nofun, nofun, nofun⟩

variable {s : SessionService Claims} {i : Nat}

/-- A handler that ended. -/
theorem Settling.ended (settling : Settling s) : Settling (s.setHandler i none) := by
  constructor
  · exact settling.sessionDrawn
  · intro j handler here
    exact settling.handlerDrawn j handler (handlers_ended here)
  · intro j handler here
    exact settling.ordered j handler (handlers_ended here)
  · intro j handler here k other different there same
    exact settling.apart j handler (handlers_ended here) k other different (handlers_ended there) same
  · intro j handler here
    exact settling.settled j handler (handlers_ended here)

/-- A handler whose writes are apart from those of the others. -/
theorem Settling.put (settling : Settling s) {handler : SessionHandler Claims}
    (drawn : handler.session < s.drawn) (ordered : Ordered handler.pending)
    (apart : s.Apart i handler.session handler.pending)
    (settled : s.Open handler.session handler.pending) :
    Settling (s.setHandler i (some handler)) := by
  constructor
  · exact settling.sessionDrawn
  · intro j other here
    rcases handlers_put here with ⟨_, rfl⟩ | ⟨_, before⟩
    · exact drawn
    · exact settling.handlerDrawn j other before
  · intro j other here
    rcases handlers_put here with ⟨_, rfl⟩ | ⟨_, before⟩
    · exact ordered
    · exact settling.ordered j other before
  · intro j first here k second different there same
    rcases handlers_put here with ⟨rfl, rfl⟩ | ⟨away, before⟩
    · rcases handlers_put there with ⟨rfl, _⟩ | ⟨_, before'⟩
      · exact absurd rfl different
      · exact apart k second different before' same
    · rcases handlers_put there with ⟨rfl, rfl⟩ | ⟨_, before'⟩
      · -- the clash is the same from either side
        intro status member later member' clashes
        exact apart j first away before same.symm later member' status member clashes.symm
      · exact settling.apart j first before k second different before' same
  · intro j other here
    rcases handlers_put here with ⟨_, rfl⟩ | ⟨_, before⟩
    · exact settled
    · exact settling.settled j other before

/-- The sessions may be changed as long as every handler stays open to them. -/
theorem Settling.withDb (settling : Settling s) {db : IdpDatabase Claims}
    (from_ : ∀ id session, db.getSession id = some session → (s.db.getSession id).isSome)
    (settled : ∀ j handler, s.handlers j = some handler → ∀ session,
      db.getSession handler.session = some session → session.status.IsTerminal →
        ∀ status ∈ statuses handler.pending, status = session.status) :
    Settling { s with db := db } where
  sessionDrawn id session found := by
    obtain ⟨before, found'⟩ := Option.isSome_iff_exists.mp (from_ id session found)
    exact settling.sessionDrawn id before found'
  handlerDrawn := settling.handlerDrawn
  ordered := settling.ordered
  apart := settling.apart
  settled := settled

theorem Settling.goesAhead (settling : Settling s) {handler : SessionHandler Claims}
    {writes : List (SessionWrite Claims)} (drawn : handler.session < s.drawn)
    (ordered : Ordered writes) (apart : s.Apart i handler.session writes)
    (settled : s.Open handler.session writes) :
    Settling (s.setHandler i (ahead handler writes)) := by
  unfold ahead
  split
  · exact settling.ended
  · exact settling.put drawn ordered apart settled

section

variable {handler : SessionHandler Claims} {write : SessionWrite Claims}
  {rest : List (SessionWrite Claims)}

/-- A handler that has one write less ahead. -/
theorem Settling.shrunk (settling : Settling s) (here : s.handlers i = some handler)
    (pending : handler.pending = write :: rest) :
    Settling (s.setHandler i (ahead handler rest)) := by
  have ordered := settling.ordered i handler here
  have apart := settling.apart i handler here
  have settled := settling.settled i handler here
  rw [pending] at ordered apart settled
  refine settling.goesAhead (settling.handlerDrawn i handler here) ordered.tail ?_ ?_
  · intro j other different there same status member
    exact apart j other different there same status (mem_statuses_tail member)
  · intro session found terminal status member
    exact settled session found terminal status (mem_statuses_tail member)

/-- Once the write has set a terminal status, no handler of the session sets another. -/
theorem Settling.after_write (settling : Settling s) (here : s.handlers i = some handler)
    (pending : handler.pending = write :: rest) {status : SessionStatus}
    (sets : write.status? = some status) (terminal : status.IsTerminal) {j : Nat}
    {other : SessionHandler Claims}
    (there : (s.setHandler i (ahead handler rest)).handlers j = some other)
    (same : other.session = handler.session) :
    ∀ later ∈ statuses other.pending, later = status := by
  intro later member
  have ordered := settling.ordered i handler here
  have apart := settling.apart i handler here
  rw [pending] at ordered apart
  rcases handlers_ahead there with ⟨rfl, rfl⟩ | ⟨different, before⟩
  · exact ordered.head sets terminal member
  · have agree := apart j other different before same status (mem_statuses_head sets) later member
    exact eq_of_not_clashes agree terminal

theorem Settling.open_shrunk (settling : Settling s) (here : s.handlers i = some handler)
    (pending : handler.pending = write :: rest) {j : Nat} {other : SessionHandler Claims}
    (there : (s.setHandler i (ahead handler rest)).handlers j = some other) :
    s.Open other.session other.pending :=
  (settling.shrunk here pending).settled j other there

theorem Settling.written (settling : Settling s) {db : IdpDatabase Claims}
    (here : s.handlers i = some handler) (pending : handler.pending = write :: rest)
    (applied : write.apply s.db handler.session s.now = .ok db) :
    Settling { s.setHandler i (ahead handler rest) with db := db } := by
  refine (settling.shrunk here pending).withDb (fun id session found => ?_)
    fun j other there session found terminal later member => ?_
  · have same := SessionWrite.isSome_getSession_apply applied id
    rw [found] at same
    exact same.symm
  · have open_ := settling.open_shrunk here pending there
    rcases SessionWrite.apply_cases applied with
      ⟨claims, rfl, rfl⟩ | ⟨before, after, stored, replaces, keeps, status⟩
    · exact open_ session found terminal later member
    · rw [replaces.getSession] at found
      by_cases same : other.session = handler.session
      · rw [if_pos same] at found
        obtain rfl := Option.some.inj found
        rw [statusAfter_eq] at status
        cases sets : write.status? with
        | some set =>
          rw [sets, Option.getD_some] at status
          rw [status] at terminal ⊢
          exact settling.after_write here pending sets terminal there same later member
        | none =>
          rw [sets, Option.getD_none] at status
          rw [status] at terminal ⊢
          exact open_ before (same ▸ stored) terminal later member
      · rw [if_neg same] at found
        exact open_ session found terminal later member

end

theorem Settling.created (settling : Settling s) (fresh providerId : String)
    (flowType : ProviderFlowType) :
    Settling { s with
      db := s.db.createSessionWithFlow
        (VerificationSession.new s.drawn fresh providerId flowType s.now)
      drawn := s.drawn + 1 } := by
  have stored (id : Uuid) := @IdpDatabase.getSession_createSessionWithFlow _ s.db
    (VerificationSession.new s.drawn fresh providerId flowType s.now) id
  constructor
  · intro id session found
    by_cases new : id = s.drawn
    · exact new ▸ Nat.lt_succ_self s.drawn
    · have before := (stored id).trans (if_neg new)
      exact Nat.lt_succ_of_lt (settling.sessionDrawn id session (before.symm.trans found))
  · intro j handler here
    exact Nat.lt_succ_of_lt (settling.handlerDrawn j handler here)
  · exact settling.ordered
  · exact settling.apart
  · intro j handler here session found
    have old : handler.session ≠ s.drawn := Nat.ne_of_lt (settling.handlerDrawn j handler here)
    have before := (stored handler.session).trans (if_neg old)
    exact settling.settled j handler here session (before.symm.trans found)

/-! ## Calm steps -/

/-- A handler that decides on its writes finds the session open to them and the other handlers
    apart from them. -/
def Calm (config : HandlerConfig Claims) (s : SessionService Claims) : ServiceStep Claims → Prop
  | .call i call => s.handlers i = none → ∀ handler,
    call.begin config s.now s.db s.drawn = some handler →
      s.Open handler.session handler.pending ∧ s.Apart i handler.session handler.pending
  | .answer i answer => ∀ session goesOn asked,
    s.handlers i = some ⟨session, goesOn, .asking asked⟩ →
      s.Open session (asked.writes answer) ∧ s.Apart i session (asked.writes answer)
  | _ => True

theorem startStage_ordered {id : Uuid} {goesOn : Bool} (providerId : String) :
    Ordered (⟨id, goesOn, startStage providerId⟩ : SessionHandler Claims).pending := by
  unfold startStage
  split
  · exact ordered_of_short (by simp [SessionHandler.pending, status?])
  · exact List.Pairwise.nil

theorem step_settling {config : HandlerConfig Claims} (settling : Settling s)
    (input : ServiceStep Claims) (calm : Calm config s input) :
    Settling (s.step config input) := by
  have moves := s.step_moves config input
  generalize s.step config input = after at moves ⊢
  cases moves with
  | stays => exact settling
  | created i fresh providerId flowType free =>
    have created := settling.created fresh providerId flowType
    refine created.put (Nat.lt_succ_self s.drawn) (startStage_ordered providerId) ?_ ?_
    · -- no handler is about a session that was just drawn
      intro j other _ there same
      exact absurd same (Nat.ne_of_lt (settling.handlerDrawn j other there))
    · intro session found terminal
      have new := @IdpDatabase.getSession_createSessionWithFlow _ s.db
        (VerificationSession.new s.drawn fresh providerId flowType s.now) s.drawn
      obtain rfl := Option.some.inj ((new.trans (if_pos rfl)).symm.trans found)
      exact terminal.elim
  | called i call handler free begins =>
    obtain ⟨opening, named⟩ := begin_opens begins
    obtain ⟨settled, apart⟩ := calm free handler begins
    refine settling.put ?_ (opening_ordered opening) apart settled
    rcases named with stored | ⟨drawn, _⟩
    · obtain ⟨session, found⟩ := Option.isSome_iff_exists.mp stored
      exact settling.sessionDrawn _ session found
    · exact drawn
  | answered i answer session goesOn asked here =>
    obtain ⟨settled, apart⟩ := calm session goesOn asked here
    exact settling.goesAhead (settling.handlerDrawn i _ here) (asked_ordered asked answer) apart
      settled
  | written i handler write rest db here pending applied =>
    exact settling.written here pending applied
  | skipped i handler write rest here pending => exact settling.shrunk here pending
  | ended input i => exact settling.ended
  | ticked seconds =>
    exact ⟨settling.sessionDrawn, settling.handlerDrawn, settling.ordered, settling.apart,
      settling.settled⟩
  | cleaned =>
    have before {id : Uuid} {session : VerificationSession}
        (found : (s.db.cleanupExpired s.now).getSession id = some session) :
        s.db.getSession id = some session := by
      rw [IdpDatabase.getSession_cleanupExpired, Option.filter_eq_some_iff] at found
      exact found.1
    refine settling.withDb (fun id session found => ?_) fun j handler here session found => ?_
    · rw [before found]
      rfl
    · exact settling.settled j handler here session (before found)

/-! ## Runs -/

/-- Whatever the step, a terminal status stays while the session does. -/
theorem Settling.stable {config : HandlerConfig Claims} (settling : Settling s)
    (input : ServiceStep Claims) {id : Uuid} {after : VerificationSession} (old : id < s.drawn)
    (found : (s.step config input).db.getSession id = some after) :
    ∃ before, s.db.getSession id = some before ∧
      (before.status.IsTerminal → after.status = before.status) := by
  have moves := s.step_moves config input
  generalize s.step config input = next at moves found
  cases moves with
  | stays | called | answered | skipped | ended | ticked => exact ⟨after, found, fun _ => rfl⟩
  | created i fresh providerId flowType free =>
    refine ⟨after, ?_, fun _ => rfl⟩
    have stored := @IdpDatabase.getSession_createSessionWithFlow _ s.db
      (VerificationSession.new s.drawn fresh providerId flowType s.now) id
    exact ((stored.trans (if_neg (Nat.ne_of_lt old))).symm.trans found)
  | written i handler write rest db here pending applied =>
    rcases SessionWrite.apply_cases applied with
      ⟨claims, rfl, rfl⟩ | ⟨before, changed, stored, replaces, keeps, status⟩
    · exact ⟨after, found, fun _ => rfl⟩
    · have there := (replaces.getSession id).symm.trans found
      by_cases same : id = handler.session
      · rw [if_pos same] at there
        obtain rfl := Option.some.inj there
        refine ⟨before, same ▸ stored, fun terminal => ?_⟩
        have settled := settling.settled i handler here before stored terminal
        rw [status, statusAfter_eq]
        cases sets : write.status? with
        | some set => exact settled set (pending ▸ mem_statuses_head sets)
        | none => rfl
      · rw [if_neg same] at there
        exact ⟨after, there, fun _ => rfl⟩
  | cleaned =>
    rw [IdpDatabase.getSession_cleanupExpired, Option.filter_eq_some_iff] at found
    exact ⟨after, found.1, fun _ => rfl⟩

theorem drawn_grows {config : HandlerConfig Claims} (s : SessionService Claims)
    (input : ServiceStep Claims) : s.drawn ≤ (s.step config input).drawn := by
  have moves := s.step_moves config input
  generalize s.step config input = next at moves ⊢
  cases moves with
  | created => exact Nat.le_succ s.drawn
  | stays | called | answered | written | skipped | ended | ticked | cleaned => exact le_rfl

theorem drawn_le_run (config : HandlerConfig Claims) (past later : List (ServiceStep Claims)) :
    (run config past).drawn ≤ (run config (past ++ later)).drawn := by
  unfold run
  rw [Runs.run_append]
  exact Runs.run_invariant (fun s : SessionService Claims => (run config past).drawn ≤ s.drawn)
    le_rfl (fun s input grown => grown.trans (drawn_grows s input)) later

/-- Once a session of the run has a terminal status, it has that status as long as it is there. -/
def TerminalStatusesStable (config : HandlerConfig Claims) (steps : List (ServiceStep Claims)) :
    Prop :=
  ∀ past later, past ++ later <+: steps → ∀ id before after,
    (run config past).db.getSession id = some before → before.status.IsTerminal →
      (run config (past ++ later)).db.getSession id = some after → after.status = before.status

/-- Terminal statuses are stable in every run in which the handlers decide on their writes
    calmly. -/
theorem terminal_statuses_stable (config : HandlerConfig Claims)
    (steps : List (ServiceStep Claims))
    (calm : ∀ past next, past ++ [next] <+: steps → Calm config (run config past) next) :
    TerminalStatusesStable config steps := by
  have settling : ∀ past, past <+: steps → Settling (run config past) := by
    refine Runs.reached_induction start_settling fun past next reached before => ?_
    rw [run, Runs.run_concat]
    exact step_settling before next (calm past next reached)
  intro past later
  induction later using List.reverseRecOn with
  | nil =>
    intro reached id before after found terminal found'
    rw [List.append_nil, found] at found'
    rw [Option.some.inj found']
  | append_singleton later next ih =>
    intro reached id before after found terminal found'
    rw [← List.append_assoc] at reached found'
    have earlier := (List.prefix_append (past ++ later) [next]).trans reached
    have here := settling past ((List.prefix_append past later).trans earlier)
    have old : id < (run config (past ++ later)).drawn :=
      (here.sessionDrawn id before found).trans_le (drawn_le_run config past later)
    rw [run, Runs.run_concat] at found'
    obtain ⟨middle, there, stable⟩ := (settling _ earlier).stable next old found'
    have same := ih earlier id before middle found terminal there
    rw [stable (same ▸ terminal), same]

/-! ### Samples -/

def sampleHandlerConfig : HandlerConfig Unit := ⟨⟨2, 90⟩, fun _ => true, (), ()⟩

/-- A session of a mock provider, verified by `auto_verify`. -/
def autoVerified : List (ServiceStep Unit) :=
  [.createSession 0 "" "mock-digid" .formBased, .write 0, .call 1 (.autoVerify 0), .write 1,
    .write 1]

theorem terminal_statuses_stable_at_sample :
    TerminalStatusesStable sampleHandlerConfig autoVerified := by
  refine terminal_statuses_stable sampleHandlerConfig autoVerified (Runs.forall_reached ?_)
  intro n bound
  match n, bound with
  | 0, _ => trivial
  | 1, _ => trivial
  | 2, _ =>
    intro _ handler begins
    obtain rfl := Option.some.inj begins
    refine ⟨fun session found terminal => ?_, fun j other different there => ?_⟩
    · obtain rfl := Option.some.inj found
      exact terminal.elim
    · -- the handler that created the session has ended
      have idle : (run sampleHandlerConfig (autoVerified.take 2)).handlers =
          Function.update (Function.update (fun _ => none) 0
            (some ⟨0, false, startStage "mock-digid"⟩)) 0 none := rfl
      rw [idle, Function.update_idem, Function.update_apply] at there
      split at there <;> cases there
  | 3, _ => trivial
  | 4, _ => trivial

/-- Two submissions of a form that both found the session pending. -/
def racingSubmissions : List (ServiceStep Unit) :=
  [.createSession 0 "" "mock-digid" .formBased, .write 0, .call 1 (.submitIdentity 0 (some ())),
    .call 2 (.submitIdentity 0 (some ())), .write 1, .write 1, .write 1]

/-- The second submission takes the verified session back to `Verifying`. -/
theorem racing_submissions_unverify :
    ¬ TerminalStatusesStable sampleHandlerConfig (racingSubmissions ++ [.write 2]) := by
  intro stable
  have status := stable racingSubmissions [.write 2] List.prefix_rfl 0
    ⟨0, "mock-digid", .formBased, .verified, .completed, 1800, false⟩
    ⟨0, "mock-digid", .formBased, .verifying, .completed, 1800, false⟩ rfl trivial rfl
  cases status

end SessionService

end OwlId.Issuer
