import Mathlib
import OwlId.Lib.Runs
import OwlId.Sidecar.DustErrors

/-! # Relay jobs and their status streams

A holder posts a proven transaction, gets a job id and follows the job over
`/job/:jobId/events`.  The handler copies the job record, waits until the copy's phase
is written, and only then subscribes to the bus; the driver of the job publishes each
phase once.  A last phase published while the first write is still under way reaches
nobody, and the handler waits for it for ever.  And its listener does not wait for what
it writes: after a failed phase the handler returns, which closes the stream, and the
frame is lost unless the stream has taken it before.

`relay_stream_ends_iff` is the exact condition: no last phase is published between the
copy and the subscription, a submission that ends while the handler listens comes with
a transaction id that is not empty, and no handler returns over an unsent frame.
-/

namespace OwlId.Sidecar

open OwlId.Lib

/-! ## Jobs -/

inductive RelayPhase where
  | queued
  | balancing
  | submitting
  | submitted
  | balanceFailed
  | submitFailed
deriving DecidableEq

namespace RelayPhase

def text : RelayPhase → String
  | .queued => "queued"
  | .balancing => "balancing"
  | .submitting => "submitting"
  | .submitted => "submitted"
  | .balanceFailed => "balance-failed"
  | .submitFailed => "submit-failed"

/-- `TERMINAL_JOB`. -/
def terminalJob : RelayPhase → Bool
  | .balanceFailed | .submitFailed => true
  | _ => false

/-- The driver publishes nothing after one of these. -/
def isLast : RelayPhase → Bool
  | .submitted | .balanceFailed | .submitFailed => true
  | _ => false

end RelayPhase

structure RelayJob where
  jobId : String
  phase : RelayPhase
  /-- Set once `submitTx` has returned. -/
  chainTxId : Option String
  error : Option String
deriving DecidableEq

namespace RelayJob

def queued (jobId : String) : RelayJob := ⟨jobId, .queued, none, none⟩

/-- The `catch` of the driver. -/
def fail (job : RelayJob) (message : String) : RelayJob :=
  { job with
    error := some message
    phase := if isDustShortfallError message || job.phase == .balancing then .balanceFailed
      else .submitFailed }

def submit (job : RelayJob) (chainTxId : String) : RelayJob :=
  { job with chainTxId := some chainTxId, phase := .submitted }

theorem fail_terminal (job : RelayJob) (message : String) :
    (job.fail message).phase.terminalJob = true := by
  simp only [fail]
  split <;> rfl

end RelayJob

theorem RelayPhase.isLast_of_terminal {phase : RelayPhase} (terminal : phase.terminalJob = true) :
    phase.isLast = true := by
  cases phase <;> first | rfl | cases terminal

/-! ## The handler -/

structure StatusFrame where
  txId : String
  status : String
  error : Option String
deriving DecidableEq

inductive Handler where
  | unopened
  /-- The copy of the job, while its phase is written. -/
  | writing (job : RelayJob)
  /-- Subscribed, with nothing else to wake it. -/
  | waiting (jobId : String)
  /-- Its listener has heard a failed phase, and it is about to return. -/
  | returning
  | chainWait (txId : String)
  /-- The handler has returned, which closes the stream. -/
  | ended
  /-- The client went away while the handler was subscribed. -/
  | abandoned
deriving DecidableEq

/-- What the indexer reports of a transaction. -/
inductive TxStatus where
  | succeedEntirely
  | failEntirely
  | failFallible
deriving DecidableEq

def TxStatus.text : TxStatus → String
  | .succeedEntirely => "SucceedEntirely"
  | .failEntirely => "FailEntirely"
  | .failFallible => "FailFallible"

/-- The statuses a client stops at: `TERMINAL_JOB`, `TERMINAL_CHAIN` and `unknown`. -/
def terminalStatuses : List String :=
  ["balance-failed", "submit-failed", "SucceedEntirely", "FailEntirely", "FailFallible", "unknown"]

theorem terminalJob_text {phase : RelayPhase} :
    phase.text ∈ terminalStatuses ↔ phase.terminalJob = true := by
  cases phase <;> decide

theorem txStatus_text (status : Option TxStatus) :
    (status.elim "unknown" TxStatus.text) ∈ terminalStatuses := by
  cases status with
  | none => decide
  | some status => cases status <;> decide

structure Relay where
  /-- The job objects, which the drivers hold. -/
  jobs : String → Option RelayJob
  /-- Whether `relayJobs` has the job; the record is dropped some time after the job is over. -/
  recorded : String → Bool
  /-- The id of the request. -/
  requested : String
  handler : Handler
  /-- What the stream has taken, in order. -/
  frames : List StatusFrame
  /-- What the listener has written since, without waiting for the stream. -/
  unsent : List StatusFrame

inductive RelayStep where
  /-- `/relay` accepts a transaction; its bytes are read at once. -/
  | relay (jobId : String) (deserialized : Except String Unit)
  /-- The batcher settles the submission of a job. -/
  | settle (jobId : String) (outcome : Except String String)
  /-- The timer of a job that is over drops its record. -/
  | expire (jobId : String)
  /-- A client opens the stream of a job; `getClient` throws while the sidecar reconnects. -/
  | openStream (jobId : String) (client : Except String Unit)
  /-- The first status has been written. -/
  | written
  /-- The stream takes what the listener has written. -/
  | flush
  /-- The handler of a failed job returns. -/
  | resume
  | chainDone (answer : Except String (Option TxStatus))
  /-- The client closes the stream. -/
  | abort

/-- What the handler does next, once the phase of its copy is written. -/
def Handler.afterWrite (copy : RelayJob) : Handler :=
  if copy.phase.terminalJob then .ended
  else
    match copy.chainTxId with
    | none => .waiting copy.jobId
    | some txId => .chainWait txId

/-- What its listener does with a phase of its job; an empty transaction id counts as none. -/
def Handler.afterEvent (job : RelayJob) : Handler :=
  if job.phase.terminalJob then .returning
  else
    match job.phase, job.chainTxId with
    | .submitted, some txId => if txId = "" then .waiting job.jobId else .chainWait txId
    | _, _ => .waiting job.jobId

namespace Relay

def start : Relay := ⟨fun _ => none, fun _ => false, "", .unopened, [], []⟩

/-- `await writeStatus`: the frame goes out after those that were written before it. -/
def write (st : Relay) (txId status : String) (error : Option String) : Relay :=
  { st with frames := st.frames ++ st.unsent ++ [⟨txId, status, error⟩], unsent := [] }

/-- The bus calls the listener of the handler, which looks at the job id first.  It writes with
    `void writeStatus`. -/
def publish (st : Relay) (job : RelayJob) : Relay :=
  if st.handler = .waiting job.jobId then
    { st with
      unsent := st.unsent ++ [⟨job.jobId, job.phase.text, job.error⟩]
      handler := .afterEvent job }
  else st

/-- The driver updates its job and publishes the phase, with nothing in between. -/
def advance (st : Relay) (job : RelayJob) : Relay :=
  { st with jobs := Function.update st.jobs job.jobId (some job) }.publish job

/-- `relayProvenTx`, up to the first thing its driver waits for.  Job ids are fresh. -/
def relayProvenTx (st : Relay) (jobId : String) (deserialized : Except String Unit) : Relay :=
  if (st.jobs jobId).isSome then st
  else
    let job := RelayJob.queued jobId
    let recorded := { st with
      jobs := Function.update st.jobs jobId (some job)
      recorded := Function.update st.recorded jobId true }
    match deserialized with
    | .ok () => recorded.advance { job with phase := .submitting }
    | .error message => recorded.advance (job.fail message)

/-- The rest of `runRelayJob`, after the submission. -/
def settle (st : Relay) (jobId : String) (outcome : Except String String) : Relay :=
  match st.jobs jobId with
  | none => st
  | some job =>
    if job.phase = .submitting then
      match outcome with
      | .ok txId => st.advance (job.submit txId)
      | .error message => st.advance (job.fail message)
    else st

def expire (st : Relay) (jobId : String) : Relay :=
  match st.jobs jobId with
  | none => st
  | some job =>
    if job.phase.isLast then { st with recorded := Function.update st.recorded jobId false }
    else st

def getRelayJob (st : Relay) (jobId : String) : Option RelayJob :=
  if st.recorded jobId then st.jobs jobId else none

/-- The handler up to its first wait.  An id that is not on record is taken for a transaction. -/
def openStream (st : Relay) (jobId : String) (client : Except String Unit) : Relay :=
  if st.handler = .unopened ∧ jobId ≠ "" then
    let st := { st with requested := jobId }
    match client with
    | .error message => { st.write jobId "unknown" (some message) with handler := .ended }
    | .ok () =>
      match st.getRelayJob jobId with
      | none => { st with handler := .chainWait jobId }
      | some job =>
        { st.write job.jobId job.phase.text job.error with handler := .writing job }
  else st

def written (st : Relay) : Relay :=
  match st.handler with
  | .writing copy => { st with handler := .afterWrite copy }
  | _ => st

def flush (st : Relay) : Relay :=
  { st with frames := st.frames ++ st.unsent, unsent := [] }

/-- The stream is closed, and what it has not taken is lost. -/
def resume (st : Relay) : Relay :=
  match st.handler with
  | .returning => { st with handler := .ended, unsent := [] }
  | _ => st

/-- The last status; the handler returns after it. -/
def chainDone (st : Relay) (answer : Except String (Option TxStatus)) : Relay :=
  match st.handler with
  | .chainWait txId =>
    match answer with
    | .ok status =>
      { st.write txId (status.elim "unknown" TxStatus.text) none with handler := .ended }
    | .error message =>
      { st.write st.requested "unknown" (some message) with handler := .ended }
  | _ => st

/-- `onAbort` unsubscribes; a handler that has not subscribed yet goes on. -/
def abort (st : Relay) : Relay :=
  match st.handler with
  | .waiting _ => { st with handler := .abandoned }
  | _ => st

def step (st : Relay) : RelayStep → Relay
  | .relay jobId deserialized => st.relayProvenTx jobId deserialized
  | .settle jobId outcome => st.settle jobId outcome
  | .expire jobId => st.expire jobId
  | .openStream jobId client => st.openStream jobId client
  | .written => st.written
  | .flush => st.flush
  | .resume => st.resume
  | .chainDone answer => st.chainDone answer
  | .abort => st.abort

end Relay

/-! ## What a step leaves in place -/

/-- The shapes of a stored job: `queued` is overwritten before anyone can look. -/
def RelayJob.Begun (job : RelayJob) : Prop :=
  (job.phase = .submitting ∧ job.chainTxId = none) ∨
    (job.phase = .submitted ∧ job.chainTxId.isSome = true) ∨ job.phase.terminalJob = true

theorem RelayJob.Begun.isLast {job : RelayJob} (begun : job.Begun)
    (settled : job.phase ≠ .submitting) : job.phase.isLast = true := by
  rcases begun with ⟨submitting, _⟩ | ⟨submitted, _⟩ | terminal
  · exact absurd submitting settled
  · rw [submitted]
    rfl
  · exact RelayPhase.isLast_of_terminal terminal

def EndsTerminal (frames : List StatusFrame) : Prop :=
  ∃ frame, frames.getLast? = some frame ∧ frame.status ∈ terminalStatuses

theorem endsTerminal_concat {frames : List StatusFrame} {frame : StatusFrame}
    (terminal : frame.status ∈ terminalStatuses) : EndsTerminal (frames ++ [frame]) :=
  ⟨frame, by simp, terminal⟩

/-- None of the frames makes a client stop. -/
def Quiet (frames : List StatusFrame) : Prop :=
  ∀ frame ∈ frames, frame.status ∉ terminalStatuses

theorem Quiet.concat {frames : List StatusFrame} (quiet : Quiet frames) {frame : StatusFrame}
    (goesOn : frame.status ∉ terminalStatuses) : Quiet (frames ++ [frame]) := by
  intro other member
  rcases List.mem_append.mp member with early | last
  · exact quiet other early
  · rw [List.mem_singleton.mp last]
    exact goesOn

/-- Of frames that end with the only terminal one, a beginning ends with it if it is all of them. -/
theorem endsTerminal_iff_of_last {sent unsent early : List StatusFrame} {last : StatusFrame}
    (all : sent ++ unsent = early ++ [last]) (quiet : Quiet early)
    (terminal : last.status ∈ terminalStatuses) : EndsTerminal sent ↔ unsent = [] := by
  constructor
  · rintro ⟨frame, isLast, stops⟩
    rcases List.eq_nil_or_concat unsent with empty | ⟨rest, lost, rfl⟩
    · exact empty
    · rw [List.concat_eq_append, ← List.append_assoc] at all
      have before := (List.append_inj' all rfl).1
      have member : frame ∈ early := by
        rw [← before]
        exact List.mem_append_left rest (List.mem_of_getLast? isLast)
      exact absurd stops (quiet frame member)
  · rintro rfl
    rw [List.append_nil] at all
    rw [all]
    exact endsTerminal_concat terminal

namespace Relay

/-- The requested job is over. -/
def Over (st : Relay) : Prop :=
  ∃ job, st.jobs st.requested = some job ∧ job.phase.isLast = true

/-- What the stream holds where the handler stands. -/
def Fits (st : Relay) : Prop :=
  match st.handler with
  | .unopened => st.frames = [] ∧ st.unsent = []
  | .writing copy => copy.jobId = st.requested ∧ (st.jobs copy.jobId).isSome = true ∧
      st.frames = [⟨copy.jobId, copy.phase.text, copy.error⟩] ∧ st.unsent = []
  | .waiting jobId => jobId = st.requested ∧ (st.jobs jobId).isSome = true ∧
      Quiet (st.frames ++ st.unsent)
  | .returning => st.Over ∧ ∃ early last, st.frames ++ st.unsent = early ++ [last] ∧
      Quiet early ∧ last.status ∈ terminalStatuses
  | .ended => st.unsent = [] ∧ (EndsTerminal st.frames ∨ st.Over)
  | .chainWait _ | .abandoned => True

/-- A handler that waits for the bus has something to wait for, and one that has returned has told
    its client. -/
def Serving (st : Relay) : Prop :=
  match st.handler with
  | .waiting jobId => ∀ job, st.jobs jobId = some job → job.phase.isLast = false
  | .ended => EndsTerminal st.frames
  | _ => True

end Relay

structure WellFormed (st : Relay) : Prop where
  jobs : ∀ jobId job, st.jobs jobId = some job → job.jobId = jobId ∧ job.Begun
  fits : st.Fits

theorem WellFormed.writing {st : Relay} {copy : RelayJob} (wf : WellFormed st)
    (writes : st.handler = .writing copy) :
    copy.jobId = st.requested ∧ (st.jobs copy.jobId).isSome = true ∧
      st.frames = [⟨copy.jobId, copy.phase.text, copy.error⟩] ∧ st.unsent = [] := by
  have fits := wf.fits
  rwa [Relay.Fits, writes] at fits

theorem WellFormed.waiting {st : Relay} {jobId : String} (wf : WellFormed st)
    (waits : st.handler = .waiting jobId) :
    jobId = st.requested ∧ (st.jobs jobId).isSome = true ∧ Quiet (st.frames ++ st.unsent) := by
  have fits := wf.fits
  rwa [Relay.Fits, waits] at fits

section Advance

variable {st : Relay} {job : RelayJob}

/-- The update of a job, before its phase is published. -/
def Relay.record (st : Relay) (job : RelayJob) : Relay :=
  { st with jobs := Function.update st.jobs job.jobId (some job) }

theorem Relay.advance_eq : st.advance job = (st.record job).publish job := rfl

theorem record_isSome {jobId : String} (found : (st.jobs jobId).isSome = true) :
    ((st.record job).jobs jobId).isSome = true := by
  simp only [Relay.record]
  by_cases same : jobId = job.jobId
  · rw [same, Function.update_self]
    rfl
  · rwa [Function.update_of_ne same]

theorem record_over (finished : st.Over)
    (new : st.jobs job.jobId = none ∨ job.phase.isLast = true) : (st.record job).Over := by
  obtain ⟨stored, found, last⟩ := finished
  simp only [Relay.Over, Relay.record]
  by_cases same : st.requested = job.jobId
  · rw [same, Function.update_self]
    rw [same] at found
    -- the job exists already, so only a last phase can be published for it
    refine ⟨job, rfl, new.resolve_left ?_⟩
    rw [found]
    exact Option.some_ne_none stored
  · rw [Function.update_of_ne same]
    exact ⟨stored, found, last⟩

theorem record_wellFormed (wf : WellFormed st) (begun : job.Begun)
    (new : st.jobs job.jobId = none ∨ job.phase.isLast = true) : WellFormed (st.record job) := by
  constructor
  · intro jobId found stored
    simp only [Relay.record] at stored
    by_cases same : jobId = job.jobId
    · rw [same, Function.update_self] at stored
      cases stored
      exact ⟨same.symm, begun⟩
    · rw [Function.update_of_ne same] at stored
      exact wf.jobs jobId found stored
  · have fits := wf.fits
    have unchanged : (st.record job).handler = st.handler := rfl
    unfold Relay.Fits at fits ⊢
    rw [unchanged]
    cases handler : st.handler with
    | unopened =>
      simp only [handler] at fits
      exact fits
    | chainWait _ | abandoned => trivial
    | writing copy =>
      simp only [handler] at fits ⊢
      exact ⟨fits.1, record_isSome fits.2.1, fits.2.2⟩
    | waiting jobId =>
      simp only [handler] at fits ⊢
      exact ⟨fits.1, record_isSome fits.2.1, fits.2.2⟩
    | returning =>
      simp only [handler] at fits ⊢
      exact ⟨record_over fits.1 new, fits.2⟩
    | ended =>
      simp only [handler] at fits ⊢
      exact ⟨fits.1, fits.2.imp_right fun finished => record_over finished new⟩

theorem publish_other (deaf : st.handler ≠ .waiting job.jobId) : st.publish job = st := by
  rw [Relay.publish, if_neg deaf]

theorem publish_waiting (listens : st.handler = .waiting job.jobId) :
    st.publish job = { st with
      unsent := st.unsent ++ [⟨job.jobId, job.phase.text, job.error⟩]
      handler := .afterEvent job } := by
  rw [Relay.publish, if_pos listens]

/-- The listener goes on waiting, or has an answer. -/
theorem afterEvent_cases (job : RelayJob) :
    (Handler.afterEvent job = .returning ∧ job.phase.terminalJob = true) ∨
      job.phase.terminalJob = false ∧ (Handler.afterEvent job = .waiting job.jobId ∨
        ∃ txId, Handler.afterEvent job = .chainWait txId) := by
  unfold Handler.afterEvent
  cases terminal : job.phase.terminalJob with
  | true => exact .inl ⟨rfl, rfl⟩
  | false =>
    refine .inr ⟨rfl, ?_⟩
    simp only [Bool.false_eq_true, if_false]
    repeat' split
    all_goals simp

theorem publish_wellFormed (wf : WellFormed st) (stored : st.jobs job.jobId = some job) :
    WellFormed (st.publish job) := by
  by_cases listens : st.handler = .waiting job.jobId
  · rw [publish_waiting listens]
    refine ⟨wf.jobs, ?_⟩
    obtain ⟨requested, found, quiet⟩ := wf.waiting listens
    unfold Relay.Fits
    rcases afterEvent_cases job with ⟨returns, terminal⟩ | ⟨goesOn, waits | ⟨txId, waits⟩⟩
    · -- the frame of the failed phase is the first that is terminal, and not sent yet
      simp only [returns]
      refine ⟨⟨job, requested ▸ stored, RelayPhase.isLast_of_terminal terminal⟩, _, _,
        (List.append_assoc _ _ _).symm, quiet, terminalJob_text.mpr terminal⟩
    · simp only [waits]
      refine ⟨requested, found, ?_⟩
      rw [← List.append_assoc]
      exact quiet.concat (by simp [terminalJob_text, goesOn])
    · simp only [waits]
  · rwa [publish_other listens]

/-- The driver of a job leaves everything well formed. -/
theorem advance_wellFormed (wf : WellFormed st) (begun : job.Begun)
    (new : st.jobs job.jobId = none ∨ job.phase.isLast = true) : WellFormed (st.advance job) := by
  rw [Relay.advance_eq]
  exact publish_wellFormed (record_wellFormed wf begun new) (by simp [Relay.record])

end Advance

section Steps

variable {st : Relay}

/-- A new job is recorded and goes straight to its first published phase. -/
theorem relayProvenTx_cases (st : Relay) (jobId : String) (deserialized : Except String Unit) :
    st.relayProvenTx jobId deserialized = st ∨
      st.jobs jobId = none ∧ ∃ recorded job, job.jobId = jobId ∧ job.Begun ∧
        st.relayProvenTx jobId deserialized = { st with recorded }.advance job := by
  by_cases known : (st.jobs jobId).isSome = true
  · left
    rw [Relay.relayProvenTx, if_pos known]
  · right
    refine ⟨by simpa using known, ?_⟩
    rw [Relay.relayProvenTx, if_neg known]
    cases deserialized with
    | ok done =>
      refine ⟨Function.update st.recorded jobId true,
        { RelayJob.queued jobId with phase := .submitting }, rfl, .inl ⟨rfl, rfl⟩, ?_⟩
      simp only [Relay.advance, RelayJob.queued, Function.update_idem]
    | error message =>
      refine ⟨Function.update st.recorded jobId true, (RelayJob.queued jobId).fail message, rfl,
        .inr (.inr (RelayJob.fail_terminal _ _)), ?_⟩
      simp only [Relay.advance, RelayJob.fail, RelayJob.queued, Function.update_idem]

/-- The submission of a job settles once. -/
theorem settle_cases (st : Relay) (jobId : String) (outcome : Except String String) :
    (st.settle jobId outcome = st ∧
        ∀ job, st.jobs jobId = some job → job.phase ≠ .submitting) ∨
      ∃ job, st.jobs jobId = some job ∧ job.phase = .submitting ∧
        ((∃ txId, outcome = .ok txId ∧ st.settle jobId outcome = st.advance (job.submit txId)) ∨
          ∃ message, outcome = .error message ∧
            st.settle jobId outcome = st.advance (job.fail message)) := by
  cases found : st.jobs jobId with
  | none =>
    left
    refine ⟨by rw [Relay.settle, found], ?_⟩
    intro job isJob
    cases isJob
  | some job =>
    by_cases submitting : job.phase = .submitting
    · right
      refine ⟨job, rfl, submitting, ?_⟩
      cases outcome with
      | ok txId =>
        exact .inl ⟨txId, rfl, by simp only [Relay.settle, found, submitting, if_pos]⟩
      | error message =>
        exact .inr ⟨message, rfl, by simp only [Relay.settle, found, submitting, if_pos]⟩
    · left
      refine ⟨by simp only [Relay.settle, found, submitting, if_neg, not_false_eq_true], ?_⟩
      intro other isJob
      cases isJob
      exact submitting

theorem settle_wellFormed (wf : WellFormed st) (jobId : String) (outcome : Except String String) :
    WellFormed (st.settle jobId outcome) := by
  rcases settle_cases st jobId outcome with ⟨unchanged, _⟩ | ⟨job, _, _, outcomes⟩
  · rwa [unchanged]
  · rcases outcomes with ⟨txId, _, stepped⟩ | ⟨message, _, stepped⟩
    · rw [stepped]
      exact advance_wellFormed wf (.inr (.inl ⟨rfl, rfl⟩)) (.inr rfl)
    · rw [stepped]
      have terminal := job.fail_terminal message
      exact advance_wellFormed wf (.inr (.inr terminal))
        (.inr (RelayPhase.isLast_of_terminal terminal))

theorem expire_eq (st : Relay) (jobId : String) :
    ∃ recorded, st.expire jobId = { st with recorded } := by
  unfold Relay.expire
  repeat' split
  all_goals exact ⟨_, rfl⟩

theorem recorded_wellFormed (wf : WellFormed st) (recorded : String → Bool) :
    WellFormed { st with recorded } :=
  ⟨wf.jobs, wf.fits⟩

/-- What opening a stream does to a handler that has not been opened. -/
theorem openStream_cases (st : Relay) (jobId : String) (client : Except String Unit) :
    st.openStream jobId client = st ∨ st.handler = .unopened ∧
      ((∃ message, st.openStream jobId client =
          { { st with requested := jobId }.write jobId "unknown" (some message) with
            handler := .ended }) ∨
        st.openStream jobId client = { st with requested := jobId, handler := .chainWait jobId } ∨
        ∃ job, st.jobs jobId = some job ∧ st.openStream jobId client =
          { { st with requested := jobId }.write job.jobId job.phase.text job.error with
            handler := .writing job }) := by
  by_cases opens : st.handler = .unopened ∧ jobId ≠ ""
  · right
    refine ⟨opens.1, ?_⟩
    rw [Relay.openStream, if_pos opens]
    cases client with
    | error message => exact .inl ⟨message, rfl⟩
    | ok done =>
      right
      cases found : Relay.getRelayJob { st with requested := jobId } jobId with
      | none => exact .inl (by simp only [found])
      | some job =>
        refine .inr ⟨job, ?_, by simp only [found]⟩
        simp only [Relay.getRelayJob] at found
        split at found
        · exact found
        · cases found
  · left
    rw [Relay.openStream, if_neg opens]

theorem openStream_wellFormed (wf : WellFormed st) (jobId : String) (client : Except String Unit) :
    WellFormed (st.openStream jobId client) := by
  rcases openStream_cases st jobId client with unchanged | ⟨unopened, outcomes⟩
  · rwa [unchanged]
  · obtain ⟨noFrames, noneUnsent⟩ : st.frames = [] ∧ st.unsent = [] := by
      have fits := wf.fits
      rwa [Relay.Fits, unopened] at fits
    rcases outcomes with ⟨message, opened⟩ | opened | ⟨job, stored, opened⟩
    · rw [opened]
      exact ⟨wf.jobs, rfl, .inl (endsTerminal_concat (by simp [terminalStatuses]))⟩
    · rw [opened]
      exact ⟨wf.jobs, trivial⟩
    · rw [opened]
      obtain ⟨same, _⟩ := wf.jobs jobId job stored
      refine ⟨wf.jobs, same, ?_, ?_, rfl⟩
      · show (st.jobs job.jobId).isSome = true
        rw [same, stored]
        rfl
      · simp [Relay.write, noFrames, noneUnsent]

/-- Once the first status is written, the handler returns, waits for the bus or for the chain. -/
theorem written_cases (st : Relay) :
    ((∀ copy, st.handler ≠ .writing copy) ∧ st.written = st) ∨
      ∃ copy, st.handler = .writing copy ∧
        ((copy.phase.terminalJob = true ∧ st.written = { st with handler := .ended }) ∨
          copy.phase.terminalJob = false ∧
            ((copy.chainTxId = none ∧ st.written = { st with handler := .waiting copy.jobId }) ∨
              ∃ txId, copy.chainTxId = some txId ∧
                st.written = { st with handler := .chainWait txId })) := by
  cases handler : st.handler with
  | writing copy =>
    refine .inr ⟨copy, rfl, ?_⟩
    simp only [Relay.written, handler, Handler.afterWrite]
    cases copy.phase.terminalJob with
    | true => exact .inl ⟨rfl, rfl⟩
    | false =>
      refine .inr ⟨rfl, ?_⟩
      cases copy.chainTxId with
      | none => exact .inl ⟨rfl, rfl⟩
      | some txId => exact .inr ⟨txId, rfl, rfl⟩
  | unopened | waiting _ | returning | chainWait _ | ended | abandoned =>
    exact .inl ⟨fun copy => by simp, by simp only [Relay.written, handler]⟩

theorem written_wellFormed (wf : WellFormed st) : WellFormed st.written := by
  rcases written_cases st with ⟨_, unchanged⟩ | ⟨copy, writing, outcomes⟩
  · rwa [unchanged]
  · obtain ⟨requested, found, frames, noneUnsent⟩ := wf.writing writing
    rcases outcomes with ⟨terminal, stepped⟩ | ⟨goesOn, ⟨_, stepped⟩ | ⟨txId, _, stepped⟩⟩
    · rw [stepped]
      refine ⟨wf.jobs, noneUnsent, .inl ?_⟩
      show EndsTerminal st.frames
      rw [frames]
      exact @endsTerminal_concat [] _ (terminalJob_text.mpr terminal)
    · rw [stepped]
      refine ⟨wf.jobs, requested, found, ?_⟩
      show Quiet (st.frames ++ st.unsent)
      rw [frames, noneUnsent]
      simp [Quiet, terminalJob_text, goesOn]
    · rw [stepped]
      exact ⟨wf.jobs, trivial⟩

theorem flush_wellFormed (wf : WellFormed st) : WellFormed st.flush := by
  refine ⟨wf.jobs, ?_⟩
  have fits := wf.fits
  have unchanged : st.flush.handler = st.handler := rfl
  unfold Relay.Fits at fits ⊢
  rw [unchanged]
  cases handler : st.handler with
  | unopened =>
    simp only [handler] at fits
    simp [Relay.flush, fits]
  | chainWait _ | abandoned => trivial
  | writing copy =>
    simp only [handler] at fits ⊢
    obtain ⟨requested, found, frames, noneUnsent⟩ := fits
    exact ⟨requested, found, by simp [Relay.flush, frames, noneUnsent], rfl⟩
  | waiting jobId =>
    simp only [handler, Relay.flush, List.append_nil] at fits ⊢
    exact fits
  | returning =>
    simp only [handler, Relay.flush, List.append_nil] at fits ⊢
    exact fits
  | ended =>
    simp only [handler] at fits ⊢
    obtain ⟨noneUnsent, told⟩ := fits
    refine ⟨rfl, told.imp_left ?_⟩
    simp [Relay.flush, noneUnsent]

theorem resume_wellFormed (wf : WellFormed st) : WellFormed st.resume := by
  cases handler : st.handler with
  | returning =>
    have fits := wf.fits
    rw [Relay.Fits, handler] at fits
    simp only [Relay.resume, handler]
    exact ⟨wf.jobs, rfl, .inr fits.1⟩
  | unopened | writing _ | waiting _ | chainWait _ | ended | abandoned =>
    simpa only [Relay.resume, handler]

theorem chainDone_wellFormed (wf : WellFormed st) (answer : Except String (Option TxStatus)) :
    WellFormed (st.chainDone answer) := by
  cases handler : st.handler with
  | chainWait txId =>
    simp only [Relay.chainDone, handler]
    cases answer with
    | ok status => exact ⟨wf.jobs, rfl, .inl (endsTerminal_concat (txStatus_text status))⟩
    | error message =>
      exact ⟨wf.jobs, rfl, .inl (endsTerminal_concat (by simp [terminalStatuses]))⟩
  | unopened | writing _ | waiting _ | returning | ended | abandoned =>
    simpa only [Relay.chainDone, handler]

theorem abort_wellFormed (wf : WellFormed st) : WellFormed st.abort := by
  cases handler : st.handler with
  | waiting jobId =>
    simp only [Relay.abort, handler]
    exact ⟨wf.jobs, trivial⟩
  | unopened | writing _ | returning | chainWait _ | ended | abandoned =>
    simpa only [Relay.abort, handler]

theorem step_wellFormed (wf : WellFormed st) (s : RelayStep) : WellFormed (st.step s) := by
  cases s with
  | relay jobId deserialized =>
    rcases relayProvenTx_cases st jobId deserialized with
      unchanged | ⟨fresh, recorded, job, same, begun, new⟩
    · rwa [Relay.step, unchanged]
    · rw [Relay.step, new]
      exact advance_wellFormed (recorded_wellFormed wf recorded) begun (.inl (same ▸ fresh))
  | settle jobId outcome => exact settle_wellFormed wf jobId outcome
  | expire jobId =>
    obtain ⟨recorded, dropped⟩ := expire_eq st jobId
    rw [Relay.step, dropped]
    exact recorded_wellFormed wf recorded
  | openStream jobId client => exact openStream_wellFormed wf jobId client
  | written => exact written_wellFormed wf
  | flush => exact flush_wellFormed wf
  | resume => exact resume_wellFormed wf
  | chainDone answer => exact chainDone_wellFormed wf answer
  | abort => exact abort_wellFormed wf

end Steps

/-! ## When a step leaves the handler waiting for nothing -/

/-- The condition on a step, in the state before it. -/
def InTime (st : Relay) : RelayStep → Prop
  -- the handler is about to subscribe
  | .written => ∀ copy job, st.handler = .writing copy → copy.phase.terminalJob = false →
      copy.chainTxId = none → st.jobs copy.jobId = some job → job.phase.isLast = false
  -- the submission ends while it listens
  | .settle jobId (.ok txId) => st.handler = .waiting jobId → txId ≠ ""
  -- the handler of a failed job returns, which closes the stream
  | .resume => st.handler = .returning → st.unsent = []
  | _ => True

section Serving

variable {st : Relay}

theorem serving_waiting {jobId : String} (waits : st.handler = .waiting jobId) :
    st.Serving ↔ ∀ job, st.jobs jobId = some job → job.phase.isLast = false := by
  rw [Relay.Serving, waits]

theorem serving_ended (ended : st.handler = .ended) : st.Serving ↔ EndsTerminal st.frames := by
  rw [Relay.Serving, ended]

theorem serving_of_elsewhere (notWaiting : ∀ jobId, st.handler ≠ .waiting jobId)
    (notEnded : st.handler ≠ .ended) : st.Serving := by
  cases handler : st.handler with
  | waiting jobId => exact absurd handler (notWaiting jobId)
  | ended => exact absurd handler notEnded
  | unopened | writing _ | returning | chainWait _ | abandoned =>
    rw [Relay.Serving, handler]
    trivial

/-- A job that the handler does not listen to. -/
theorem advance_serving {job : RelayJob} (serving : st.Serving)
    (deaf : st.handler ≠ .waiting job.jobId) : (st.advance job).Serving := by
  rw [Relay.advance_eq, publish_other (by simpa [Relay.record] using deaf)]
  have unchanged : (st.record job).handler = st.handler := rfl
  unfold Relay.Serving at serving ⊢
  rw [unchanged]
  cases handler : st.handler with
  | waiting jobId =>
    simp only [handler] at serving ⊢
    intro found stored
    have other : jobId ≠ job.jobId := by
      rintro rfl
      exact deaf handler
    simp only [Relay.record, Function.update_of_ne other] at stored
    exact serving found stored
  | ended =>
    simp only [handler] at serving
    exact serving
  | unopened | writing _ | returning | chainWait _ | abandoned => trivial

theorem afterEvent_of_terminal {job : RelayJob} (terminal : job.phase.terminalJob = true) :
    Handler.afterEvent job = .returning := by
  rw [Handler.afterEvent, if_pos terminal]

theorem afterEvent_submit (job : RelayJob) (txId : String) :
    Handler.afterEvent (job.submit txId) =
      if txId = "" then .waiting job.jobId else .chainWait txId := by
  simp [Handler.afterEvent, RelayJob.submit, RelayPhase.terminalJob]

theorem settle_serving_iff (wf : WellFormed st) (serving : st.Serving) (jobId : String)
    (outcome : Except String String) :
    (st.settle jobId outcome).Serving ↔ InTime st (.settle jobId outcome) := by
  rcases settle_cases st jobId outcome with ⟨unchanged, settled⟩ | ⟨job, stored, _, outcomes⟩
  · -- a handler that listens to a settled job is not served
    rw [unchanged]
    refine iff_of_true serving ?_
    cases outcome with
    | error message => trivial
    | ok txId =>
      intro listens
      obtain ⟨job, stored⟩ := Option.isSome_iff_exists.mp (wf.waiting listens).2.1
      have last := (wf.jobs jobId job stored).2.isLast (settled job stored)
      rw [(serving_waiting listens).mp serving job stored] at last
      cases last
  · obtain ⟨same, _⟩ := wf.jobs jobId job stored
    by_cases listens : st.handler = .waiting jobId
    · rcases outcomes with ⟨txId, rfl, stepped⟩ | ⟨message, rfl, stepped⟩
      · -- the listener goes on to the chain, unless it takes the id for none
        have hears : (st.record (job.submit txId)).handler = .waiting (job.submit txId).jobId := by
          rw [Relay.record, listens, ← same]
          rfl
        rw [stepped, Relay.advance_eq, publish_waiting hears]
        simp only [InTime, listens, forall_const]
        by_cases empty : txId = ""
        · refine iff_of_false ?_ (not_not.mpr empty)
          rw [@serving_waiting _ job.jobId (by simp [afterEvent_submit, empty])]
          intro awake
          have last := awake (job.submit txId) (by simp [Relay.record, RelayJob.submit])
          cases last
        · refine iff_of_true (serving_of_elsewhere ?_ ?_) empty
          · simp [afterEvent_submit, empty]
          · simp [afterEvent_submit, empty]
      · -- a failure makes it return, which is served until it does
        have hears :
            (st.record (job.fail message)).handler = .waiting (job.fail message).jobId := by
          rw [Relay.record, listens, ← same]
          rfl
        rw [stepped, Relay.advance_eq, publish_waiting hears]
        have returns := afterEvent_of_terminal (job.fail_terminal message)
        refine iff_of_true (serving_of_elsewhere ?_ ?_) trivial
        · simp [returns]
        · simp [returns]
    · have deaf : st.handler ≠ .waiting job.jobId := same ▸ listens
      rcases outcomes with ⟨txId, rfl, stepped⟩ | ⟨message, rfl, stepped⟩
      · rw [stepped]
        exact iff_of_true (advance_serving serving deaf) fun here => absurd here listens
      · rw [stepped]
        exact iff_of_true (advance_serving serving deaf) trivial

theorem written_serving_iff (wf : WellFormed st) (serving : st.Serving) :
    st.written.Serving ↔ InTime st .written := by
  rcases written_cases st with ⟨elsewhere, unchanged⟩ | ⟨copy, writing, outcomes⟩
  · rw [unchanged]
    exact iff_of_true serving fun copy _ here => absurd here (elsewhere copy)
  · simp only [InTime, writing, Handler.writing.injEq]
    rcases outcomes with ⟨terminal, stepped⟩ | ⟨goesOn, ⟨unsent, stepped⟩ | ⟨txId, sent, stepped⟩⟩
    · obtain ⟨_, _, frames, _⟩ := wf.writing writing
      rw [stepped]
      refine iff_of_true ?_ ?_
      · show EndsTerminal st.frames
        rw [frames]
        exact @endsTerminal_concat [] _ (terminalJob_text.mpr terminal)
      · rintro _ _ rfl goesOn
        rw [terminal] at goesOn
        cases goesOn
    · rw [stepped]
      constructor
      · rintro awake _ job rfl _ _ stored
        exact awake job stored
      · exact fun inTime job stored => inTime copy job rfl goesOn unsent stored
    · rw [stepped]
      refine iff_of_true trivial ?_
      rintro _ _ rfl _ unsent
      rw [sent] at unsent
      cases unsent

theorem flush_serving (wf : WellFormed st) (serving : st.Serving) : st.flush.Serving := by
  have unchanged : st.flush.handler = st.handler := rfl
  have fits := wf.fits
  unfold Relay.Serving at serving ⊢
  unfold Relay.Fits at fits
  rw [unchanged]
  cases handler : st.handler with
  | waiting jobId =>
    simp only [handler] at serving
    exact serving
  | ended =>
    simp only [handler] at serving fits
    simpa [Relay.flush, fits.1] using serving
  | unopened | writing _ | returning | chainWait _ | abandoned => trivial

/-- The handler of a failed job returns before or after the stream has taken its last frame. -/
theorem resume_serving_iff (wf : WellFormed st) (serving : st.Serving) :
    st.resume.Serving ↔ InTime st .resume := by
  cases handler : st.handler with
  | returning =>
    have fits := wf.fits
    rw [Relay.Fits, handler] at fits
    obtain ⟨_, early, last, all, quiet, terminal⟩ := fits
    simp only [Relay.resume, InTime, handler, forall_const]
    exact endsTerminal_iff_of_last all quiet terminal
  | unopened | writing _ | waiting _ | chainWait _ | ended | abandoned =>
    simp only [Relay.resume, InTime, handler]
    exact iff_of_true serving (by simp)

/-- A handler that is served stays so, if and only if the step is in time. -/
theorem step_serving_iff (wf : WellFormed st) (serving : st.Serving) (s : RelayStep) :
    (st.step s).Serving ↔ InTime st s := by
  cases s with
  | relay jobId deserialized =>
    refine iff_of_true ?_ trivial
    rcases relayProvenTx_cases st jobId deserialized with
      unchanged | ⟨fresh, recorded, job, same, _, new⟩
    · rwa [Relay.step, unchanged]
    · rw [Relay.step, new]
      apply advance_serving
      · exact serving
      · -- nobody can listen to a job that did not exist
        intro listens
        have known := (wf.waiting listens).2.1
        rw [same, fresh] at known
        cases known
  | settle jobId outcome => exact settle_serving_iff wf serving jobId outcome
  | expire jobId =>
    obtain ⟨recorded, dropped⟩ := expire_eq st jobId
    rw [Relay.step, dropped]
    exact iff_of_true serving trivial
  | openStream jobId client =>
    refine iff_of_true ?_ trivial
    rw [Relay.step]
    rcases openStream_cases st jobId client with
      unchanged | ⟨_, ⟨message, opened⟩ | opened | ⟨job, _, opened⟩⟩
    · rwa [unchanged]
    · rw [opened]
      exact endsTerminal_concat (by simp [terminalStatuses])
    · rw [opened]
      trivial
    · rw [opened]
      trivial
  | written => exact written_serving_iff wf serving
  | flush => exact iff_of_true (flush_serving wf serving) trivial
  | resume => exact resume_serving_iff wf serving
  | chainDone answer =>
    refine iff_of_true ?_ trivial
    cases handler : st.handler with
    | chainWait txId =>
      simp only [Relay.step, Relay.chainDone, handler]
      cases answer with
      | ok status => exact endsTerminal_concat (txStatus_text status)
      | error message => exact endsTerminal_concat (by simp [terminalStatuses])
    | unopened | writing _ | waiting _ | returning | ended | abandoned =>
      simpa only [Relay.step, Relay.chainDone, handler]
  | abort =>
    refine iff_of_true ?_ trivial
    cases handler : st.handler with
    | waiting jobId =>
      simp only [Relay.step, Relay.abort, handler]
      trivial
    | unopened | writing _ | returning | chainWait _ | ended | abandoned =>
      simpa only [Relay.step, Relay.abort, handler]

end Serving

/-! ## Runs -/

def relayRun (steps : List RelayStep) : Relay := Runs.run Relay.step Relay.start steps

/-- The job has published its last phase, and the handler waits for the bus and has not had it. -/
def LostWakeUp (st : Relay) : Prop :=
  ∃ jobId job, st.handler = .waiting jobId ∧ st.jobs jobId = some job ∧ job.phase.isLast = true ∧
    ∀ frame ∈ st.frames ++ st.unsent, frame.txId = jobId → frame.status ≠ job.phase.text

/-- The stream is open, with nothing under way that the handler will go on after. -/
def Handler.idle : Handler → Bool
  | .waiting _ | .ended => true
  | _ => false

/-- Once the job is over and the handler idle, the stream has ended with a terminal status. -/
def Served (st : Relay) : Prop :=
  st.handler.idle = true → (∀ job, st.jobs st.requested = some job → job.phase.isLast = true) →
    st.handler = .ended ∧ EndsTerminal st.frames

theorem served_iff {st : Relay} (wf : WellFormed st) : Served st ↔ st.Serving := by
  cases handler : st.handler with
  | waiting jobId =>
    rw [serving_waiting handler]
    obtain ⟨requested, known, _⟩ := wf.waiting handler
    constructor
    · -- were the job over, the stream would have to be at its end, and it still waits
      intro served job stored
      by_contra last
      obtain ⟨ended, _⟩ := served (by rw [handler]; rfl) (by
        intro other isOther
        rw [← requested, stored] at isOther
        cases isOther
        simpa using last)
      rw [handler] at ended
      cases ended
    · intro awake _ settled
      obtain ⟨job, stored⟩ := Option.isSome_iff_exists.mp known
      have last := settled job (requested ▸ stored)
      rw [awake job stored] at last
      cases last
  | ended =>
    rw [serving_ended handler]
    have fits := wf.fits
    rw [Relay.Fits, handler] at fits
    constructor
    · -- a handler that returned without a last status did so because the job was over
      intro served
      rcases fits.2 with told | ⟨job, stored, last⟩
      · exact told
      · refine (served (by rw [handler]; rfl) ?_).2
        intro other isOther
        rw [stored] at isOther
        cases isOther
        exact last
    · exact fun told _ _ => ⟨handler, told⟩
  | unopened | writing _ | returning | chainWait _ | abandoned =>
    refine iff_of_true ?_ (serving_of_elsewhere (by simp [handler]) (by simp [handler]))
    intro idle
    rw [handler] at idle
    cases idle

theorem not_lostWakeUp {st : Relay} (serving : st.Serving) : ¬ LostWakeUp st := by
  rintro ⟨jobId, job, waits, stored, last, _⟩
  rw [(serving_waiting waits).mp serving job stored] at last
  cases last

/-- A stream that is neither unopened nor abandoned becomes idle. -/
theorem idle_after (st : Relay) (answer : Except String (Option TxStatus))
    (opened : st.handler ≠ .unopened) (kept : st.handler ≠ .abandoned) :
    (Runs.run Relay.step st [.written, .flush, .resume, .chainDone answer]).handler.idle =
      true := by
  show (st.written.flush.resume.chainDone answer).handler.idle = true
  cases handler : st.handler with
  | unopened => exact absurd handler opened
  | abandoned => exact absurd handler kept
  | writing copy =>
    rcases written_cases st with ⟨elsewhere, _⟩ | ⟨other, _, outcomes⟩
    · exact absurd handler (elsewhere copy)
    · rcases outcomes with ⟨_, stepped⟩ | ⟨_, ⟨_, stepped⟩ | ⟨txId, _, stepped⟩⟩
      · rw [stepped]
        rfl
      · rw [stepped]
        rfl
      · rw [stepped]
        cases answer <;> rfl
  | waiting _ | returning | ended =>
    simp [Relay.written, Relay.flush, Relay.resume, Relay.chainDone, handler, Handler.idle]
  | chainWait txId =>
    cases answer <;>
      simp [Relay.written, Relay.flush, Relay.resume, Relay.chainDone, handler, Handler.idle]

theorem start_wellFormed : WellFormed Relay.start where
  jobs _ _ stored := by cases stored
  fits := ⟨rfl, rfl⟩

theorem relayRun_wellFormed (steps : List RelayStep) : WellFormed (relayRun steps) :=
  Runs.run_invariant WellFormed start_wellFormed (fun _ s wf => step_wellFormed wf s) steps

/-- Along every run, no handler waits for a phase that has already been published and every stream
ends with a terminal status, if and only if no handler subscribes to a job that is over, no
submission ends under a listening handler with an empty transaction id, and no handler returns
before the stream has taken the failed phase it heard.  Each open stream has a way to its end. -/
theorem relay_stream_ends_iff (steps : List RelayStep) :
    ((∀ past, past <+: steps → ¬ LostWakeUp (relayRun past) ∧ Served (relayRun past)) ↔
      ∀ past next, past ++ [next] <+: steps → InTime (relayRun past) next) ∧
    ∀ answer, (relayRun steps).handler ≠ .unopened → (relayRun steps).handler ≠ .abandoned →
      (relayRun (steps ++ [.written, .flush, .resume, .chainDone answer])).handler.idle = true := by
  have stepped : ∀ past next, relayRun (past ++ [next]) = (relayRun past).step next :=
    fun past next => Runs.run_concat _ _ past next
  refine ⟨⟨fun served past next reached => ?_, fun inTime => ?_⟩, fun answer opened kept => ?_⟩
  · have wf := relayRun_wellFormed past
    have before := (served_iff wf).mp (served past ((List.prefix_append _ _).trans reached)).2
    have after := (served_iff (relayRun_wellFormed _)).mp (served _ reached).2
    rw [stepped] at after
    exact (step_serving_iff wf before next).mp after
  · have serving : ∀ past, past <+: steps → (relayRun past).Serving := by
      refine Runs.reached_induction trivial fun past next reached before => ?_
      rw [stepped]
      exact (step_serving_iff (relayRun_wellFormed past) before next).mpr
        (inTime past next reached)
    intro past reached
    have now := serving past reached
    exact ⟨not_lostWakeUp now, (served_iff (relayRun_wellFormed past)).mpr now⟩
  · rw [relayRun, Runs.run_append]
    exact idle_after (relayRun steps) answer opened kept

/-! ## A stream that never ends, and one that ends without a status -/

/-- The stream is opened while the job is submitting; the job is submitted before the first status
has gone out. -/
def sampleRelay : List RelayStep :=
  [.relay "job" (.ok ()), .openStream "job" (.ok ()), .settle "job" (.ok "tx"), .written]

/-- The submission fails while the handler listens, and the handler returns at once. -/
def sampleFailure : List RelayStep :=
  [.relay "job" (.ok ()), .openStream "job" (.ok ()), .written,
    .settle "job" (.error "no connection"), .resume]

theorem relay_streams_cut_short :
    LostWakeUp (relayRun sampleRelay) ∧ ¬ Served (relayRun sampleRelay) ∧
      ¬ Served (relayRun sampleFailure) := by
  refine ⟨⟨"job", ⟨"job", .submitted, some "tx", none⟩, by decide, by decide, by decide,
    by decide⟩, ?_, ?_⟩
  · intro served
    obtain ⟨ended, _⟩ := served (by decide) (by decide)
    exact absurd ended (by decide)
  · intro served
    obtain ⟨_, frame, isLast, terminal⟩ := served (by decide) (by decide)
    obtain rfl := Option.some.inj (isLast.symm.trans
      (show _ = some (⟨"job", "submitting", none⟩ : StatusFrame) by decide))
    exact absurd terminal (by decide)

end OwlId.Sidecar
