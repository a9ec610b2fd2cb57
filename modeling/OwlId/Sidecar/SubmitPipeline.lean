import Mathlib
import OwlId.Lib.Runs
import OwlId.Sidecar.DustErrors

/-! # The submit pipeline

A submit balances its transaction and reserves what the balance selected as one job
of the supervisor's serializer, broadcasts outside of it, and goes back into the
serializer to revert when the broadcast fails.  A dust shortfall is retried inside
the job, after a sweep of the stale reservations and a pause.

Any number of submits run at a time.  The state is the serializer and, for each
submit, where it stands and what it has called so far; a step is a new call, the
start of the serializer's next job, or the answer of something a submit waits for.
`submit_pipeline_safe` holds after every sequence of steps.
-/

namespace OwlId.Sidecar

open OwlId.Lib

/-! ## The serializer -/

/-- `writeChain`: a job starts when the one before it has settled. -/
structure Serializer (Job : Type) where
  running : Option Job
  waiting : List Job

namespace Serializer

variable {Job : Type}

def enqueue (s : Serializer Job) (job : Job) : Serializer Job :=
  { s with waiting := s.waiting ++ [job] }

/-- The next job, when none is running. -/
def start (s : Serializer Job) : Option (Job × Serializer Job) :=
  match s.running, s.waiting with
  | none, job :: rest => some (job, ⟨some job, rest⟩)
  | _, _ => none

/-- The running job has settled, in either way. -/
def release (s : Serializer Job) : Serializer Job := { s with running := none }

end Serializer

/-! ## One submit -/

/-- A thrown error is its message. -/
abbrev Outcome (α : Type) := Except String α

structure PipelineConfig where
  dustRetryWaitMs : Nat
  dustShortfallReapGraceMs : Option Nat
  /-- A number of the source, of which only the integers are meant. -/
  dustRetryAttempts : Option Int

def PipelineConfig.maxRetries (config : PipelineConfig) : Nat :=
  (max 0 (config.dustRetryAttempts.getD 1)).toNat

/-- What a submit calls, and what comes back. -/
inductive SubmitEvent (Tx Balanced Out : Type) where
  | ensureReady
  | ready (result : Outcome Unit)
  | balanceTx (tx : Tx)
  | balanced (result : Outcome Balanced)
  | reserve (balanced : Balanced)
  | reserveDone (result : Outcome Unit)
  | reapStalePending (graceMs : Option Nat)
  | reaped (result : Outcome Unit)
  | sleep (ms : Nat)
  | broadcast (balanced : Balanced)
  | broadcastDone (result : Outcome Out)
  | revert (balanced : Balanced)
  | reverted (result : Outcome Unit)

abbrev SubmitTrace (Tx Balanced Out : Type) := List (SubmitEvent Tx Balanced Out)

/-- Where a submit stands. -/
inductive SubmitPhase (Balanced Out : Type) where
  /-- Phase 1 waits in the serializer. -/
  | queued
  | ensuring
  | balancing (attempt : Nat)
  | reserving (attempt : Nat) (balanced : Balanced)
  | reaping (attempt : Nat)
  | sleeping (attempt : Nat)
  /-- The job has returned; the broadcast comes next. -/
  | reserved (balanced : Balanced)
  | broadcasting (balanced : Balanced)
  | revertQueued (balanced : Balanced) (error : String)
  | reverting (balanced : Balanced) (error : String)
  | settled (result : Outcome Out)

/-- What a submit waits for. -/
inductive Reply (Balanced Out : Type) where
  | ready (result : Outcome Unit)
  | balanced (result : Outcome Balanced)
  | reserved (result : Outcome Unit)
  | reaped (result : Outcome Unit)
  | woken
  | serialized
  | broadcast (result : Outcome Out)
  | reverted (result : Outcome Unit)

/-- What a step of a submit means to the serializer. -/
inductive SerializerUse where
  | keep
  | release
  | enqueueRevert

section

variable {Tx Balanced Out : Type}

structure SubmitMove (Tx Balanced Out : Type) where
  phase : SubmitPhase Balanced Out
  events : List (SubmitEvent Tx Balanced Out)
  use : SerializerUse

/-- The `catch` of the retry loop. -/
def balanceFailed (config : PipelineConfig) (attempt : Nat) (e : String)
    (event : SubmitEvent Tx Balanced Out) : SubmitMove Tx Balanced Out :=
  if !isDustShortfallError e || decide (config.maxRetries ≤ attempt) then
    ⟨.settled (.error e), [event], .release⟩
  else ⟨.reaping attempt, [event, .reapStalePending config.dustShortfallReapGraceMs], .keep⟩

/-- A submit goes on; `none` when it does not wait for this. -/
def resume (config : PipelineConfig) (tx : Tx) :
    SubmitPhase Balanced Out → Reply Balanced Out → Option (SubmitMove Tx Balanced Out)
  | .ensuring, .ready (.ok ()) => some ⟨.balancing 0, [.ready (.ok ()), .balanceTx tx], .keep⟩
  | .ensuring, .ready (.error e) => some ⟨.settled (.error e), [.ready (.error e)], .release⟩
  | .balancing attempt, .balanced (.ok balanced) =>
    some ⟨.reserving attempt balanced, [.balanced (.ok balanced), .reserve balanced], .keep⟩
  | .balancing attempt, .balanced (.error e) =>
    some (balanceFailed config attempt e (.balanced (.error e)))
  | .reserving _ balanced, .reserved (.ok ()) =>
    some ⟨.reserved balanced, [.reserveDone (.ok ())], .release⟩
  | .reserving attempt _, .reserved (.error e) =>
    some (balanceFailed config attempt e (.reserveDone (.error e)))
  | .reaping attempt, .reaped (.ok ()) =>
    some ⟨.sleeping attempt, [.reaped (.ok ()), .sleep config.dustRetryWaitMs], .keep⟩
  | .reaping _, .reaped (.error e) => some ⟨.settled (.error e), [.reaped (.error e)], .release⟩
  | .sleeping attempt, .woken => some ⟨.balancing (attempt + 1), [.balanceTx tx], .keep⟩
  | .reserved balanced, .serialized => some ⟨.broadcasting balanced, [.broadcast balanced], .keep⟩
  | .broadcasting _, .broadcast (.ok out) =>
    some ⟨.settled (.ok out), [.broadcastDone (.ok out)], .keep⟩
  | .broadcasting balanced, .broadcast (.error e) =>
    some ⟨.revertQueued balanced e, [.broadcastDone (.error e)], .enqueueRevert⟩
  -- a failed revert is swallowed, and the broadcast's error is thrown
  | .reverting _ e, .reverted result => some ⟨.settled (.error e), [.reverted result], .release⟩
  | _, _ => none

/-- The serializer starts the submit's job. -/
def beginJob :
    SubmitPhase Balanced Out → SubmitPhase Balanced Out × List (SubmitEvent Tx Balanced Out)
  | .queued => (.ensuring, [.ensureReady])
  | .revertQueued balanced e => (.reverting balanced e, [.revert balanced])
  | phase => (phase, [])

/-! ## All submits -/

/-- A serialized job; the supervisor's own are the reaper, the eviction of failed transactions
    and the dust registration. -/
inductive PipelineJob where
  | submit (id : Nat)
  | revert (id : Nat)
  | maintenance
deriving DecidableEq

structure Submit (Tx Balanced Out : Type) where
  tx : Tx
  phase : SubmitPhase Balanced Out
  /-- History. -/
  trace : List (SubmitEvent Tx Balanced Out)

structure Pipeline (Tx Balanced Out : Type) where
  serializer : Serializer PipelineJob
  /-- By the order of the calls. -/
  submits : List (Submit Tx Balanced Out)

inductive PipelineStep (Tx Balanced Out : Type) where
  | submit (tx : Tx)
  | maintain
  | start
  | maintained
  | resume (id : Nat) (reply : Reply Balanced Out)

namespace Pipeline

variable (config : PipelineConfig)

def empty : Pipeline Tx Balanced Out := ⟨⟨none, []⟩, []⟩

def advance (p : Pipeline Tx Balanced Out) (id : Nat) (phase : SubmitPhase Balanced Out)
    (events : List (SubmitEvent Tx Balanced Out)) : Pipeline Tx Balanced Out :=
  { p with submits := p.submits.modify id fun s => ⟨s.tx, phase, s.trace ++ events⟩ }

def useSerializer (p : Pipeline Tx Balanced Out) (id : Nat) :
    SerializerUse → Pipeline Tx Balanced Out
  | .keep => p
  | .release => { p with serializer := p.serializer.release }
  | .enqueueRevert => { p with serializer := p.serializer.enqueue (.revert id) }

/-- The job's submit begins; maintenance has none. -/
def startJob (p : Pipeline Tx Balanced Out) : PipelineJob → Pipeline Tx Balanced Out
  | .maintenance => p
  | .submit id | .revert id =>
    match p.submits[id]? with
    | none => p
    | some s =>
      let (phase, events) := beginJob s.phase
      p.advance id phase events

def step (p : Pipeline Tx Balanced Out) : PipelineStep Tx Balanced Out → Pipeline Tx Balanced Out
  | .submit tx =>
    { serializer := p.serializer.enqueue (.submit p.submits.length)
      submits := p.submits ++ [⟨tx, .queued, []⟩] }
  | .maintain => { p with serializer := p.serializer.enqueue .maintenance }
  | .start =>
    match p.serializer.start with
    | none => p
    | some (job, serializer) => { p with serializer := serializer }.startJob job
  | .maintained =>
    if p.serializer.running = some .maintenance then
      { p with serializer := p.serializer.release }
    else p
  | .resume id reply =>
    match p.submits[id]? with
    | none => p
    | some s =>
      match resume config s.tx s.phase reply with
      | none => p
      | some move => (p.advance id move.phase move.events).useSerializer id move.use

end Pipeline

def pipelineRun (config : PipelineConfig) (steps : List (PipelineStep Tx Balanced Out)) :
    Pipeline Tx Balanced Out :=
  Runs.run (Pipeline.step config) Pipeline.empty steps

/-! ## The serializer and the phases -/

/-- The job a submit runs. -/
def SubmitPhase.runs (id : Nat) : SubmitPhase Balanced Out → Option PipelineJob
  | .ensuring | .balancing _ | .reserving _ _ | .reaping _ | .sleeping _ => some (.submit id)
  | .reverting _ _ => some (.revert id)
  | _ => none

/-- The job a submit has waiting. -/
def SubmitPhase.awaits (id : Nat) : SubmitPhase Balanced Out → Option PipelineJob
  | .queued => some (.submit id)
  | .revertQueued _ _ => some (.revert id)
  | _ => none

/-- The submit of a job. -/
def PipelineJob.owner : PipelineJob → Option Nat
  | .submit id | .revert id => some id
  | .maintenance => none

theorem PipelineJob.ne_of_owner {job job' : PipelineJob} {id id' : Nat}
    (owned : job.owner = some id) (owned' : job'.owner = some id') (different : id ≠ id') :
    job ≠ job' := by
  rintro rfl
  exact different (Option.some.inj (owned.symm.trans owned'))

theorem PipelineJob.ne_maintenance {job : PipelineJob} {id : Nat} (owned : job.owner = some id) :
    PipelineJob.maintenance ≠ job := by
  rintro rfl
  cases owned

theorem SubmitPhase.owner_runs {id : Nat} {phase : SubmitPhase Balanced Out} {job : PipelineJob}
    (runs : phase.runs id = some job) : job.owner = some id := by
  cases phase <;> simp_all [SubmitPhase.runs, PipelineJob.owner] <;> simp [← runs]

theorem SubmitPhase.owner_awaits {id : Nat} {phase : SubmitPhase Balanced Out} {job : PipelineJob}
    (awaits : phase.awaits id = some job) : job.owner = some id := by
  cases phase <;> simp_all [SubmitPhase.awaits, PipelineJob.owner] <;> simp [← awaits]

/-- A job that runs or waits is one that its submit is in, once. -/
structure Serializer.Matches (s : Serializer PipelineJob) (runs awaits : Nat → Option PipelineJob) :
    Prop where
  running : ∀ id job, job.owner = some id → (s.running = some job ↔ runs id = some job)
  waiting : ∀ id job, job.owner = some id →
    s.waiting.count job = if awaits id = some job then 1 else 0

namespace Serializer

variable {s : Serializer PipelineJob} {runs awaits : Nat → Option PipelineJob}

/-- Other jobs do not matter. -/
theorem Matches.maintenance_enqueued (fits : s.Matches runs awaits) :
    (s.enqueue .maintenance).Matches runs awaits := by
  refine ⟨fits.running, fun id job owned => ?_⟩
  have different := PipelineJob.ne_maintenance owned
  rw [← fits.waiting id job owned, enqueue, List.count_append, List.count_singleton]
  simp [different]

theorem Matches.enqueued (fits : s.Matches runs awaits) {id : Nat} {job : PipelineJob}
    (owned : job.owner = some id) (idle : awaits id = none) :
    (s.enqueue job).Matches runs (Function.update awaits id (some job)) := by
  refine ⟨fits.running, fun other job' owned' => ?_⟩
  rw [enqueue, List.count_append, List.count_singleton, fits.waiting other job' owned']
  by_cases here : other = id
  · subst here
    simp [idle]
  · have different := PipelineJob.ne_of_owner owned owned' (Ne.symm here)
    simp [here, different]

theorem Matches.released (fits : s.Matches runs awaits) {id : Nat} {job : PipelineJob}
    (running : runs id = some job) (owned : job.owner = some id) :
    s.release.Matches (Function.update runs id none) awaits := by
  refine ⟨fun other job' owned' => ?_, fits.waiting⟩
  by_cases here : other = id
  · subst here
    simp [release]
  · have now := (fits.running id job owned).mpr running
    have other' := fits.running other job' owned'
    have different := PipelineJob.ne_of_owner owned owned' (Ne.symm here)
    rw [now, Option.some.injEq] at other'
    simp [release, here, ← other', different]

theorem Matches.maintenance_released (fits : s.Matches runs awaits)
    (running : s.running = some .maintenance) : s.release.Matches runs awaits := by
  refine ⟨fun id job owned => ?_, fits.waiting⟩
  have different := PipelineJob.ne_maintenance owned
  have now := fits.running id job owned
  rw [running, Option.some.injEq] at now
  simp [release, ← now, different]

theorem start_eq_some {job : PipelineJob} {s' : Serializer PipelineJob}
    (starts : s.start = some (job, s')) :
    s.running = none ∧ s.waiting = job :: s'.waiting ∧ s'.running = some job := by
  unfold start at starts
  split at starts
  · rename_i idle queue
    simp only [Option.some.injEq, Prod.mk.injEq] at starts
    obtain ⟨rfl, rfl⟩ := starts
    exact ⟨idle, queue, rfl⟩
  · cases starts

theorem Matches.awaits_of_start (fits : s.Matches runs awaits) {job : PipelineJob}
    {s' : Serializer PipelineJob} (starts : s.start = some (job, s')) {id : Nat}
    (owned : job.owner = some id) : awaits id = some job := by
  obtain ⟨_, queue, _⟩ := start_eq_some starts
  by_contra absent
  have count := fits.waiting id job owned
  rw [if_neg absent, queue, List.count_cons_self] at count
  omega

theorem Matches.started (fits : s.Matches runs awaits) {job : PipelineJob}
    {s' : Serializer PipelineJob} (starts : s.start = some (job, s')) {id : Nat}
    (owned : job.owner = some id) :
    s'.Matches (Function.update runs id (some job)) (Function.update awaits id none) := by
  obtain ⟨idle, queue, busy⟩ := start_eq_some starts
  have awaited := fits.awaits_of_start starts owned
  refine ⟨fun other job' owned' => ?_, fun other job' owned' => ?_⟩
  · have before := fits.running other job' owned'
    rw [idle] at before
    by_cases here : other = id
    · subst here
      simp [busy]
    · have different := PipelineJob.ne_of_owner owned owned' (Ne.symm here)
      simpa [busy, here, different] using before
  · have before := fits.waiting other job' owned'
    rw [queue, List.count_cons] at before
    by_cases here : other = id
    · subst here
      rw [awaited] at before
      by_cases same : job = job'
      · subst same
        simpa using before
      · simpa [same] using before
    · have different := PipelineJob.ne_of_owner owned owned' (Ne.symm here)
      simpa [here, different] using before

theorem Matches.maintenance_started (fits : s.Matches runs awaits)
    {s' : Serializer PipelineJob} (starts : s.start = some (.maintenance, s')) :
    s'.Matches runs awaits := by
  obtain ⟨idle, queue, busy⟩ := start_eq_some starts
  refine ⟨fun id job owned => ?_, fun id job owned => ?_⟩
  · have before := fits.running id job owned
    have different := PipelineJob.ne_maintenance owned
    rw [idle] at before
    simpa [busy, different] using before
  · have before := fits.waiting id job owned
    have different := PipelineJob.ne_maintenance owned
    rw [queue, List.count_cons] at before
    simpa [different] using before

end Serializer

/-! ## What a submit does -/

section

variable (config : PipelineConfig) (tx : Tx)

/-- A round of phase 1 that threw. -/
inductive FailedRound : String → List (SubmitEvent Tx Balanced Out) → Prop where
  | balance (e : String) : FailedRound e [.balanceTx tx, .balanced (.error e)]
  | reserve (e : String) (balanced : Balanced) :
    FailedRound e [.balanceTx tx, .balanced (.ok balanced), .reserve balanced,
      .reserveDone (.error e)]

/-- The sweep and the pause after a shortfall. -/
def retryEvents : List (SubmitEvent Tx Balanced Out) :=
  [.reapStalePending config.dustShortfallReapGraceMs, .reaped (.ok ()),
    .sleep config.dustRetryWaitMs]

/-- The rounds before an attempt: each ended in a dust shortfall with room for another. -/
inductive Rounds : Nat → List (SubmitEvent Tx Balanced Out) → Prop where
  | ready : Rounds 0 [.ensureReady, .ready (.ok ())]
  | retry {attempt : Nat} {before round : List (SubmitEvent Tx Balanced Out)} {e : String}
      (rounds : Rounds attempt before) (fails : FailedRound tx e round)
      (dust : isDustShortfallError e = true) (room : attempt < config.maxRetries) :
    Rounds (attempt + 1) (before ++ (round ++ retryEvents config))

def goodRound (balanced : Balanced) : List (SubmitEvent Tx Balanced Out) :=
  [.balanceTx tx, .balanced (.ok balanced), .reserve balanced, .reserveDone (.ok ())]

/-- The history of a submit, by where it stands. -/
inductive Traced : SubmitPhase Balanced Out → List (SubmitEvent Tx Balanced Out) → Prop where
  | queued : Traced .queued []
  | ensuring : Traced .ensuring [.ensureReady]
  | unready (e : String) : Traced (.settled (.error e)) [.ensureReady, .ready (.error e)]
  | balancing {attempt before} (rounds : Rounds config tx attempt before) :
    Traced (.balancing attempt) (before ++ ([.balanceTx tx] : SubmitTrace Tx Balanced Out))
  | reserving {attempt before} (rounds : Rounds config tx attempt before) (balanced : Balanced) :
    Traced (.reserving attempt balanced)
      (before ++ ([.balanceTx tx, .balanced (.ok balanced), .reserve balanced] :
        SubmitTrace Tx Balanced Out))
  | failed {attempt before round e} (rounds : Rounds config tx attempt before)
      (fails : FailedRound tx e round) :
    Traced (.settled (.error e)) (before ++ round)
  | reaping {attempt before round e} (rounds : Rounds config tx attempt before)
      (fails : FailedRound tx e round) (dust : isDustShortfallError e = true)
      (room : attempt < config.maxRetries) :
    Traced (.reaping attempt)
      (before ++ (round ++
        ([.reapStalePending config.dustShortfallReapGraceMs] : SubmitTrace Tx Balanced Out)))
  | unreaped {attempt before round e} (rounds : Rounds config tx attempt before)
      (fails : FailedRound tx e round) (e' : String) :
    Traced (.settled (.error e'))
      (before ++ (round ++ ([.reapStalePending config.dustShortfallReapGraceMs,
        .reaped (.error e')] : SubmitTrace Tx Balanced Out)))
  | sleeping {attempt before round e} (rounds : Rounds config tx attempt before)
      (fails : FailedRound tx e round) (dust : isDustShortfallError e = true)
      (room : attempt < config.maxRetries) :
    Traced (.sleeping attempt) (before ++ (round ++ retryEvents config))
  | reserved {attempt before} (rounds : Rounds config tx attempt before) (balanced : Balanced) :
    Traced (.reserved balanced) (before ++ goodRound tx balanced)
  | broadcasting {attempt before} (rounds : Rounds config tx attempt before)
      (balanced : Balanced) :
    Traced (.broadcasting balanced) (before ++ goodRound tx balanced ++
      ([.broadcast balanced] : SubmitTrace Tx Balanced Out))
  | sent {attempt before} (rounds : Rounds config tx attempt before) (balanced : Balanced)
      (out : Out) :
    Traced (.settled (.ok out))
      (before ++ goodRound tx balanced ++
        ([.broadcast balanced, .broadcastDone (.ok out)] : SubmitTrace Tx Balanced Out))
  | revertQueued {attempt before} (rounds : Rounds config tx attempt before)
      (balanced : Balanced) (e : String) :
    Traced (.revertQueued balanced e)
      (before ++ goodRound tx balanced ++
        ([.broadcast balanced, .broadcastDone (.error e)] : SubmitTrace Tx Balanced Out))
  | reverting {attempt before} (rounds : Rounds config tx attempt before) (balanced : Balanced)
      (e : String) :
    Traced (.reverting balanced e) (before ++ goodRound tx balanced ++
      ([.broadcast balanced, .broadcastDone (.error e), .revert balanced] :
        SubmitTrace Tx Balanced Out))
  | reverted {attempt before} (rounds : Rounds config tx attempt before) (balanced : Balanced)
      (e : String) (result : Outcome Unit) :
    Traced (.settled (.error e)) (before ++ goodRound tx balanced ++
      ([.broadcast balanced, .broadcastDone (.error e), .revert balanced, .reverted result] :
        SubmitTrace Tx Balanced Out))

end

variable {config : PipelineConfig} {tx : Tx}

theorem Traced.begun {phase phase' : SubmitPhase Balanced Out}
    {trace events : List (SubmitEvent Tx Balanced Out)} (traced : Traced config tx phase trace)
    (begins : beginJob phase = (phase', events)) : Traced config tx phase' (trace ++ events) := by
  unfold beginJob at begins
  split at begins
  · simp only [Prod.mk.injEq] at begins
    obtain ⟨rfl, rfl⟩ := begins
    cases traced
    exact .ensuring
  · simp only [Prod.mk.injEq] at begins
    obtain ⟨rfl, rfl⟩ := begins
    cases traced with
    | revertQueued rounds =>
      rw [List.append_assoc]
      exact .reverting rounds _ _
  · simp only [Prod.mk.injEq] at begins
    obtain ⟨rfl, rfl⟩ := begins
    rw [List.append_nil]
    exact traced

theorem traced_balanceFailed {attempt : Nat} {before round : List (SubmitEvent Tx Balanced Out)}
    {e : String} {event : SubmitEvent Tx Balanced Out} (rounds : Rounds config tx attempt before)
    (fails : FailedRound tx e (round ++ [event])) :
    Traced config tx (balanceFailed config attempt e event).phase
      (before ++ round ++ (balanceFailed config attempt e event).events) := by
  unfold balanceFailed
  by_cases final : (!isDustShortfallError e || decide (config.maxRetries ≤ attempt)) = true
  · rw [if_pos final, List.append_assoc]
    exact .failed rounds fails
  · rw [if_neg final, List.append_assoc]
    simp only [Bool.or_eq_true, Bool.not_eq_true', decide_eq_true_eq, not_or,
      Bool.not_eq_false, not_le] at final
    have reaping := Traced.reaping rounds fails final.1 final.2
    rwa [List.append_assoc] at reaping

theorem Traced.resumed {phase : SubmitPhase Balanced Out}
    {trace : List (SubmitEvent Tx Balanced Out)} {reply : Reply Balanced Out}
    {move : SubmitMove Tx Balanced Out} (traced : Traced config tx phase trace)
    (resumes : resume config tx phase reply = some move) :
    Traced config tx move.phase (trace ++ move.events) := by
  unfold resume at resumes
  split at resumes
  all_goals first | (cases resumes; done) | rw [← Option.some.inj resumes]
  case h_1 =>
    cases traced
    exact .balancing .ready
  case h_2 e =>
    cases traced
    exact .unready e
  case h_3 attempt balanced =>
    cases traced with
    | balancing rounds =>
      rw [List.append_assoc]
      exact .reserving rounds balanced
  case h_4 attempt e =>
    cases traced with
    | balancing rounds => exact traced_balanceFailed rounds (.balance e)
  case h_5 attempt balanced =>
    cases traced with
    | reserving rounds =>
      rw [List.append_assoc]
      exact .reserved rounds balanced
  case h_6 attempt balanced e =>
    cases traced with
    | reserving rounds => exact traced_balanceFailed rounds (.reserve e balanced)
  case h_7 attempt =>
    cases traced with
    | reaping rounds fails dust room =>
      rw [List.append_assoc, List.append_assoc]
      exact .sleeping rounds fails dust room
  case h_8 attempt e' =>
    cases traced with
    | reaping rounds fails dust room =>
      rw [List.append_assoc, List.append_assoc]
      exact .unreaped rounds fails e'
  case h_9 attempt =>
    cases traced with
    | sleeping rounds fails dust room => exact .balancing (.retry rounds fails dust room)
  case h_10 balanced =>
    cases traced with
    | reserved rounds => exact .broadcasting rounds balanced
  case h_11 balanced out =>
    cases traced with
    | broadcasting rounds =>
      rw [List.append_assoc]
      exact .sent rounds balanced out
  case h_12 balanced e =>
    cases traced with
    | broadcasting rounds =>
      rw [List.append_assoc]
      exact .revertQueued rounds balanced e
  case h_13 balanced e result =>
    cases traced with
    | reverting rounds =>
      rw [List.append_assoc]
      exact .reverted rounds balanced e result

/-- What a step means to the serializer is what it does to the job the submit is in. -/
def SerializerUse.Fits (use : SerializerUse) (id : Nat) (phase phase' : SubmitPhase Balanced Out) :
    Prop :=
  match use with
  | .keep => phase'.runs id = phase.runs id ∧ phase'.awaits id = phase.awaits id
  | .release => phase.runs id ≠ none ∧ phase'.runs id = none ∧ phase'.awaits id = phase.awaits id
  | .enqueueRevert =>
    phase'.runs id = phase.runs id ∧ phase.awaits id = none ∧ phase'.awaits id = some (.revert id)

theorem balanceFailed_use (id attempt : Nat) (e : String) (event : SubmitEvent Tx Balanced Out)
    {phase : SubmitPhase Balanced Out} (runs : phase.runs id = some (.submit id))
    (awaits : phase.awaits id = none) :
    (balanceFailed config attempt e event).use.Fits id phase
      (balanceFailed config attempt e event).phase := by
  unfold balanceFailed
  split
  · exact ⟨by simp [runs], rfl, awaits.symm⟩
  · exact ⟨runs.symm, awaits.symm⟩

theorem resume_use (id : Nat) {phase : SubmitPhase Balanced Out} {reply : Reply Balanced Out}
    {move : SubmitMove Tx Balanced Out} (resumes : resume config tx phase reply = some move) :
    move.use.Fits id phase move.phase := by
  unfold resume at resumes
  split at resumes
  all_goals first | (cases resumes; done) | rw [← Option.some.inj resumes]
  case h_4 attempt e => exact balanceFailed_use id attempt e _ rfl rfl
  case h_6 attempt balanced e => exact balanceFailed_use id attempt e _ rfl rfl
  all_goals first
    | exact ⟨rfl, rfl⟩
    | exact ⟨rfl, rfl, rfl⟩
    | exact ⟨Option.some_ne_none _, rfl, rfl⟩

namespace Pipeline

def runsAt (p : Pipeline Tx Balanced Out) (id : Nat) : Option PipelineJob :=
  (p.submits[id]?).bind fun s => s.phase.runs id

def awaitsAt (p : Pipeline Tx Balanced Out) (id : Nat) : Option PipelineJob :=
  (p.submits[id]?).bind fun s => s.phase.awaits id

/-- The serializer agrees with the phases, and every history is one of its phase. -/
structure Inv (config : PipelineConfig) (p : Pipeline Tx Balanced Out) : Prop where
  fits : p.serializer.Matches p.runsAt p.awaitsAt
  traced : ∀ (id : Nat) (s : Submit Tx Balanced Out), p.submits[id]? = some s →
    Traced config s.tx s.phase s.trace

theorem submits_advance {p : Pipeline Tx Balanced Out} {id : Nat} {s : Submit Tx Balanced Out}
    (here : p.submits[id]? = some s) (phase : SubmitPhase Balanced Out)
    (events : List (SubmitEvent Tx Balanced Out)) (other : Nat) :
    (p.advance id phase events).submits[other]? =
      if other = id then some ⟨s.tx, phase, s.trace ++ events⟩ else p.submits[other]? := by
  simp only [advance, List.getElem?_modify]
  by_cases same : other = id
  · subst same
    simp [here]
  · have different : id ≠ other := fun eq => same eq.symm
    cases p.submits[other]? <;> simp [same, different]

theorem runsAt_advance {p : Pipeline Tx Balanced Out} {id : Nat} {s : Submit Tx Balanced Out}
    (here : p.submits[id]? = some s) (phase : SubmitPhase Balanced Out)
    (events : List (SubmitEvent Tx Balanced Out)) :
    (p.advance id phase events).runsAt = Function.update p.runsAt id (phase.runs id) := by
  funext other
  rw [runsAt, submits_advance here]
  by_cases same : other = id
  · subst same
    simp
  · simp [same, runsAt]

theorem awaitsAt_advance {p : Pipeline Tx Balanced Out} {id : Nat} {s : Submit Tx Balanced Out}
    (here : p.submits[id]? = some s) (phase : SubmitPhase Balanced Out)
    (events : List (SubmitEvent Tx Balanced Out)) :
    (p.advance id phase events).awaitsAt = Function.update p.awaitsAt id (phase.awaits id) := by
  funext other
  rw [awaitsAt, submits_advance here]
  by_cases same : other = id
  · subst same
    simp
  · simp [same, awaitsAt]

theorem traced_advance {p : Pipeline Tx Balanced Out}
    (all : ∀ (id : Nat) (s : Submit Tx Balanced Out), p.submits[id]? = some s →
      Traced config s.tx s.phase s.trace)
    {id : Nat} {s : Submit Tx Balanced Out} (here : p.submits[id]? = some s)
    {phase : SubmitPhase Balanced Out} {events : List (SubmitEvent Tx Balanced Out)}
    (traced : Traced config s.tx phase (s.trace ++ events)) (other : Nat)
    (s' : Submit Tx Balanced Out) (there : (p.advance id phase events).submits[other]? = some s') :
    Traced config s'.tx s'.phase s'.trace := by
  rw [submits_advance here] at there
  split at there
  · obtain rfl := Option.some.inj there
    exact traced
  · exact all other s' there

/-- Beginning a job moves its submit from waiting to running. -/
theorem begin_job {id : Nat} {phase phase' : SubmitPhase Balanced Out} {job : PipelineJob}
    {events : List (SubmitEvent Tx Balanced Out)} (awaits : phase.awaits id = some job)
    (begins : beginJob phase = (phase', events)) :
    phase'.runs id = some job ∧ phase'.awaits id = none := by
  cases phase <;> simp only [SubmitPhase.awaits, reduceCtorEq] at awaits
  · cases begins
    exact ⟨awaits, rfl⟩
  · cases begins
    exact ⟨awaits, rfl⟩

theorem inv_startJob {p : Pipeline Tx Balanced Out} (inv : p.Inv config) {id : Nat}
    {job : PipelineJob} {serializer : Serializer PipelineJob} (owned : job.owner = some id)
    (starts : p.serializer.start = some (job, serializer)) :
    ({ p with serializer := serializer }.startJob job).Inv config := by
  have awaited := inv.fits.awaits_of_start starts owned
  have fits := inv.fits.started starts owned
  obtain ⟨s, here, waits⟩ := Option.bind_eq_some_iff.mp awaited
  rcases begins : (beginJob s.phase : _ × List (SubmitEvent Tx Balanced Out)) with ⟨phase, events⟩
  obtain ⟨runs, idle⟩ := begin_job waits begins
  have moved : { p with serializer := serializer }.startJob job =
      { p with serializer := serializer }.advance id phase events := by
    cases job with
    | submit owner =>
      obtain rfl := Option.some.inj owned
      simp only [startJob, here, begins]
    | revert owner =>
      obtain rfl := Option.some.inj owned
      simp only [startJob, here, begins]
    | maintenance => cases owned
  rw [moved]
  refine ⟨?_, traced_advance inv.traced here ((inv.traced id s here).begun begins)⟩
  have runsAt := runsAt_advance (p := { p with serializer := serializer }) here phase events
  have awaitsAt := awaitsAt_advance (p := { p with serializer := serializer }) here phase events
  rw [runsAt, awaitsAt, runs, idle]
  exact fits

theorem inv_resumed {p : Pipeline Tx Balanced Out} (inv : p.Inv config) {id : Nat}
    {s : Submit Tx Balanced Out} (here : p.submits[id]? = some s) {reply : Reply Balanced Out}
    {move : SubmitMove Tx Balanced Out} (resumes : resume config s.tx s.phase reply = some move) :
    ((p.advance id move.phase move.events).useSerializer id move.use).Inv config := by
  have traced := traced_advance inv.traced here ((inv.traced id s here).resumed resumes)
  have uses := resume_use id resumes
  have runsAt := runsAt_advance here move.phase move.events
  have awaitsAt := awaitsAt_advance here move.phase move.events
  have runsHere : p.runsAt id = s.phase.runs id := by simp [Pipeline.runsAt, here]
  have awaitsHere : p.awaitsAt id = s.phase.awaits id := by simp [Pipeline.awaitsAt, here]
  cases use : move.use with
  | keep =>
    rw [use] at uses
    obtain ⟨sameRuns, sameAwaits⟩ := uses
    refine ⟨?_, traced⟩
    show p.serializer.Matches (p.advance id move.phase move.events).runsAt
      (p.advance id move.phase move.events).awaitsAt
    rw [runsAt, awaitsAt, sameRuns, sameAwaits, ← runsHere, ← awaitsHere,
      Function.update_eq_self, Function.update_eq_self]
    exact inv.fits
  | release =>
    rw [use] at uses
    obtain ⟨running, done, sameAwaits⟩ := uses
    obtain ⟨job, runs⟩ := Option.ne_none_iff_exists'.mp running
    refine ⟨?_, traced⟩
    show p.serializer.release.Matches (p.advance id move.phase move.events).runsAt
      (p.advance id move.phase move.events).awaitsAt
    rw [runsAt, awaitsAt, done, sameAwaits, ← awaitsHere, Function.update_eq_self]
    exact inv.fits.released (runsHere.trans runs) (SubmitPhase.owner_runs runs)
  | enqueueRevert =>
    rw [use] at uses
    obtain ⟨sameRuns, idle, waits⟩ := uses
    refine ⟨?_, traced⟩
    show (p.serializer.enqueue (.revert id)).Matches (p.advance id move.phase move.events).runsAt
      (p.advance id move.phase move.events).awaitsAt
    rw [runsAt, awaitsAt, sameRuns, waits, ← runsHere, Function.update_eq_self]
    exact inv.fits.enqueued rfl (awaitsHere.trans idle)

theorem inv_submit {p : Pipeline Tx Balanced Out} (inv : p.Inv config) (tx : Tx) :
    (p.step config (.submit tx)).Inv config := by
  have outside : p.submits[p.submits.length]? = none := List.getElem?_eq_none (Nat.le_refl _)
  have submits (other : Nat) : (p.step config (.submit tx)).submits[other]? =
      if other = p.submits.length then some ⟨tx, .queued, []⟩ else p.submits[other]? := by
    simp only [step]
    rcases Nat.lt_trichotomy other p.submits.length with below | same | above
    · rw [List.getElem?_append_left below, if_neg (by omega)]
    · simp [same]
    · rw [List.getElem?_eq_none (by simp; omega), if_neg (by omega),
        List.getElem?_eq_none (by omega)]
  refine ⟨?_, fun id s there => ?_⟩
  · have idle : p.awaitsAt p.submits.length = none := by simp [awaitsAt]
    have runsAt : (p.step config (.submit tx)).runsAt = p.runsAt := by
      funext other
      rw [Pipeline.runsAt, submits]
      by_cases same : other = p.submits.length
      · subst same
        simp [Pipeline.runsAt, SubmitPhase.runs]
      · simp [same, Pipeline.runsAt]
    have awaitsAt : (p.step config (.submit tx)).awaitsAt =
        Function.update p.awaitsAt p.submits.length (some (.submit p.submits.length)) := by
      funext other
      rw [Pipeline.awaitsAt, submits]
      by_cases same : other = p.submits.length
      · subst same
        simp [SubmitPhase.awaits]
      · simp [same, Pipeline.awaitsAt]
    rw [runsAt, awaitsAt]
    exact inv.fits.enqueued rfl idle
  · rw [submits] at there
    split at there
    · obtain rfl := Option.some.inj there
      exact .queued
    · exact inv.traced id s there

theorem inv_step {p : Pipeline Tx Balanced Out} (inv : p.Inv config)
    (input : PipelineStep Tx Balanced Out) : (p.step config input).Inv config := by
  cases input with
  | submit tx => exact inv_submit inv tx
  | maintain => exact ⟨inv.fits.maintenance_enqueued, inv.traced⟩
  | start =>
    rw [step]
    split
    · exact inv
    · rename_i job serializer starts
      cases job with
      | submit id => exact inv_startJob inv rfl starts
      | revert id => exact inv_startJob inv rfl starts
      | maintenance => exact ⟨inv.fits.maintenance_started starts, inv.traced⟩
  | maintained =>
    rw [step]
    split
    · rename_i running
      exact ⟨inv.fits.maintenance_released running, inv.traced⟩
    · exact inv
  | resume id reply =>
    rw [step]
    split
    · exact inv
    · rename_i s here
      split
      · exact inv
      · rename_i move resumes
        exact inv_resumed inv here resumes

theorem inv_run (config : PipelineConfig) (steps : List (PipelineStep Tx Balanced Out)) :
    (pipelineRun config steps).Inv config := by
  refine Runs.run_invariant (Inv config) ⟨⟨fun id job owned => ?_, fun id job owned => ?_⟩, ?_⟩
    (fun p input inv => inv_step inv input) steps
  · simp [empty, runsAt]
  · simp [empty, awaitsAt]
  · simp [empty]

/-- A submit that is in a serialized section holds the serializer. -/
theorem Inv.running {p : Pipeline Tx Balanced Out} (inv : p.Inv config) {id : Nat}
    {s : Submit Tx Balanced Out} {job : PipelineJob} (here : p.submits[id]? = some s)
    (runs : s.phase.runs id = some job) : p.serializer.running = some job := by
  refine (inv.fits.running id job (SubmitPhase.owner_runs runs)).mpr ?_
  simp [runsAt, here, runs]

/-- Only one submit at a time is in a serialized section. -/
theorem Inv.exclusive {p : Pipeline Tx Balanced Out} (inv : p.Inv config) {id id' : Nat}
    {s s' : Submit Tx Balanced Out} (here : p.submits[id]? = some s)
    (there : p.submits[id']? = some s') (runs : s.phase.runs id ≠ none)
    (runs' : s'.phase.runs id' ≠ none) : id = id' := by
  obtain ⟨job, runs⟩ := Option.ne_none_iff_exists'.mp runs
  obtain ⟨job', runs'⟩ := Option.ne_none_iff_exists'.mp runs'
  have same := (inv.running here runs).symm.trans (inv.running there runs')
  have owner := SubmitPhase.owner_runs runs
  rw [Option.some.inj same, SubmitPhase.owner_runs runs'] at owner
  exact (Option.some.inj owner).symm

end Pipeline

/-! ## What the histories say -/

namespace SubmitEvent

def isBalanceTx : SubmitEvent Tx Balanced Out → Bool
  | .balanceTx _ => true
  | _ => false

def isBroadcast : SubmitEvent Tx Balanced Out → Bool
  | .broadcast _ => true
  | _ => false

def isRevert : SubmitEvent Tx Balanced Out → Bool
  | .revert _ => true
  | _ => false

/-- Of phase 1. -/
def isPhase1 : SubmitEvent Tx Balanced Out → Bool
  | .broadcast _ | .broadcastDone _ | .revert _ | .reverted _ => false
  | _ => true

/-- The error a round of balancing and reserving threw. -/
def roundError : SubmitEvent Tx Balanced Out → Option String
  | .balanced (.error e) | .reserveDone (.error e) => some e
  | _ => none

/-- The error with which phase 1 may end. -/
def phase1Error : SubmitEvent Tx Balanced Out → Option String
  | .ready (.error e) | .balanced (.error e) | .reserveDone (.error e) | .reaped (.error e) =>
    some e
  | _ => none

end SubmitEvent

/-- The error of the last round so far. -/
def lastRoundError (trace : List (SubmitEvent Tx Balanced Out)) : Option String :=
  (trace.filterMap SubmitEvent.roundError).getLast?

section

variable {e : String} {attempt : Nat} {before round : List (SubmitEvent Tx Balanced Out)}

theorem FailedRound.eq_cons (fails : FailedRound tx e round) :
    ∃ rest, round = .balanceTx tx :: rest ∧ (∀ event ∈ rest, event.isBalanceTx = false) ∧
      (∀ event ∈ round, event.isPhase1 = true) ∧ lastRoundError round = some e := by
  cases fails with
  | balance =>
    exact ⟨_, rfl, by simp [SubmitEvent.isBalanceTx], by simp [SubmitEvent.isPhase1], rfl⟩
  | reserve balanced =>
    exact ⟨_, rfl, by simp [SubmitEvent.isBalanceTx], by simp [SubmitEvent.isPhase1], rfl⟩

theorem retryEvents_plain : ∀ event ∈ (retryEvents config : List (SubmitEvent Tx Balanced Out)),
    event.isPhase1 = true ∧ event.isBalanceTx = false ∧ event.roundError = none := by
  simp [retryEvents, SubmitEvent.isPhase1, SubmitEvent.isBalanceTx, SubmitEvent.roundError]

theorem Rounds.le_maxRetries (rounds : Rounds config tx attempt before) :
    attempt ≤ config.maxRetries := by
  cases rounds with
  | ready => exact Nat.zero_le _
  | retry _ _ _ room => exact room

theorem Rounds.isPhase1 (rounds : Rounds config tx attempt before) :
    ∀ event ∈ before, event.isPhase1 = true := by
  induction rounds with
  | ready => simp [SubmitEvent.isPhase1]
  | retry rounds fails dust room ih =>
    obtain ⟨_, _, _, phase1, _⟩ := fails.eq_cons
    exact List.forall_mem_append.mpr ⟨ih, List.forall_mem_append.mpr
      ⟨phase1, fun event member => (retryEvents_plain event member).1⟩⟩

theorem Rounds.countP_balanceTx (rounds : Rounds config tx attempt before) :
    before.countP SubmitEvent.isBalanceTx = attempt := by
  induction rounds with
  | ready => rfl
  | retry rounds fails dust room ih =>
    obtain ⟨rest, rfl, others, _, _⟩ := fails.eq_cons
    have inRest : rest.countP SubmitEvent.isBalanceTx = 0 :=
      List.countP_eq_zero.mpr fun event member => by simp [others event member]
    have inRetry : (retryEvents config : List (SubmitEvent Tx Balanced Out)).countP
        SubmitEvent.isBalanceTx = 0 :=
      List.countP_eq_zero.mpr fun event member => by simp [(retryEvents_plain event member).2.1]
    rw [List.countP_append, List.countP_append, List.countP_cons_of_pos rfl, ih, inRest, inRetry]

/-- A retry comes after a shortfall. -/
theorem Rounds.shortfall (rounds : Rounds config tx attempt before) :
    (∃ event ∈ before, event.isBalanceTx = true) →
      ∃ e, lastRoundError before = some e ∧ isDustShortfallError e = true := by
  intro retried
  cases rounds with
  | ready => simp [SubmitEvent.isBalanceTx] at retried
  | retry rounds fails dust room =>
    obtain ⟨_, _, _, _, last⟩ := fails.eq_cons
    have quiet : (retryEvents config : List (SubmitEvent Tx Balanced Out)).filterMap
        SubmitEvent.roundError = [] :=
      List.filterMap_eq_nil_iff.mpr fun event member => (retryEvents_plain event member).2.2
    refine ⟨_, ?_, dust⟩
    rw [lastRoundError] at last ⊢
    rw [List.filterMap_append, List.filterMap_append, quiet, List.append_nil,
      List.getLast?_append, last]
    rfl

/-- At every call to balance: no broadcast came before, and a repeated call follows a
    shortfall. -/
def Retried (before : List (SubmitEvent Tx Balanced Out)) : Prop :=
  (∀ balanced, .broadcast balanced ∉ before) ∧
    ((∃ event ∈ before, event.isBalanceTx = true) →
      ∃ e, lastRoundError before = some e ∧ isDustShortfallError e = true)

theorem Rounds.retried (rounds : Rounds config tx attempt before) : Retried before := by
  refine ⟨fun balanced member => ?_, rounds.shortfall⟩
  have phase1 := rounds.isPhase1 _ member
  cases phase1

/-- One more round, begun and continued in any way that does not balance again. -/
theorem Rounds.retried_at (rounds : Rounds config tx attempt before) (tx' : Tx)
    {later : List (SubmitEvent Tx Balanced Out)}
    (others : ∀ event ∈ later, event.isBalanceTx = false) (pre post : List _)
    (split : before ++ .balanceTx tx :: later = pre ++ .balanceTx tx' :: post) : Retried pre := by
  have absent (later : List (SubmitEvent Tx Balanced Out))
      (others : ∀ event ∈ later, event.isBalanceTx = false) : .balanceTx tx' ∉ later :=
    fun member => by cases others _ member
  induction rounds generalizing later pre post with
  | ready =>
    have none' : Rounds config tx 0
        ([.ensureReady, .ready (.ok ())] : List (SubmitEvent Tx Balanced Out)) := .ready
    refine Runs.forall_split_append_cons ?_ (fun _ => none'.retried) (absent later others) pre post
      split
    intro pre post split
    have member : (.balanceTx tx' : SubmitEvent Tx Balanced Out) ∈
        [.ensureReady, .ready (.ok ())] := by
      rw [split]
      exact List.mem_append_right pre List.mem_cons_self
    simp at member
  | retry rounds fails dust room ih =>
    obtain ⟨rest, rfl, others', _, _⟩ := fails.eq_cons
    refine Runs.forall_split_append_cons ?_ (fun _ => (rounds.retry fails dust room).retried)
      (absent later others) pre post split
    exact ih (List.forall_mem_append.mpr
      ⟨others', fun event member => (retryEvents_plain event member).2.1⟩)

/-- What the history of a submit says, whether it has settled or not. -/
structure HistorySafe (config : PipelineConfig) (trace : List (SubmitEvent Tx Balanced Out)) :
    Prop where
  balances : trace.countP SubmitEvent.isBalanceTx ≤ config.maxRetries + 1
  retries : ∀ tx pre post, trace = pre ++ .balanceTx tx :: post → Retried pre
  broadcasts : trace.countP SubmitEvent.isBroadcast ≤ 1
  /-- What is broadcast is what was reserved last. -/
  reservedLast : ∀ balanced pre post, trace = pre ++ .broadcast balanced :: post →
    ∃ earlier, pre = earlier ++
      ([.reserve balanced, .reserveDone (.ok ())] : SubmitTrace Tx Balanced Out)
  reverts : trace.countP SubmitEvent.isRevert ≤ 1
  /-- A revert follows the failure of the broadcast of the same transaction. -/
  revertedFailed : ∀ balanced pre post, trace = pre ++ .revert balanced :: post →
    ∃ earlier e, pre = earlier ++
      ([.broadcast balanced, .broadcastDone (.error e)] : SubmitTrace Tx Balanced Out)

/-- It holds of every beginning of a history of which it holds. -/
theorem HistorySafe.mono {trace full : List (SubmitEvent Tx Balanced Out)}
    (safe : HistorySafe config full) (initial : trace <+: full) : HistorySafe config trace := by
  obtain ⟨later, rfl⟩ := initial
  have count (p : SubmitEvent Tx Balanced Out → Bool) :
      trace.countP p ≤ (trace ++ later).countP p := by simp [List.countP_append]
  have extended {pre post : List (SubmitEvent Tx Balanced Out)} {event}
      (split : trace = pre ++ event :: post) :
      trace ++ later = pre ++ event :: (post ++ later) := by
    simp [split]
  exact {
    balances := (count _).trans safe.balances
    retries := fun tx pre post split => safe.retries tx pre _ (extended split)
    broadcasts := (count _).trans safe.broadcasts
    reservedLast := fun b pre post split => safe.reservedLast b pre _ (extended split)
    reverts := (count _).trans safe.reverts
    revertedFailed := fun b pre post split => safe.revertedFailed b pre _ (extended split) }

theorem Rounds.balances (rounds : Rounds config tx attempt before)
    {later : List (SubmitEvent Tx Balanced Out)}
    (others : ∀ event ∈ later, event.isBalanceTx = false) :
    (before ++ .balanceTx tx :: later).countP SubmitEvent.isBalanceTx ≤ config.maxRetries + 1 := by
  have inLater : later.countP SubmitEvent.isBalanceTx = 0 :=
    List.countP_eq_zero.mpr fun event member => by simp [others event member]
  rw [List.countP_append, List.countP_cons_of_pos rfl, rounds.countP_balanceTx, inLater]
  have bound := rounds.le_maxRetries
  omega

/-- As long as phase 1 goes on there is nothing to say about broadcasts. -/
theorem historySafe_of_phase1 {trace : List (SubmitEvent Tx Balanced Out)}
    (phase1 : ∀ event ∈ trace, event.isPhase1 = true)
    (balances : trace.countP SubmitEvent.isBalanceTx ≤ config.maxRetries + 1)
    (retries : ∀ tx pre post, trace = pre ++ .balanceTx tx :: post → Retried pre) :
    HistorySafe config trace := by
  have none' (p : SubmitEvent Tx Balanced Out → Bool)
      (other : ∀ event, event.isPhase1 = true → p event = false) : trace.countP p = 0 :=
    List.countP_eq_zero.mpr fun event member => by simp [other event (phase1 event member)]
  have absent {event} {pre post : List (SubmitEvent Tx Balanced Out)}
      (split : trace = pre ++ event :: post) : event.isPhase1 = true :=
    phase1 event (by rw [split]; exact List.mem_append_right pre List.mem_cons_self)
  refine ⟨balances, retries, ?_, fun b pre post split => ?_, ?_, fun b pre post split => ?_⟩
  · rw [none' _ fun event => by
      cases event <;> simp [SubmitEvent.isPhase1, SubmitEvent.isBroadcast]]
    exact Nat.zero_le 1
  · cases absent split
  · rw [none' _ fun event => by cases event <;> simp [SubmitEvent.isPhase1, SubmitEvent.isRevert]]
    exact Nat.zero_le 1
  · cases absent split

theorem historySafe_failed (rounds : Rounds config tx attempt before)
    (fails : FailedRound tx e round) (result : Outcome Unit) :
    HistorySafe config (before ++ (round ++ ([.reapStalePending config.dustShortfallReapGraceMs,
      .reaped result, .sleep config.dustRetryWaitMs] : SubmitTrace Tx Balanced Out))) := by
  obtain ⟨rest, rfl, others, phase1, _⟩ := fails.eq_cons
  have others' : ∀ event ∈ rest ++ ([.reapStalePending config.dustShortfallReapGraceMs,
      .reaped result, .sleep config.dustRetryWaitMs] :
        SubmitTrace Tx Balanced Out), event.isBalanceTx = false :=
    List.forall_mem_append.mpr ⟨others, by simp [SubmitEvent.isBalanceTx]⟩
  refine historySafe_of_phase1 ?_ (rounds.balances others') fun tx' pre post split =>
    rounds.retried_at tx' others' pre post split
  exact List.forall_mem_append.mpr ⟨rounds.isPhase1, List.forall_mem_append.mpr
    ⟨phase1, by simp [SubmitEvent.isPhase1]⟩⟩

/-- A round that reserved, its broadcast, and what comes after it. -/
theorem historySafe_good (rounds : Rounds config tx attempt before) (balanced : Balanced)
    {later : List (SubmitEvent Tx Balanced Out)}
    (once : ∀ event ∈ later, event.isBalanceTx = false ∧ event.isBroadcast = false)
    (reverts : later.countP SubmitEvent.isRevert ≤ 1)
    (revertedFailed : ∀ b pre post,
      before ++ goodRound tx balanced ++ .broadcast balanced :: later = pre ++ .revert b :: post →
        ∃ earlier e, pre = earlier ++
          ([.broadcast b, .broadcastDone (.error e)] : SubmitTrace Tx Balanced Out)) :
    HistorySafe config (before ++ goodRound tx balanced ++ .broadcast balanced :: later) := by
  have phase1 : ∀ event ∈ before ++ goodRound tx balanced, event.isPhase1 = true :=
    List.forall_mem_append.mpr ⟨rounds.isPhase1, by simp [goodRound, SubmitEvent.isPhase1]⟩
  have regroup : before ++ goodRound tx balanced ++ .broadcast balanced :: later =
      before ++ .balanceTx tx :: ([.balanced (.ok balanced), .reserve balanced,
        .reserveDone (.ok ()), .broadcast balanced] ++ later) := by
    simp [goodRound]
  have others : ∀ event ∈ [.balanced (.ok balanced), .reserve balanced, .reserveDone (.ok ()),
      .broadcast balanced] ++ later, event.isBalanceTx = false :=
    List.forall_mem_append.mpr ⟨by simp [SubmitEvent.isBalanceTx],
      fun event member => (once event member).1⟩
  have zero (p : SubmitEvent Tx Balanced Out → Bool)
      (other : ∀ event, event.isPhase1 = true → p event = false) :
      (before ++ goodRound tx balanced).countP p = 0 :=
    List.countP_eq_zero.mpr fun event member => by simp [other event (phase1 event member)]
  refine ⟨?_, fun tx' pre post split => ?_, ?_, fun b pre post split => ?_, ?_, revertedFailed⟩
  · rw [regroup]
    exact rounds.balances others
  · rw [regroup] at split
    exact rounds.retried_at tx' others pre post split
  · have inLater : later.countP SubmitEvent.isBroadcast = 0 :=
      List.countP_eq_zero.mpr fun event member => by simp [(once event member).2]
    have inPhase1 := zero SubmitEvent.isBroadcast fun event => by
      cases event <;> simp [SubmitEvent.isPhase1, SubmitEvent.isBroadcast]
    rw [List.countP_append, List.countP_cons_of_pos rfl, inPhase1, inLater]
  · refine Runs.forall_split_append_cons
      (P := fun pre : SubmitTrace Tx Balanced Out => ∃ earlier, pre = earlier ++
        ([.reserve b, .reserveDone (.ok ())] : SubmitTrace Tx Balanced Out))
      (fun pre post split => ?_) (fun same => ?_) ?_ pre post split
    · have first := phase1 (.broadcast b)
        (by rw [split]; exact List.mem_append_right pre List.mem_cons_self)
      cases first
    · cases same
      exact ⟨before ++ ([.balanceTx tx, .balanced (.ok balanced)] :
        SubmitTrace Tx Balanced Out), by simp [goodRound]⟩
    · intro member
      have other := (once _ member).2
      cases other
  · have inPhase1 := zero SubmitEvent.isRevert fun event => by
      cases event <;> simp [SubmitEvent.isPhase1, SubmitEvent.isRevert]
    rw [List.countP_append, List.countP_cons_of_neg (by simp [SubmitEvent.isRevert]), inPhase1]
    omega

theorem historySafe_sent (rounds : Rounds config tx attempt before) (balanced : Balanced)
    (out : Out) :
    HistorySafe config (before ++ goodRound tx balanced ++
      ([.broadcast balanced, .broadcastDone (.ok out)] : SubmitTrace Tx Balanced Out)) := by
  refine historySafe_good rounds balanced ?_ (by simp [SubmitEvent.isRevert]) ?_
  · simp [SubmitEvent.isBalanceTx, SubmitEvent.isBroadcast]
  · intro b pre post split
    have member : (.revert b : SubmitEvent Tx Balanced Out) ∈ before ++ goodRound tx balanced ++
        ([.broadcast balanced, .broadcastDone (.ok out)] : SubmitTrace Tx Balanced Out) := by
      rw [split]
      exact List.mem_append_right pre List.mem_cons_self
    simp only [goodRound, List.mem_append, List.mem_cons, List.not_mem_nil, or_false, reduceCtorEq,
      or_false] at member
    cases rounds.isPhase1 _ member

theorem historySafe_reverted (rounds : Rounds config tx attempt before) (balanced : Balanced)
    (e : String) (result : Outcome Unit) :
    HistorySafe config (before ++ goodRound tx balanced ++
      ([.broadcast balanced, .broadcastDone (.error e), .revert balanced, .reverted result] :
        SubmitTrace Tx Balanced Out)) := by
  refine historySafe_good rounds balanced ?_ (Nat.le_refl 1) ?_
  · simp [SubmitEvent.isBalanceTx, SubmitEvent.isBroadcast]
  · intro b pre post split
    have regroup : before ++ goodRound tx balanced ++ ([.broadcast balanced,
        .broadcastDone (.error e), .revert balanced, .reverted result] :
          SubmitTrace Tx Balanced Out) =
        (before ++ goodRound tx balanced ++
          ([.broadcast balanced, .broadcastDone (.error e)] : SubmitTrace Tx Balanced Out)) ++
          .revert balanced :: [.reverted result] := by simp
    rw [regroup] at split
    refine Runs.forall_split_append_cons
      (P := fun pre : SubmitTrace Tx Balanced Out => ∃ earlier e, pre = earlier ++
        ([.broadcast b, .broadcastDone (.error e)] : SubmitTrace Tx Balanced Out))
      (fun pre post split => ?_) (fun same => ?_) (by simp) pre post split
    · have member : (.revert b : SubmitEvent Tx Balanced Out) ∈ before ++ goodRound tx balanced ++
          ([.broadcast balanced, .broadcastDone (.error e)] : SubmitTrace Tx Balanced Out) := by
        rw [split]
        exact List.mem_append_right pre List.mem_cons_self
      simp only [goodRound, List.mem_append, List.mem_cons, List.not_mem_nil, or_false,
        reduceCtorEq] at member
      cases rounds.isPhase1 _ member
    · cases same
      exact ⟨_, e, rfl⟩

/-- Every history is safe: it is the beginning of one of those that have come to an end. -/
theorem Traced.historySafe {phase : SubmitPhase Balanced Out}
    {trace : List (SubmitEvent Tx Balanced Out)} (traced : Traced config tx phase trace) :
    HistorySafe config trace := by
  have readied (result : Outcome Unit) :
      HistorySafe config ([.ensureReady, .ready result] : List (SubmitEvent Tx Balanced Out)) := by
    refine historySafe_of_phase1 (by simp [SubmitEvent.isPhase1]) (Nat.zero_le _) ?_
    intro tx' pre post split
    have member : (.balanceTx tx' : SubmitEvent Tx Balanced Out) ∈
        [.ensureReady, .ready result] := by
      rw [split]
      exact List.mem_append_right pre List.mem_cons_self
    simp at member
  have after {l m n : List (SubmitEvent Tx Balanced Out)} (initial : m <+: n) :
      l ++ m <+: l ++ n := (List.prefix_append_right_inj l).mpr initial
  cases traced with
  | queued => exact (readied (.ok ())).mono ⟨_, rfl⟩
  | ensuring => exact (readied (.ok ())).mono ⟨_, rfl⟩
  | unready e => exact readied (.error e)
  | balancing rounds =>
    exact (historySafe_failed rounds (.balance "") (.ok ())).mono (after ⟨_, rfl⟩)
  | reserving rounds balanced =>
    exact (historySafe_failed rounds (.reserve "" balanced) (.ok ())).mono (after ⟨_, rfl⟩)
  | failed rounds fails =>
    exact (historySafe_failed rounds fails (.ok ())).mono (after ⟨_, rfl⟩)
  | reaping rounds fails dust room =>
    exact (historySafe_failed rounds fails (.ok ())).mono (after (after ⟨_, rfl⟩))
  | unreaped rounds fails e' =>
    exact (historySafe_failed rounds fails (.error e')).mono (after (after ⟨_, rfl⟩))
  | sleeping rounds fails dust room => exact historySafe_failed rounds fails (.ok ())
  | reserved rounds balanced =>
    exact (historySafe_reverted rounds balanced "" (.ok ())).mono ⟨_, rfl⟩
  | broadcasting rounds balanced =>
    exact (historySafe_reverted rounds balanced "" (.ok ())).mono (after ⟨_, rfl⟩)
  | sent rounds balanced out => exact historySafe_sent rounds balanced out
  | revertQueued rounds balanced e =>
    exact (historySafe_reverted rounds balanced e (.ok ())).mono (after ⟨_, rfl⟩)
  | reverting rounds balanced e =>
    exact (historySafe_reverted rounds balanced e (.ok ())).mono (after ⟨_, rfl⟩)
  | reverted rounds balanced e result => exact historySafe_reverted rounds balanced e result

/-! ## Settling -/

/-- What a submit settles with: the broadcast's result, the broadcast's error after one revert, or
    the error that ended phase 1. -/
def SettlesWith (result : Outcome Out) (trace : List (SubmitEvent Tx Balanced Out)) : Prop :=
  (∃ out, result = .ok out ∧ .broadcastDone (.ok out) ∈ trace ∧
    trace.countP SubmitEvent.isRevert = 0) ∨
  (∃ e, result = .error e ∧ .broadcastDone (.error e) ∈ trace ∧
    trace.countP SubmitEvent.isRevert = 1) ∨
  (∃ e, result = .error e ∧ (∀ event ∈ trace, event.isPhase1 = true) ∧
    (trace.getLast?).bind SubmitEvent.phase1Error = some e)

theorem Rounds.countP_isRevert (rounds : Rounds config tx attempt before) :
    before.countP SubmitEvent.isRevert = 0 := by
  refine List.countP_eq_zero.mpr fun event member => ?_
  have phase1 := rounds.isPhase1 event member
  cases event <;> simp_all [SubmitEvent.isPhase1, SubmitEvent.isRevert]

theorem Traced.settles {result : Outcome Out} {trace : List (SubmitEvent Tx Balanced Out)}
    (traced : Traced config tx (.settled result) trace) : SettlesWith result trace := by
  cases traced with
  | unready e => exact .inr (.inr ⟨e, rfl, by simp [SubmitEvent.isPhase1], rfl⟩)
  | failed rounds fails =>
    obtain ⟨_, _, _, phase1, _⟩ := fails.eq_cons
    refine .inr (.inr ⟨_, rfl, List.forall_mem_append.mpr ⟨rounds.isPhase1, phase1⟩, ?_⟩)
    cases fails <;> simp [SubmitEvent.phase1Error]
  | unreaped rounds fails e' =>
    obtain ⟨_, _, _, phase1, _⟩ := fails.eq_cons
    have last : ∀ event ∈ ([.reapStalePending config.dustShortfallReapGraceMs,
        .reaped (.error e')] : SubmitTrace Tx Balanced Out), event.isPhase1 = true := by
      simp [SubmitEvent.isPhase1]
    refine .inr (.inr ⟨e', rfl, List.forall_mem_append.mpr ⟨rounds.isPhase1,
      List.forall_mem_append.mpr ⟨phase1, last⟩⟩, ?_⟩)
    simp [SubmitEvent.phase1Error]
  | sent rounds balanced out =>
    refine .inl ⟨out, rfl, by simp, ?_⟩
    rw [List.countP_append, List.countP_append, rounds.countP_isRevert]
    rfl
  | reverted rounds balanced e result =>
    refine .inr (.inl ⟨e, rfl, by simp, ?_⟩)
    rw [List.countP_append, List.countP_append, rounds.countP_isRevert]
    rfl

theorem Rounds.length_le (rounds : Rounds config tx attempt before) :
    before.length ≤ 7 * attempt + 2 := by
  induction rounds with
  | ready => exact Nat.le_refl 2
  | retry rounds fails dust room ih =>
    cases fails <;>
      simp only [List.length_append, List.length_cons, List.length_nil, retryEvents] <;>
      omega

/-- A submit makes finitely many calls. -/
theorem Traced.length_le {phase : SubmitPhase Balanced Out}
    {trace : List (SubmitEvent Tx Balanced Out)} (traced : Traced config tx phase trace) :
    trace.length ≤ 7 * config.maxRetries + 10 := by
  cases traced with
  | queued => exact Nat.zero_le _
  | ensuring => simp
  | unready e => simp
  | balancing rounds | reserving rounds | reserved rounds | broadcasting rounds | sent rounds
  | revertQueued rounds | reverting rounds | reverted rounds =>
    have length := rounds.length_le
    have bound := rounds.le_maxRetries
    simp only [List.length_append, List.length_cons, List.length_nil, goodRound]
    omega
  | failed rounds fails | reaping rounds fails | unreaped rounds fails | sleeping rounds fails =>
    have length := rounds.length_le
    have bound := rounds.le_maxRetries
    cases fails <;>
      simp only [List.length_append, List.length_cons, List.length_nil, retryEvents] <;>
      omega

end

/-- A submit that neither waits in the serializer nor has settled waits for an answer. -/
theorem exists_resume (config : PipelineConfig) (tx : Tx) {id : Nat}
    (phase : SubmitPhase Balanced Out)
    (unsettled : ∀ result, phase ≠ .settled result) (idle : phase.awaits id = none) :
    ∃ reply, ∃ move : SubmitMove Tx Balanced Out, resume config tx phase reply = some move := by
  cases phase with
  | queued => cases idle
  | ensuring => exact ⟨.ready (.error ""), _, rfl⟩
  | balancing attempt => exact ⟨.balanced (.error ""), _, rfl⟩
  | reserving attempt balanced => exact ⟨.reserved (.error ""), _, rfl⟩
  | reaping attempt => exact ⟨.reaped (.ok ()), _, rfl⟩
  | sleeping attempt => exact ⟨.woken, _, rfl⟩
  | reserved balanced => exact ⟨.serialized, _, rfl⟩
  | broadcasting balanced => exact ⟨.broadcast (.error ""), _, rfl⟩
  | revertQueued balanced e => cases idle
  | reverting balanced e => exact ⟨.reverted (.ok ()), _, rfl⟩
  | settled result => exact absurd rfl (unsettled result)

theorem resume_events {phase : SubmitPhase Balanced Out} {reply : Reply Balanced Out}
    {move : SubmitMove Tx Balanced Out} (resumes : resume config tx phase reply = some move) :
    move.events ≠ [] := by
  unfold resume at resumes
  split at resumes
  all_goals first | (cases resumes; done) | rw [← Option.some.inj resumes]
  case h_4 | h_6 =>
    unfold balanceFailed
    split <;> simp
  all_goals simp

/-! ## Main result -/

namespace Pipeline

/-- Nothing is left to do but new calls: every call of a dependency has been answered, and the
    serializer has no job to start. -/
def Quiescent (config : PipelineConfig) (p : Pipeline Tx Balanced Out) : Prop :=
  p.step config .start = p ∧ p.step config .maintained = p ∧
    ∀ id reply, p.step config (.resume id reply) = p

theorem submits_useSerializer (p : Pipeline Tx Balanced Out) (id : Nat) (use : SerializerUse) :
    (p.useSerializer id use).submits = p.submits := by
  cases use <;> rfl

theorem serializer_startJob (p : Pipeline Tx Balanced Out) (job : PipelineJob) :
    (p.startJob job).serializer = p.serializer := by
  cases job with
  | maintenance => rfl
  | submit id =>
    rw [startJob]
    split <;> rfl
  | revert id =>
    rw [startJob]
    split <;> rfl

section

variable {p : Pipeline Tx Balanced Out}

theorem Quiescent.answered (quiescent : p.Quiescent config) {id : Nat} {s : Submit Tx Balanced Out}
    (here : p.submits[id]? = some s) (unsettled : ∀ result, s.phase ≠ .settled result) :
    s.phase.awaits id ≠ none := by
  intro idle
  obtain ⟨reply, move, moves⟩ :=
    exists_resume config s.tx s.phase unsettled idle
  have still := congrArg (fun q => q.submits[id]?) (quiescent.2.2 id reply)
  simp only [step, here, moves, submits_useSerializer, submits_advance here, if_true,
    Option.some.injEq] at still
  have trace := congrArg Submit.trace still
  exact resume_events moves (List.append_right_eq_self.mp trace)

theorem Quiescent.idle (inv : p.Inv config) (quiescent : p.Quiescent config) :
    p.serializer.running = none := by
  by_contra busy
  obtain ⟨job, running⟩ := Option.ne_none_iff_exists'.mp busy
  cases owned : job.owner with
  | none =>
    -- a maintenance job would settle
    have maintenance : job = .maintenance := by
      cases job with
      | maintenance => rfl
      | submit id => cases owned
      | revert id => cases owned
    have still := congrArg (fun q => q.serializer.running) quiescent.2.1
    simp [step, running, maintenance, Serializer.release] at still
  | some id =>
    -- its submit would be answered
    have runs := (inv.fits.running id job owned).mp running
    obtain ⟨s, here, runs⟩ := Option.bind_eq_some_iff.mp runs
    refine quiescent.answered here (fun result settled => ?_) ?_
    · simp [settled, SubmitPhase.runs] at runs
    · cases phase : s.phase <;> simp_all [SubmitPhase.runs, SubmitPhase.awaits]

theorem Quiescent.settled (inv : p.Inv config) (quiescent : p.Quiescent config) {id : Nat}
    {s : Submit Tx Balanced Out} (here : p.submits[id]? = some s) :
    ∃ result, s.phase = .settled result := by
  by_contra unsettled
  have unsettled' : ∀ result, s.phase ≠ .settled result := fun result settled =>
    unsettled ⟨result, settled⟩
  obtain ⟨job, awaits⟩ := Option.ne_none_iff_exists'.mp (quiescent.answered here unsettled')
  have waits : p.awaitsAt id = some job := by simp [awaitsAt, here, awaits]
  have count := inv.fits.waiting id job (SubmitPhase.owner_awaits awaits)
  rw [if_pos waits] at count
  have still := congrArg (fun q => q.serializer.running) quiescent.1
  have idle := quiescent.idle inv
  cases queue : p.serializer.waiting with
  | nil => simp [queue] at count
  | cons next rest =>
    simp [step, Serializer.start, idle, queue, serializer_startJob] at still

end

end Pipeline

/-- What holds in a state of the pipeline. -/
structure PipelineSafe (config : PipelineConfig) (p : Pipeline Tx Balanced Out) : Prop where
  /-- At most one submit at a time is in a serialized section, be it balancing and reserving or
      reverting, and none is while the supervisor does maintenance. -/
  exclusive : ∀ (i j : Nat) (si sj : Submit Tx Balanced Out), p.submits[i]? = some si →
    p.submits[j]? = some sj →
    si.phase.runs i ≠ none → sj.phase.runs j ≠ none → i = j
  maintenance : p.serializer.running = some .maintenance →
    ∀ (i : Nat) (s : Submit Tx Balanced Out), p.submits[i]? = some s → s.phase.runs i = none
  histories : ∀ (i : Nat) (s : Submit Tx Balanced Out), p.submits[i]? = some s →
    HistorySafe config s.trace
  settles : ∀ (i : Nat) (s : Submit Tx Balanced Out) result, p.submits[i]? = some s →
    s.phase = .settled result → SettlesWith result s.trace
  /-- A submit makes finitely many calls, and has settled when they are answered. -/
  bounded : ∀ (i : Nat) (s : Submit Tx Balanced Out), p.submits[i]? = some s →
    s.trace.length ≤ 7 * config.maxRetries + 10
  drains : p.Quiescent config → ∀ (i : Nat) (s : Submit Tx Balanced Out), p.submits[i]? = some s →
    ∃ result, s.phase = .settled result

/-- After any number of calls and any answers, in any order. -/
theorem submit_pipeline_safe (config : PipelineConfig)
    (steps : List (PipelineStep Tx Balanced Out)) :
    PipelineSafe config (pipelineRun config steps) := by
  have inv := Pipeline.inv_run config steps
  refine ⟨?_, ?_, ?_, ?_, ?_, fun quiescent i s here => quiescent.settled inv here⟩
  · intro i j si sj first second runs runs'
    exact inv.exclusive first second runs runs'
  · intro maintenance i s here
    by_contra runs
    obtain ⟨job, runs⟩ := Option.ne_none_iff_exists'.mp runs
    have same := (inv.running here runs).symm.trans maintenance
    have owner := SubmitPhase.owner_runs runs
    rw [Option.some.inj same] at owner
    cases owner
  · exact fun i s here => (inv.traced i s here).historySafe
  · intro i s result here settled
    have traced := inv.traced i s here
    rw [settled] at traced
    exact traced.settles
  · exact fun i s here => (inv.traced i s here).length_le

end

end OwlId.Sidecar
