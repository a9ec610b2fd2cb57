import Mathlib
import OwlId.Lib.Runs
import OwlId.Sidecar.SubmitPipeline

/-! # The pending reaper

The wallet marks the UTXOs of a reserved transaction as pending and `balanceTx` leaves them out,
so that two submits can be broadcast at the same time.  A transaction that the mempool drops is
never finalised and its UTXOs would stay pending, so a sweep reverts the entries that have been
pending for longer than a grace: one for the periodic sweep, a much shorter one for the sweep
within a dust shortfall.

The sweep goes by age alone.  `in_flight_disjoint` says what makes it safe: each transaction that
a sweep reverts is dead by then.
-/

namespace OwlId.Sidecar

open OwlId.Lib

/-! ## The wallet beside the pipeline -/

/-- How a transaction ends that was broadcast. -/
inductive Fate where
  | failed
  | dropped
  | finalised
deriving DecidableEq

/-- An entry of `pendingTransactionsService`. -/
structure PendingTx (Balanced : Type) where
  /-- The submit that reserved it. -/
  submit : Nat
  tx : Balanced
  /-- `creationTimeToMs` of its creation time. -/
  createdMs : Option Int

/-- A sweep under way: its grace, its clock reading and the entries it has not looked at yet. -/
structure Sweep (Balanced : Type) where
  grace : Nat
  nowMs : Int
  items : List (PendingTx Balanced)

structure ReaperConfig extends PipelineConfig where
  pendingReaperGraceMs : Nat

/-- The supervisor: its pipeline, and the wallet the pipeline works on. -/
structure Supervisor (Tx Balanced Out Utxo : Type) where
  pipeline : Pipeline Tx Balanced Out
  pendingDust : Finset Utxo
  /-- What the wallet knows to be spent by a finalised transaction. -/
  spent : Finset Utxo
  all : List (PendingTx Balanced)
  sweep : Option (Sweep Balanced)
  /-- What the network did with the transaction of a submit. -/
  fate : Nat → Option Fate

inductive SupervisorStep (Tx Balanced Out : Type) where
  | submit (tx : Tx)
  /-- The timer of the periodic sweep fires. -/
  | reapDue
  | start
  /-- The answer of something a submit waits for, and the clock at that time if it is the answer of
      `reserve`. -/
  | resume (id : Nat) (reply : Reply Balanced Out) (createdMs : Option Int)
  | sweepBegins (nowMs : Int)
  /-- The next entry, and whether its `revertTransaction` succeeds. -/
  | sweepNext (reverts : Bool)
  | sweepEnds
  | ends (id : Nat) (fate : Fate)
  /-- The wallet learns from the indexer that the transaction has been finalised. -/
  | observes (id : Nat)

def SubmitEvent.broadcastTx {Tx Balanced Out : Type} :
    SubmitEvent Tx Balanced Out → Option Balanced
  | .broadcast tx => some tx
  | _ => none

section

variable {Tx Balanced Out Utxo : Type}

/-- What a submit has broadcast, unless the broadcast failed. -/
def Submit.sent (s : Submit Tx Balanced Out) : Option Balanced :=
  match s.phase with
  | .broadcasting _ | .settled (.ok _) => s.trace.findSome? SubmitEvent.broadcastTx
  | _ => none

def PendingTx.stale (item : PendingTx Balanced) (grace : Nat) (nowMs : Int) : Bool :=
  match item.createdMs with
  | none => false
  | some createdMs => !decide (nowMs - createdMs < grace)

/-- The grace of the sweep that the running job is in, if it is in one. -/
def Pipeline.sweepGrace (config : ReaperConfig) (p : Pipeline Tx Balanced Out) : Option Nat :=
  match p.serializer.running with
  | some .maintenance => some config.pendingReaperGraceMs
  | some (.submit id) =>
    match p.submits[id]?.map Submit.phase with
    | some (.reaping _) =>
      some (config.dustShortfallReapGraceMs.getD config.pendingReaperGraceMs)
    | _ => none
  | _ => none

namespace Supervisor

variable [DecidableEq Utxo] (inputs : Balanced → Finset Utxo)

def empty : Supervisor Tx Balanced Out Utxo := ⟨.empty, ∅, ∅, [], none, fun _ => none⟩

/-- Broadcast, and neither failed, dropped nor finalised. -/
def inFlight (w : Supervisor Tx Balanced Out Utxo) (id : Nat) : Option Balanced :=
  if (w.fate id).isSome then none else w.pipeline.submits[id]?.bind Submit.sent

/-- Its submit has settled and it is not in flight. -/
def dead (w : Supervisor Tx Balanced Out Utxo) (id : Nat) : Bool :=
  (w.inFlight id).isNone &&
    match w.pipeline.submits[id]?.map Submit.phase with
    | some (.settled _) => true
    | _ => false

/-- `addPendingTransaction`. -/
def reserve (w : Supervisor Tx Balanced Out Utxo) (id : Nat) (tx : Balanced)
    (createdMs : Option Int) : Supervisor Tx Balanced Out Utxo :=
  { w with pendingDust := w.pendingDust ∪ inputs tx, all := w.all ++ [⟨id, tx, createdMs⟩] }

/-- `revertTransaction`. -/
def revert (w : Supervisor Tx Balanced Out Utxo) (id : Nat) (tx : Balanced) :
    Supervisor Tx Balanced Out Utxo :=
  { w with
    pendingDust := w.pendingDust \ inputs tx
    all := w.all.filter fun item => item.submit != id }

/-- What the wallet and the reaper can answer: a balance is of UTXOs that are neither pending nor
    spent, and `reapStalePending` returns, without an error, after its last entry. -/
def answers (w : Supervisor Tx Balanced Out Utxo) : Reply Balanced Out → Bool
  | .balanced (.ok balanced) => decide (Disjoint (inputs balanced) (w.pendingDust ∪ w.spent))
  | .reaped (.ok ()) => w.sweep.all fun sweep => sweep.items.isEmpty
  | .reaped (.error _) => false
  | _ => true

/-- What the call did that is now answered. -/
def perform (w : Supervisor Tx Balanced Out Utxo) (id : Nat) (createdMs : Option Int) :
    SubmitPhase Balanced Out → Reply Balanced Out → Supervisor Tx Balanced Out Utxo
  | .reserving _ balanced, .reserved (.ok ()) => w.reserve inputs id balanced createdMs
  | .reverting balanced _, .reverted (.ok ()) => w.revert inputs id balanced
  | .reaping _, .reaped _ => { w with sweep := none }
  | _, _ => w

def advance (config : ReaperConfig) (w : Supervisor Tx Balanced Out Utxo)
    (input : PipelineStep Tx Balanced Out) : Supervisor Tx Balanced Out Utxo :=
  { w with pipeline := w.pipeline.step config.toPipelineConfig input }

/-- One entry of the loop of `reapStalePending`. -/
def sweepItem (w : Supervisor Tx Balanced Out Utxo) (sweep : Sweep Balanced)
    (item : PendingTx Balanced) (reverts : Bool) : Supervisor Tx Balanced Out Utxo :=
  if item.stale sweep.grace sweep.nowMs && reverts then w.revert inputs item.submit item.tx else w

def step (config : ReaperConfig) (w : Supervisor Tx Balanced Out Utxo) :
    SupervisorStep Tx Balanced Out → Supervisor Tx Balanced Out Utxo
  | .submit tx => w.advance config (.submit tx)
  | .reapDue => w.advance config .maintain
  | .start => w.advance config .start
  | .resume id reply createdMs =>
    match w.pipeline.submits[id]? with
    | none => w
    | some s =>
      if w.answers inputs reply then
        (w.perform inputs id createdMs s.phase reply).advance config (.resume id reply)
      else w
  | .sweepBegins nowMs =>
    match w.pipeline.sweepGrace config, w.sweep with
    | some grace, none => { w with sweep := some ⟨grace, nowMs, w.all⟩ }
    | _, _ => w
  | .sweepNext reverts =>
    match w.sweep with
    | some ⟨grace, nowMs, item :: items⟩ =>
      { w with sweep := some ⟨grace, nowMs, items⟩ }.sweepItem inputs ⟨grace, nowMs, items⟩ item
        reverts
    | _ => w
  | .sweepEnds =>
    if w.pipeline.serializer.running = some .maintenance ∧
        w.sweep.all fun sweep => sweep.items.isEmpty then
      { w with sweep := none }.advance config .maintained
    else w
  | .ends id fate =>
    if (w.inFlight id).isSome then { w with fate := Function.update w.fate id (some fate) } else w
  | .observes id =>
    -- the SDK clears the entry, and the UTXOs leave the wallet
    match w.fate id, w.pipeline.submits[id]?.bind fun s =>
        s.trace.findSome? SubmitEvent.broadcastTx with
    | some .finalised, some tx =>
      { w.revert inputs id tx with spent := w.spent ∪ inputs tx }
    | _, _ => w

end Supervisor

def supervisorRun [DecidableEq Utxo] (inputs : Balanced → Finset Utxo) (config : ReaperConfig)
    (steps : List (SupervisorStep Tx Balanced Out)) : Supervisor Tx Balanced Out Utxo :=
  Runs.run (Supervisor.step inputs config) Supervisor.empty steps

/-! ## Steps of the pipeline -/

namespace Pipeline

variable {config : PipelineConfig}

/-- What a step does to the submits. -/
inductive Moves (config : PipelineConfig) (p : Pipeline Tx Balanced Out) :
    PipelineStep Tx Balanced Out → Nat → Submit Tx Balanced Out → Prop where
  | stays {input id s} (here : p.submits[id]? = some s) : Moves config p input id s
  | calls (tx : Tx) (id : Nat) : Moves config p (.submit tx) id ⟨tx, .queued, []⟩
  | begins {id s phase events} (here : p.submits[id]? = some s)
      (job : beginJob s.phase = (phase, events)) :
    Moves config p .start id ⟨s.tx, phase, s.trace ++ events⟩
  | resumes {id s reply move} (here : p.submits[id]? = some s)
      (resumes : resume config s.tx s.phase reply = some move) :
    Moves config p (.resume id reply) id ⟨s.tx, move.phase, s.trace ++ move.events⟩

theorem moves_startJob {p : Pipeline Tx Balanced Out} {serializer : Serializer PipelineJob}
    (job : PipelineJob) {id : Nat} {s : Submit Tx Balanced Out}
    (here : ({ p with serializer := serializer }.startJob job).submits[id]? = some s) :
    Moves config p .start id s := by
  cases job with
  | maintenance => exact .stays here
  | submit owner | revert owner =>
    simp only [startJob] at here
    split at here
    · exact .stays here
    · rename_i s' there
      rcases begins : (beginJob s'.phase : _ × List (SubmitEvent Tx Balanced Out)) with
        ⟨phase, events⟩
      rw [begins] at here
      dsimp only at here
      rw [submits_advance (p := { p with serializer := serializer }) there] at here
      split at here
      · rename_i same
        subst same
        obtain rfl := Option.some.inj here
        exact .begins there begins
      · exact .stays here

theorem moves_step {p : Pipeline Tx Balanced Out} {input : PipelineStep Tx Balanced Out} {id : Nat}
    {s : Submit Tx Balanced Out} (here : (p.step config input).submits[id]? = some s) :
    Moves config p input id s := by
  cases input with
  | submit tx =>
    rcases Nat.lt_trichotomy id p.submits.length with below | same | above
    · rw [step, List.getElem?_append_left below] at here
      exact .stays here
    · subst same
      simp only [step, List.getElem?_concat_length, Option.some.injEq] at here
      subst here
      exact .calls tx _
    · rw [step, List.getElem?_eq_none (by simp; omega)] at here
      cases here
  | maintain => exact .stays here
  | start =>
    rw [step] at here
    split at here
    · exact .stays here
    · exact moves_startJob _ here
  | maintained =>
    rw [step] at here
    split at here <;> exact .stays here
  | resume owner reply =>
    rw [step] at here
    split at here
    · exact .stays here
    · rename_i s' there
      split at here
      · exact .stays here
      · rename_i move resumes
        rw [submits_useSerializer, submits_advance there] at here
        split at here
        · rename_i same
          subst same
          obtain rfl := Option.some.inj here
          exact .resumes there resumes
        · exact .stays here

theorem submits_resumed {p : Pipeline Tx Balanced Out} {id : Nat} {s : Submit Tx Balanced Out}
    {reply : Reply Balanced Out} {move : SubmitMove Tx Balanced Out} {config : PipelineConfig}
    (here : p.submits[id]? = some s) (resumes : resume config s.tx s.phase reply = some move) :
    (p.step config (.resume id reply)).submits[id]? =
      some ⟨s.tx, move.phase, s.trace ++ move.events⟩ := by
  simp only [step, here, resumes]
  rw [submits_useSerializer, submits_advance here, if_pos rfl]

end Pipeline

/-! ## What a submit holds -/

/-- The transaction a submit has reserved, until it has settled and the transaction has left the
    network. -/
def Submit.held (s : Submit Tx Balanced Out) (fate : Option Fate) : Option Balanced :=
  match s.phase with
  | .reserved tx | .broadcasting tx | .revertQueued tx _ | .reverting tx _ => some tx
  | _ => if fate.isSome then none else s.sent

variable {config : PipelineConfig} {tx : Tx}

theorem findSome?_broadcastTx_of_phase1 {trace : List (SubmitEvent Tx Balanced Out)}
    (phase1 : ∀ event ∈ trace, event.isPhase1 = true) :
    trace.findSome? SubmitEvent.broadcastTx = none := by
  refine List.findSome?_eq_none_iff.mpr fun event member => ?_
  have early := phase1 event member
  cases event <;> first | rfl | cases early

theorem Traced.broadcastTx {trace : List (SubmitEvent Tx Balanced Out)} {balanced : Balanced}
    (traced : Traced config tx (.broadcasting balanced : SubmitPhase Balanced Out) trace) :
    trace.findSome? SubmitEvent.broadcastTx = some balanced := by
  cases traced with
  | broadcasting rounds =>
    have before := findSome?_broadcastTx_of_phase1 rounds.isPhase1
    simp only [List.findSome?_append, before, goodRound]
    rfl

/-- What is in flight is held. -/
theorem Submit.held_of_sent {s : Submit Tx Balanced Out} (traced : Traced config tx s.phase s.trace)
    {balanced : Balanced} (sent : s.sent = some balanced) : s.held none = some balanced := by
  unfold Submit.sent at sent
  split at sent
  · rename_i tx' phase
    rw [phase] at traced
    rw [traced.broadcastTx] at sent
    simp only [Submit.held, phase, sent]
  · rename_i out phase
    simpa [Submit.held, Submit.sent, phase] using sent
  · cases sent

theorem Submit.held_of_ended {s : Submit Tx Balanced Out} {balanced : Balanced} {fate : Fate}
    {fate' : Option Fate} (held : s.held (some fate) = some balanced) :
    s.held fate' = some balanced := by
  unfold Submit.held at held ⊢
  split at held
  all_goals first | exact held | cases held

theorem balanceFailed_held (attempt : Nat) (e : String) (event : SubmitEvent Tx Balanced Out)
    (trace : List (SubmitEvent Tx Balanced Out)) (fate : Option Fate) :
    (⟨tx, (balanceFailed config attempt e event).phase, trace⟩ : Submit Tx Balanced Out).held fate =
      none := by
  unfold balanceFailed
  split <;> simp [Submit.held, Submit.sent]

/-- Only a reservation makes a submit hold something it has not held before. -/
theorem Pipeline.Moves.held {p : Pipeline Tx Balanced Out} (inv : p.Inv config)
    {input : PipelineStep Tx Balanced Out} {id : Nat} {s' : Submit Tx Balanced Out}
    (moves : Moves config p input id s') {fate : Option Fate} {balanced : Balanced}
    (held : s'.held fate = some balanced) :
    ∃ s, p.submits[id]? = some s ∧ (s.held fate = some balanced ∨
      input = .resume id (.reserved (.ok ())) ∧
        ∃ attempt, s.phase = .reserving attempt balanced) := by
  cases moves with
  | stays here => exact ⟨s', here, .inl held⟩
  | calls tx => simp [Submit.held, Submit.sent] at held
  | begins here job =>
    rename_i s phase events
    refine ⟨s, here, .inl ?_⟩
    unfold beginJob at job
    split at job
    all_goals
      obtain ⟨rfl, rfl⟩ := Prod.mk.inj job
    · simp [Submit.held, Submit.sent] at held
    · rename_i before
      simpa [Submit.held, before] using held
    · rw [List.append_nil] at held
      exact held
  | resumes here resumes =>
    rename_i s reply move
    refine ⟨s, here, ?_⟩
    have traced := inv.traced id s here
    unfold resume at resumes
    split at resumes
    all_goals first | (cases resumes; done) | rw [← Option.some.inj resumes] at held
    case h_4 => exact absurd held (by simp [balanceFailed_held])
    case h_6 => exact absurd held (by simp [balanceFailed_held])
    case h_5 attempt tx phase =>
      obtain rfl : tx = balanced := by simpa [Submit.held] using held
      exact .inr ⟨rfl, attempt, phase⟩
    case h_10 tx phase => exact .inl (by simpa [Submit.held, phase] using held)
    case h_11 tx out phase =>
      refine .inl ?_
      rw [phase] at traced
      simp only [Submit.held, Submit.sent, List.findSome?_append, traced.broadcastTx] at held
      split at held
      · cases held
      · simpa [Submit.held, phase] using held
    case h_12 tx e phase => exact .inl (by simpa [Submit.held, phase] using held)
    all_goals simp [Submit.held, Submit.sent] at held

/-- A submit comes to reserve what its balance has just selected. -/
theorem Pipeline.Moves.reserving {p : Pipeline Tx Balanced Out}
    {input : PipelineStep Tx Balanced Out} {id : Nat} {s' : Submit Tx Balanced Out}
    (moves : Moves config p input id s') {attempt : Nat} {balanced : Balanced}
    (reserving : s'.phase = .reserving attempt balanced) :
    p.submits[id]? = some s' ∨ input = .resume id (.balanced (.ok balanced)) := by
  cases moves with
  | stays here => exact .inl here
  | calls tx => cases reserving
  | begins here job =>
    rename_i s phase events
    unfold beginJob at job
    split at job
    all_goals
      obtain ⟨rfl, rfl⟩ := Prod.mk.inj job
    · cases reserving
    · cases reserving
    · rw [List.append_nil]
      exact .inl here
  | resumes here resumes =>
    unfold resume at resumes
    split at resumes
    all_goals first | (cases resumes; done) | rw [← Option.some.inj resumes] at reserving
    case h_3 =>
      cases reserving
      exact .inr rfl
    case h_4 | h_6 =>
      unfold balanceFailed at reserving
      split at reserving <;> cases reserving
    all_goals cases reserving

namespace Pipeline

/-- The job of a sweep holds the serializer. -/
theorem running_of_sweepGrace {config : ReaperConfig} {p : Pipeline Tx Balanced Out}
    (sweeping : (p.sweepGrace config).isSome) :
    p.serializer.running = some .maintenance ∨
      ∃ id s attempt, p.serializer.running = some (.submit id) ∧ p.submits[id]? = some s ∧
        s.phase = .reaping attempt := by
  unfold sweepGrace at sweeping
  split at sweeping
  · rename_i running
    exact .inl running
  · rename_i id running
    split at sweeping
    · rename_i attempt phase
      obtain ⟨s, here, phase⟩ := Option.map_eq_some_iff.mp phase
      exact .inr ⟨id, s, attempt, running, here, phase⟩
    · cases sweeping
  · cases sweeping

/-- While a sweep goes on, a submit in a serialized section is the one that waits for it. -/
theorem Inv.reaping_of_runs {config : ReaperConfig} {p : Pipeline Tx Balanced Out}
    (inv : p.Inv config.toPipelineConfig) (sweeping : (p.sweepGrace config).isSome) {id : Nat}
    {s : Submit Tx Balanced Out} (here : p.submits[id]? = some s) (busy : s.phase.runs id ≠ none) :
    ∃ attempt, s.phase = .reaping attempt := by
  obtain ⟨job, runs⟩ := Option.ne_none_iff_exists'.mp busy
  rcases running_of_sweepGrace sweeping with running | ⟨id', s', attempt, _, there, phase⟩
  · rw [inv.running here runs] at running
    have owner := SubmitPhase.owner_runs runs
    rw [Option.some.inj running] at owner
    cases owner
  · obtain rfl := inv.exclusive here there busy (by simp [phase, SubmitPhase.runs])
    obtain rfl := Option.some.inj (here.symm.trans there)
    exact ⟨attempt, phase⟩

theorem sweepGrace_congr {config : ReaperConfig} {p q : Pipeline Tx Balanced Out}
    (running : q.serializer.running = p.serializer.running)
    (phases : ∀ id : Nat, p.serializer.running = some (.submit id) →
      q.submits[id]?.map Submit.phase = p.submits[id]?.map Submit.phase) :
    q.sweepGrace config = p.sweepGrace config := by
  unfold sweepGrace
  rw [running]
  cases job : p.serializer.running with
  | none => rfl
  | some job' =>
    cases job' with
    | maintenance => rfl
    | revert id => rfl
    | submit id => simp only [phases id job]

theorem reaped_of_resume {config : PipelineConfig} {phase : SubmitPhase Balanced Out}
    {reply : Reply Balanced Out} {move : SubmitMove Tx Balanced Out} {attempt : Nat}
    (reaping : phase = .reaping attempt) (resumes : resume config tx phase reply = some move) :
    ∃ result, reply = .reaped result := by
  subst reaping
  unfold resume at resumes
  split at resumes
  all_goals first | (rename_i wrong; cases wrong; done) | (cases resumes; done) | skip
  all_goals exact ⟨_, rfl⟩

/-- Only the job that holds the serializer gives it back. -/
theorem running_of_idle {config : PipelineConfig} {p : Pipeline Tx Balanced Out} {id : Nat}
    {phase : SubmitPhase Balanced Out} {reply : Reply Balanced Out}
    {move : SubmitMove Tx Balanced Out} (idle : phase.runs id = none)
    (resumes : resume config tx phase reply = some move) :
    ((p.advance id move.phase move.events).useSerializer id move.use).serializer.running =
      p.serializer.running := by
  have uses := resume_use id resumes
  cases use : move.use with
  | keep => rfl
  | release =>
    rw [use] at uses
    exact absurd idle uses.1
  | enqueueRevert => rfl

/-- A sweep goes on, until its job's submit or the periodic job ends. -/
theorem sweepGrace_step {config : ReaperConfig} {p : Pipeline Tx Balanced Out}
    (inv : p.Inv config.toPipelineConfig) (input : PipelineStep Tx Balanced Out)
    (sweeping : (p.sweepGrace config).isSome) (unended : input ≠ .maintained)
    (unreaped : ∀ id result s, input = .resume id (.reaped result) → p.submits[id]? = some s →
      ∀ attempt, s.phase ≠ .reaping attempt) :
    (p.step config.toPipelineConfig input).sweepGrace config = p.sweepGrace config := by
  cases input with
  | submit tx =>
    refine sweepGrace_congr rfl fun id running => ?_
    have within : id < p.submits.length := by
      rcases running_of_sweepGrace sweeping with idle | ⟨id', s, _, running', here, _⟩
      · rw [running] at idle
        cases idle
      · rw [running] at running'
        cases running'
        exact (List.getElem?_eq_some_iff.mp here).1
    rw [step, List.getElem?_append_left within]
  | maintain => rfl
  | start =>
    have busy : p.serializer.start = none := by
      unfold Serializer.start
      rcases running_of_sweepGrace sweeping with running | ⟨_, _, _, running, _⟩ <;> simp [running]
    rw [step, busy]
  | maintained => exact absurd rfl unended
  | resume id reply =>
    rw [step]
    split
    · rfl
    · rename_i s here
      split
      · rfl
      · rename_i move resumes
        have idle : s.phase.runs id = none := by
          by_contra busy
          obtain ⟨attempt, phase⟩ := inv.reaping_of_runs sweeping here busy
          obtain ⟨result, rfl⟩ := reaped_of_resume phase resumes
          exact unreaped id result s rfl here attempt phase
        refine sweepGrace_congr (running_of_idle idle resumes) fun owner running => ?_
        have different : owner ≠ id := by
          rintro rfl
          have runs := (inv.fits.running owner _ rfl).mp running
          simp [runsAt, here, idle] at runs
        rw [submits_useSerializer, submits_advance here, if_neg different]

end Pipeline

/-! ## Claims on UTXOs -/

namespace Supervisor

variable {config : ReaperConfig}

def held (w : Supervisor Tx Balanced Out Utxo) (id : Nat) : Option Balanced :=
  w.pipeline.submits[id]?.bind fun s => s.held (w.fate id)

/-- A submit holds the transaction, or an entry of its is pending. -/
def Claims (w : Supervisor Tx Balanced Out Utxo) (id : Nat) (balanced : Balanced) : Prop :=
  w.held id = some balanced ∨ ∃ item ∈ w.all, item.submit = id ∧ item.tx = balanced

/-- A sweep has yet to look at the entry. -/
def Sweeps (w : Supervisor Tx Balanced Out Utxo) (id : Nat) (balanced : Balanced) : Prop :=
  ∃ sweep ∈ w.sweep, ∃ item ∈ sweep.items, item.submit = id ∧ item.tx = balanced

section

variable [DecidableEq Utxo] (inputs : Balanced → Finset Utxo) (config)

structure Inv (w : Supervisor Tx Balanced Out Utxo) : Prop where
  pipeline : w.pipeline.Inv config.toPipelineConfig
  /-- What is claimed no balance selects. -/
  covered : ∀ id balanced, w.Claims id balanced → inputs balanced ⊆ w.pendingDust ∪ w.spent
  apart : ∀ id id' balanced balanced', id ≠ id' →
    w.Claims id balanced ∨ w.Sweeps id balanced → w.Claims id' balanced' →
      Disjoint (inputs balanced) (inputs balanced')
  /-- What has been selected but not reserved yet nobody else claims. -/
  selected : ∀ (id : Nat) (s : Submit Tx Balanced Out) (attempt : Nat) (balanced : Balanced),
    w.pipeline.submits[id]? = some s → s.phase = .reserving attempt balanced →
    ∀ id' balanced', id' ≠ id →
      w.Claims id' balanced' → Disjoint (inputs balanced) (inputs balanced')
  sweeping : w.sweep.isSome → (w.pipeline.sweepGrace config).isSome

end

theorem inFlight_eq_some {w : Supervisor Tx Balanced Out Utxo} {id : Nat} {balanced : Balanced} :
    w.inFlight id = some balanced ↔
      w.fate id = none ∧ ∃ s, w.pipeline.submits[id]? = some s ∧ s.sent = some balanced := by
  unfold inFlight
  cases w.fate id <;> simp [Option.bind_eq_some_iff]

theorem held_of_dead {w : Supervisor Tx Balanced Out Utxo} {id : Nat} (dead : w.dead id = true) :
    w.held id = none := by
  simp only [Supervisor.dead, Bool.and_eq_true, Option.isNone_iff_eq_none] at dead
  obtain ⟨grounded, settled⟩ := dead
  unfold inFlight at grounded
  split at settled
  · rename_i result phase
    obtain ⟨s, here, phase⟩ := Option.map_eq_some_iff.mp phase
    rw [here] at grounded
    rw [held, here]
    simpa [Submit.held, phase] using grounded
  · cases settled

variable [DecidableEq Utxo] {inputs : Balanced → Finset Utxo}

theorem Inv.held_of_inFlight {w : Supervisor Tx Balanced Out Utxo} (inv : w.Inv config inputs)
    {id : Nat} {balanced : Balanced} (flies : w.inFlight id = some balanced) :
    w.held id = some balanced := by
  obtain ⟨fate, s, here, sent⟩ := inFlight_eq_some.mp flies
  rw [held, here, Option.bind_some, fate]
  exact Submit.held_of_sent (inv.pipeline.traced id s here) sent

theorem Inv.disjoint {w : Supervisor Tx Balanced Out Utxo} (inv : w.Inv config inputs)
    {id id' : Nat} {balanced balanced' : Balanced} (different : id ≠ id')
    (flies : w.inFlight id = some balanced) (flies' : w.inFlight id' = some balanced') :
    Disjoint (inputs balanced) (inputs balanced') :=
  inv.apart id id' balanced balanced' different (.inl (.inl (inv.held_of_inFlight flies)))
    (.inl (inv.held_of_inFlight flies'))

/-- A step after which there are no new claims, and after which what is still claimed is still
    covered. -/
theorem Inv.fewer {w w' : Supervisor Tx Balanced Out Utxo} (inv : w.Inv config inputs)
    (pipeline : w'.pipeline.Inv config.toPipelineConfig)
    (claims : ∀ id balanced, w'.Claims id balanced → w.Claims id balanced)
    (sweeps : ∀ id balanced, w'.Sweeps id balanced → w.Claims id balanced ∨ w.Sweeps id balanced)
    (covered : ∀ id balanced, w'.Claims id balanced →
      inputs balanced ⊆ w'.pendingDust ∪ w'.spent)
    (selected : ∀ (id : Nat) (s : Submit Tx Balanced Out) (attempt : Nat) (balanced : Balanced),
      w'.pipeline.submits[id]? = some s → s.phase = .reserving attempt balanced →
      w.pipeline.submits[id]? = some s ∨
        Disjoint (inputs balanced) (w.pendingDust ∪ w.spent))
    (sweeping : w'.sweep.isSome → (w'.pipeline.sweepGrace config).isSome) :
    w'.Inv config inputs where
  pipeline := pipeline
  covered := covered
  apart := by
    intro id id' balanced balanced' different claimed claimed'
    refine inv.apart id id' balanced balanced' different ?_ (claims id' balanced' claimed')
    rcases claimed with claimed | swept
    · exact .inl (claims id balanced claimed)
    · exact sweeps id balanced swept
  selected := by
    intro id s attempt balanced here reserving id' balanced' different claimed
    rcases selected id s attempt balanced here reserving with before | unmarked
    · exact inv.selected id s attempt balanced before reserving id' balanced' different
        (claims id' balanced' claimed)
    · exact unmarked.mono_right (inv.covered id' balanced' (claims id' balanced' claimed))
  sweeping := sweeping

/-- The pipeline moves, nothing is reserved and a balance selects what is free. -/
theorem Inv.advanced {w : Supervisor Tx Balanced Out Utxo} (inv : w.Inv config inputs)
    (input : PipelineStep Tx Balanced Out)
    (unreserved : ∀ (id : Nat) (s : Submit Tx Balanced Out),
      input = .resume id (.reserved (.ok ())) → w.pipeline.submits[id]? = some s →
        ∀ attempt balanced, s.phase ≠ .reserving attempt balanced)
    (balances : ∀ id balanced, input = .resume id (.balanced (.ok balanced)) →
      Disjoint (inputs balanced) (w.pendingDust ∪ w.spent))
    (sweeping : w.sweep.isSome →
      ((w.pipeline.step config.toPipelineConfig input).sweepGrace config).isSome) :
    (w.advance config input).Inv config inputs := by
  have claims (id : Nat) (balanced : Balanced)
      (claimed : (w.advance config input).Claims id balanced) : w.Claims id balanced := by
    rcases claimed with held | pending
    · obtain ⟨s', there, held⟩ := Option.bind_eq_some_iff.mp held
      obtain ⟨s, here, before | ⟨reserves, attempt, reserving⟩⟩ :=
        (Pipeline.moves_step there).held inv.pipeline held
      · exact .inl (Option.bind_eq_some_iff.mpr ⟨s, here, before⟩)
      · exact absurd reserving (unreserved id s reserves here attempt balanced)
    · exact .inr pending
  refine inv.fewer (Pipeline.inv_step inv.pipeline input) claims
    (fun id balanced swept => .inr swept) (fun id balanced claimed => inv.covered id balanced (claims id balanced claimed)) ?_ sweeping
  intro id s attempt balanced there reserving
  rcases (Pipeline.moves_step there).reserving reserving with before | answer
  · exact .inl before
  · exact .inr (balances id balanced answer)

theorem Inv.swept {w : Supervisor Tx Balanced Out Utxo} (inv : w.Inv config inputs) :
    { w with sweep := none }.Inv config inputs :=
  inv.fewer inv.pipeline (fun _ _ claimed => claimed)
    (fun _ _ ⟨_, absent, _⟩ => by cases absent) inv.covered
    (fun _ _ _ _ here _ => .inl here) (fun begun => by cases begun)

/-- A revert takes no mark away from what others claim. -/
theorem Inv.covered_revert {w : Supervisor Tx Balanced Out Utxo} (inv : w.Inv config inputs)
    {id id' : Nat} {balanced balanced' : Balanced}
    (reverted : w.Claims id balanced ∨ w.Sweeps id balanced) (different : id ≠ id')
    (claimed : w.Claims id' balanced') :
    inputs balanced' ⊆ w.pendingDust \ inputs balanced ∪ w.spent := by
  intro utxo uses
  have covered := inv.covered id' balanced' claimed uses
  have other : utxo ∉ inputs balanced := fun shared =>
    Finset.disjoint_left.mp (inv.apart id id' balanced balanced' different reverted claimed)
      shared uses
  simp only [Finset.mem_union, Finset.mem_sdiff] at covered ⊢
  rcases covered with marked | spent
  · exact .inl ⟨marked, other⟩
  · exact .inr spent

theorem claims_revert {w : Supervisor Tx Balanced Out Utxo} {id id' : Nat}
    {balanced balanced' : Balanced} (claimed : (w.revert inputs id balanced).Claims id' balanced') :
    w.Claims id' balanced' ∧ (id' = id → w.held id = some balanced') := by
  rcases claimed with held | ⟨item, pending, rfl, rfl⟩
  · refine ⟨.inl held, ?_⟩
    rintro rfl
    exact held
  · obtain ⟨member, other⟩ := List.mem_filter.mp pending
    refine ⟨.inr ⟨item, member, rfl, rfl⟩, fun same => ?_⟩
    simp [same] at other

/-- The revert of a transaction nobody holds. -/
theorem Inv.reverted {w : Supervisor Tx Balanced Out Utxo} (inv : w.Inv config inputs) {id : Nat}
    {balanced : Balanced} (claimed : w.Claims id balanced ∨ w.Sweeps id balanced)
    (unheld : w.held id = none) : (w.revert inputs id balanced).Inv config inputs := by
  refine inv.fewer inv.pipeline (fun _ _ claimed => (claims_revert claimed).1)
    (fun _ _ swept => .inr swept) (fun id' balanced' claimed' => ?_)
    (fun _ _ _ _ here _ => .inl here) inv.sweeping
  obtain ⟨before, own⟩ := claims_revert claimed'
  have different : id ≠ id' := by
    intro same
    rw [own same.symm] at unheld
    cases unheld
  exact inv.covered_revert claimed different before

/-- What a sweep is about to revert is dead. -/
def spares (w : Supervisor Tx Balanced Out Utxo) (input : SupervisorStep Tx Balanced Out) : Bool :=
  match input, w.sweep with
  | .sweepNext true, some ⟨grace, nowMs, item :: _⟩ =>
    !item.stale grace nowMs || w.dead item.submit
  | _, _ => true

theorem Inv.looked {w : Supervisor Tx Balanced Out Utxo} (inv : w.Inv config inputs) {grace : Nat}
    {nowMs : Int} {item : PendingTx Balanced} {items : List (PendingTx Balanced)}
    (sweeping : w.sweep = some ⟨grace, nowMs, item :: items⟩) :
    { w with sweep := some ⟨grace, nowMs, items⟩ }.Inv config inputs := by
  refine inv.fewer inv.pipeline (fun _ _ claimed => claimed) (fun id balanced swept => ?_)
    inv.covered (fun _ _ _ _ here _ => .inl here) fun _ => inv.sweeping (by simp [sweeping])
  obtain ⟨_, here, other, member, same⟩ := swept
  cases here
  exact .inr ⟨_, sweeping, other, List.mem_cons_of_mem item member, same⟩

theorem Inv.sweepNext {w : Supervisor Tx Balanced Out Utxo} (inv : w.Inv config inputs)
    {reverts : Bool} (spares : w.spares (.sweepNext reverts) = true) :
    (w.step inputs config (.sweepNext reverts)).Inv config inputs := by
  rw [step]
  split
  · rename_i grace nowMs item items sweeping
    unfold sweepItem
    split
    · rename_i reverting
      obtain ⟨stale, rfl⟩ := Bool.and_eq_true_iff.mp reverting
      have dead : w.dead item.submit = true := by
        simpa [Supervisor.spares, sweeping, stale] using spares
      -- the entry is still the sweep's while it is reverted
      have reverted := inv.reverted
        (.inr ⟨_, sweeping, item, List.mem_cons_self, rfl, rfl⟩) (held_of_dead dead)
      exact reverted.looked sweeping
    · exact inv.looked sweeping
  · exact inv

/-! ## The answers of the wallet -/

theorem Inv.begins {w : Supervisor Tx Balanced Out Utxo} (inv : w.Inv config inputs) {grace : Nat}
    (nowMs : Int) (sweeping : w.pipeline.sweepGrace config = some grace) :
    { w with sweep := some ⟨grace, nowMs, w.all⟩ }.Inv config inputs := by
  refine inv.fewer inv.pipeline (fun _ _ claimed => claimed) (fun id balanced swept => ?_)
    inv.covered (fun _ _ _ _ here _ => .inl here) fun _ => by simp [sweeping]
  obtain ⟨_, here, item, member, same⟩ := swept
  cases here
  exact .inl (.inr ⟨item, member, same⟩)

/-- The claims of a submit whose transaction ends can only become fewer. -/
theorem Inv.ends {w : Supervisor Tx Balanced Out Utxo} (inv : w.Inv config inputs) (id : Nat)
    (fate : Fate) :
    { w with fate := Function.update w.fate id (some fate) }.Inv config inputs := by
  have claims (id' : Nat) (balanced : Balanced)
      (claimed : { w with fate := Function.update w.fate id (some fate) }.Claims id' balanced) :
      w.Claims id' balanced := by
    rcases claimed with holds | pending
    · refine .inl ?_
      obtain ⟨s, here, holds⟩ := Option.bind_eq_some_iff.mp holds
      refine Option.bind_eq_some_iff.mpr ⟨s, here, ?_⟩
      by_cases same : id' = id
      · subst same
        simp only [Function.update_self] at holds
        exact Submit.held_of_ended holds
      · simpa only [Function.update_of_ne same] using holds
    · exact .inr pending
  exact inv.fewer inv.pipeline claims (fun _ _ swept => .inr swept)
    (fun id' balanced claimed => inv.covered id' balanced (claims id' balanced claimed))
    (fun _ _ _ _ here _ => .inl here) inv.sweeping

/-- What the wallet learns to be spent it has not selected. -/
theorem Inv.observes {w : Supervisor Tx Balanced Out Utxo} (inv : w.Inv config inputs) (id : Nat)
    (balanced : Balanced) :
    { w.revert inputs id balanced with spent := w.spent ∪ inputs balanced }.Inv config inputs := by
  have claims (id' : Nat) (balanced' : Balanced)
      (claimed : (w.revert inputs id balanced).Claims id' balanced') : w.Claims id' balanced' :=
    (claims_revert claimed).1
  refine inv.fewer inv.pipeline claims (fun _ _ swept => .inr swept)
    (fun id' balanced' claimed => ?_) (fun _ _ _ _ here _ => .inl here) inv.sweeping
  have covered := inv.covered id' balanced' (claims id' balanced' claimed)
  intro utxo uses
  have available := covered uses
  simp only [revert, Finset.mem_union, Finset.mem_sdiff] at available ⊢
  tauto

/-- The reservation marks what the balance has selected. -/
theorem Inv.reserved {w : Supervisor Tx Balanced Out Utxo} (inv : w.Inv config inputs) {id : Nat}
    {s : Submit Tx Balanced Out} {attempt : Nat} {balanced : Balanced}
    (here : w.pipeline.submits[id]? = some s) (reserving : s.phase = .reserving attempt balanced)
    (createdMs : Option Int) :
    ((w.reserve inputs id balanced createdMs).advance config
      (.resume id (.reserved (.ok ())))).Inv config inputs := by
  have claims (id' : Nat) (balanced' : Balanced)
      (claimed : ((w.reserve inputs id balanced createdMs).advance config
        (.resume id (.reserved (.ok ())))).Claims id' balanced') :
      w.Claims id' balanced' ∨ id' = id ∧ balanced' = balanced := by
    rcases claimed with held | ⟨item, pending, rfl, rfl⟩
    · obtain ⟨s', there, held⟩ := Option.bind_eq_some_iff.mp held
      obtain ⟨s'', before, holds | ⟨reserves, attempt', reserving'⟩⟩ :=
        (Pipeline.moves_step there).held inv.pipeline held
      · exact .inl (.inl (Option.bind_eq_some_iff.mpr ⟨s'', before, holds⟩))
      · cases reserves
        obtain rfl := Option.some.inj (here.symm.trans before)
        rw [reserving] at reserving'
        cases reserving'
        exact .inr ⟨rfl, rfl⟩
    · rcases List.mem_append.mp pending with before | new
      · exact .inl (.inr ⟨item, before, rfl, rfl⟩)
      · obtain rfl := List.mem_singleton.mp new
        exact .inr ⟨rfl, rfl⟩
  -- no sweep is under way: its job would hold the serializer
  have unswept : w.sweep = none := by
    by_contra sweeping
    have grace := inv.sweeping (Option.isSome_iff_ne_none.mpr sweeping)
    obtain ⟨attempt', reaping⟩ := inv.pipeline.reaping_of_runs grace here
      (by simp [reserving, SubmitPhase.runs])
    rw [reserving] at reaping
    cases reaping
  have selected (id' : Nat) (balanced' : Balanced) (different : id' ≠ id)
      (claimed : w.Claims id' balanced') : Disjoint (inputs balanced) (inputs balanced') :=
    inv.selected id s attempt balanced here reserving id' balanced' different claimed
  refine ⟨Pipeline.inv_step inv.pipeline (.resume id (.reserved (.ok ()))), ?_, ?_, ?_, ?_⟩
  · intro id' balanced' claimed utxo uses
    show utxo ∈ w.pendingDust ∪ inputs balanced ∪ w.spent
    rcases claims id' balanced' claimed with before | ⟨rfl, rfl⟩
    · have covered := inv.covered id' balanced' before uses
      simp only [Finset.mem_union] at covered ⊢
      tauto
    · simp [uses]
  · intro id₁ id₂ balanced₁ balanced₂ different claimed₁ claimed₂
    have claimed₁ : w.Claims id₁ balanced₁ ∨ id₁ = id ∧ balanced₁ = balanced := by
      rcases claimed₁ with claimed | ⟨sweep, sweeping, _⟩
      · exact claims id₁ balanced₁ claimed
      · change sweep ∈ w.sweep at sweeping
        rw [unswept] at sweeping
        cases sweeping
    rcases claimed₁ with before₁ | ⟨rfl, rfl⟩
    · rcases claims id₂ balanced₂ claimed₂ with before₂ | ⟨rfl, rfl⟩
      · exact inv.apart id₁ id₂ balanced₁ balanced₂ different (.inl before₁) before₂
      · exact (selected id₁ balanced₁ different before₁).symm
    · rcases claims id₂ balanced₂ claimed₂ with before₂ | ⟨same, _⟩
      · exact selected id₂ balanced₂ different.symm before₂
      · exact absurd same.symm different
  · intro id₁ s₁ attempt₁ balanced₁ there reserving₁ id₂ balanced₂ different claimed
    rcases (Pipeline.moves_step there).reserving reserving₁ with before | answer
    · obtain rfl := inv.pipeline.exclusive before here (by simp [reserving₁, SubmitPhase.runs])
        (by simp [reserving, SubmitPhase.runs])
      rcases claims id₂ balanced₂ claimed with claimed | ⟨same, _⟩
      · exact inv.selected id₁ s₁ attempt₁ balanced₁ before reserving₁ id₂ balanced₂ different
          claimed
      · exact absurd same different
    · cases answer
  · intro begun
    change w.sweep.isSome at begun
    rw [unswept] at begun
    cases begun

/-- A submit's own revert takes away marks that are its own. -/
theorem Inv.ownRevert {w : Supervisor Tx Balanced Out Utxo} (inv : w.Inv config inputs) {id : Nat}
    {s : Submit Tx Balanced Out} {balanced : Balanced} {e : String}
    (here : w.pipeline.submits[id]? = some s) (reverting : s.phase = .reverting balanced e) :
    ((w.revert inputs id balanced).advance config (.resume id (.reverted (.ok ())))).Inv config
      inputs := by
  have own : w.Claims id balanced :=
    .inl (Option.bind_eq_some_iff.mpr ⟨s, here, by simp [Submit.held, reverting]⟩)
  have settled : ((w.pipeline.step config.toPipelineConfig
      (.resume id (.reverted (.ok ())))).submits[id]?).bind
        (fun s => s.held (w.fate id)) = none := by
    rw [Pipeline.submits_resumed here (by rw [reverting]; rfl)]
    simp [Submit.held, Submit.sent]
  have claims (id' : Nat) (balanced' : Balanced)
      (claimed : ((w.revert inputs id balanced).advance config
        (.resume id (.reverted (.ok ())))).Claims id' balanced') :
      w.Claims id' balanced' ∧ id ≠ id' := by
    rcases claimed with held | ⟨item, pending, rfl, rfl⟩
    · refine ⟨?_, ?_⟩
      · obtain ⟨s', there, held⟩ := Option.bind_eq_some_iff.mp held
        obtain ⟨s'', before, holds | ⟨reserves, _⟩⟩ :=
          (Pipeline.moves_step there).held inv.pipeline held
        · exact .inl (Option.bind_eq_some_iff.mpr ⟨s'', before, holds⟩)
        · cases reserves
      · rintro rfl
        have nothing := held.symm.trans settled
        cases nothing
    · obtain ⟨member, other⟩ := List.mem_filter.mp pending
      exact ⟨.inr ⟨item, member, rfl, rfl⟩, fun same => by simp [same] at other⟩
  refine inv.fewer (Pipeline.inv_step inv.pipeline (.resume id (.reverted (.ok ()))))
    (fun id' balanced' claimed => (claims id' balanced' claimed).1) (fun _ _ swept => .inr swept)
    (fun id' balanced' claimed => ?_) (fun id' s' attempt balanced' there reserving => ?_)
    fun begun => ?_
  · obtain ⟨before, different⟩ := claims id' balanced' claimed
    exact inv.covered_revert (.inl own) different before
  · rcases (Pipeline.moves_step there).reserving reserving with before | answer
    · exact .inl before
    · cases answer
  · have sweeping := inv.sweeping begun
    obtain ⟨_, reaping⟩ := inv.pipeline.reaping_of_runs sweeping here
      (by simp [reverting, SubmitPhase.runs])
    rw [reverting] at reaping
    cases reaping

theorem Inv.resumed {w : Supervisor Tx Balanced Out Utxo} (inv : w.Inv config inputs) {id : Nat}
    {s : Submit Tx Balanced Out} (here : w.pipeline.submits[id]? = some s)
    (reply : Reply Balanced Out) (createdMs : Option Int)
    (answers : w.answers inputs reply = true) :
    ((w.perform inputs id createdMs s.phase reply).advance config (.resume id reply)).Inv config
      inputs := by
  unfold perform
  split
  · rename_i attempt balanced reserving
    exact inv.reserved here reserving createdMs
  · rename_i balanced e reverting
    exact inv.ownRevert here reverting
  · refine inv.swept.advanced _ ?_ ?_ fun begun => by cases begun
    · intro id s same
      cases same
    · intro id balanced same
      cases same
  · rename_i unreserved unreverted unreaped
    refine inv.advanced _ ?_ ?_ ?_
    · rintro id' s' same there attempt balanced reserving
      cases same
      obtain rfl := Option.some.inj (here.symm.trans there)
      exact unreserved attempt balanced reserving rfl
    · intro id' balanced same
      cases same
      exact of_decide_eq_true answers
    · intro begun
      rw [Pipeline.sweepGrace_step inv.pipeline _ (inv.sweeping begun) (by simp) ?_]
      · exact inv.sweeping begun
      · rintro id' result s' same there attempt reaping
        cases same
        obtain rfl := Option.some.inj (here.symm.trans there)
        exact unreaped attempt result reaping rfl

theorem Inv.step {w : Supervisor Tx Balanced Out Utxo} (inv : w.Inv config inputs)
    (input : SupervisorStep Tx Balanced Out) (spares : w.spares input = true) :
    (w.step inputs config input).Inv config inputs := by
  have advanced (input : PipelineStep Tx Balanced Out) (unended : input ≠ .maintained)
      (unanswered : ∀ id reply, input ≠ .resume id reply) :
      (w.advance config input).Inv config inputs := by
    refine inv.advanced input (fun id s same => absurd same (unanswered _ _))
      (fun id balanced same => absurd same (unanswered _ _)) fun begun => ?_
    rw [Pipeline.sweepGrace_step inv.pipeline input (inv.sweeping begun) unended
      fun id result s same => absurd same (unanswered _ _)]
    exact inv.sweeping begun
  cases input with
  | submit tx => exact advanced _ (by simp) (by simp)
  | reapDue => exact advanced _ (by simp) (by simp)
  | start => exact advanced _ (by simp) (by simp)
  | resume id reply createdMs =>
    rw [Supervisor.step]
    split
    · exact inv
    · rename_i s here
      split
      · rename_i answers
        exact inv.resumed here reply createdMs answers
      · exact inv
  | sweepBegins nowMs =>
    rw [Supervisor.step]
    split
    · rename_i grace sweeping _
      exact inv.begins nowMs sweeping
    · exact inv
  | sweepNext reverts => exact inv.sweepNext spares
  | sweepEnds =>
    rw [Supervisor.step]
    split
    · refine inv.swept.advanced _ ?_ ?_ fun begun => by cases begun
      · intro id s same
        cases same
      · intro id balanced same
        cases same
    · exact inv
  | ends id fate =>
    rw [Supervisor.step]
    split
    · exact inv.ends id fate
    · exact inv
  | observes id =>
    rw [Supervisor.step]
    split
    · exact inv.observes id _
    · exact inv

theorem inv_empty : (empty : Supervisor Tx Balanced Out Utxo).Inv config inputs where
  pipeline := Pipeline.inv_run config.toPipelineConfig []
  covered := by
    rintro id balanced (held | ⟨item, pending, _⟩)
    · cases held
    · cases pending
  apart := by
    rintro id id' balanced balanced' _ _ (held | ⟨item, pending, _⟩)
    · cases held
    · cases pending
  selected := by
    intro id s attempt balanced here
    cases here
  sweeping := fun begun => by cases begun

end Supervisor

/-- In-flight transactions of different submits use different UTXOs. -/
def Supervisor.Exclusive (inputs : Balanced → Finset Utxo) (w : Supervisor Tx Balanced Out Utxo) :
    Prop :=
  ∀ id id' balanced balanced', id ≠ id' → w.inFlight id = some balanced →
    w.inFlight id' = some balanced' → Disjoint (inputs balanced) (inputs balanced')

/-- Along every run of submits, sweeps and elapsed times in which each transaction that a sweep
    reverts is dead by then, no two transactions in flight share a UTXO. -/
theorem in_flight_disjoint [DecidableEq Utxo] (inputs : Balanced → Finset Utxo)
    (config : ReaperConfig) (steps : List (SupervisorStep Tx Balanced Out))
    (spares : ∀ past next, past ++ [next] <+: steps →
      (supervisorRun inputs config past).spares next = true) :
    ∀ past, past <+: steps → (supervisorRun inputs config past).Exclusive inputs := by
  have invariant : ∀ past, past <+: steps →
      (supervisorRun inputs config past).Inv config inputs := by
    refine Runs.reached_induction Supervisor.inv_empty fun past next reached inv => ?_
    have step := inv.step next (spares past next reached)
    unfold supervisorRun at step ⊢
    rwa [Runs.run_concat]
  intro past reached id id' balanced balanced' different flies flies'
  exact (invariant past reached).disjoint different flies flies'

/-! ## A reservation taken away -/

/-- The settings the sidecar runs with when its environment sets none. -/
def defaultReaper : ReaperConfig := ⟨⟨3000, some 90000, some 3⟩, 35 * 60000⟩

/-- A transaction is its inputs here; the first submit broadcasts one. -/
def sampleBroadcast : List (SupervisorStep Unit (Finset Nat) Unit) :=
  [.submit (), .start, .resume 0 (.ready (.ok ())) none, .resume 0 (.balanced (.ok {0})) none,
    .resume 0 (.reserved (.ok ())) (some 0), .resume 0 .serialized none,
    .resume 0 (.broadcast (.ok ())) none]

/-- The second submit runs into a shortfall 90 s later, sweeps, and balances again. -/
def sampleShortfall : List (SupervisorStep Unit (Finset Nat) Unit) :=
  [.submit (), .start, .resume 1 (.ready (.ok ())) none,
    .resume 1 (.balanced (.error "Insufficient Funds: could not balance dust")) none,
    .sweepBegins 90000, .sweepNext true, .resume 1 (.reaped (.ok ())) none, .resume 1 .woken none,
    .resume 1 (.balanced (.ok {0})) none, .resume 1 (.reserved (.ok ())) (some 93000),
    .resume 1 .serialized none]

/-- The mempool has dropped the first transaction before the second submit comes. -/
theorem in_flight_disjoint_after_drop :
    (supervisorRun (fun tx => tx) defaultReaper
      (sampleBroadcast ++ [.ends 0 .dropped] ++ sampleShortfall)).Exclusive (fun tx => tx) ∧
    (supervisorRun (fun tx => tx) defaultReaper
      (sampleBroadcast ++ [.ends 0 .dropped] ++ sampleShortfall)).inFlight 1 = some {0} := by
  refine ⟨in_flight_disjoint (fun tx => tx) defaultReaper _ (Runs.forall_reached ?_) _
    (List.prefix_refl _), by decide⟩
  decide

/-- The first transaction is still in flight when the second one is broadcast with its input. -/
theorem swept_in_flight_shared :
    (supervisorRun (fun tx => tx) defaultReaper (sampleBroadcast ++ sampleShortfall)).inFlight 0 =
      some {0} ∧
    (supervisorRun (fun tx => tx) defaultReaper (sampleBroadcast ++ sampleShortfall)).inFlight 1 =
      some {0} ∧
    ¬ (supervisorRun (fun tx => tx) defaultReaper
      (sampleBroadcast ++ sampleShortfall)).Exclusive (fun tx => tx) := by
  have first : (supervisorRun (fun tx => tx) defaultReaper
      (sampleBroadcast ++ sampleShortfall)).inFlight 0 = some {0} := by decide
  have second : (supervisorRun (fun tx => tx) defaultReaper
      (sampleBroadcast ++ sampleShortfall)).inFlight 1 = some {0} := by decide
  refine ⟨first, second, fun exclusive => ?_⟩
  have disjoint := exclusive 0 1 {0} {0} (by decide) first second
  exact absurd disjoint (by decide)

end

end OwlId.Sidecar
