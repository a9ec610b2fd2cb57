import Mathlib
import OwlId.Lib.Promises
import OwlId.Lib.Runs

/-! # Promise chains as mutexes

Two parts of the sidecar run jobs one at a time by appending each to a chain of promises: the
wallet supervisor's `serialize`, and `runCallTx`, which also sets the witness of the call for
as long as its job runs.  Both are a line of jobs (`InLine`): the heap of promises is read as a
stage for each call, and no call leaves the line before the one in front has left its link.
-/

namespace OwlId.Sidecar

open OwlId.Lib

/-! ## A line of jobs -/

/-- How far a call has come: its job called, its promise settled, the function around it done,
    the caller's promise settled, the link for the next call settled. -/
inductive Stage (V : Type) where
  | absent
  | waiting
  | called
  | finished (outcome : Settlement V)
  | closed (outcome : Settlement V)
  | settled (outcome : Settlement V)
  | linked (outcome : Settlement V)

namespace Stage

variable {V : Type}

def hasStarted : Stage V → Bool
  | .absent | .waiting => false
  | _ => true

def isLinked : Stage V → Bool
  | .linked _ => true
  | _ => false

end Stage

section

variable {V : Type}

/-- The calls made so far, served from the first on, each when the one before has linked. -/
structure InLine (stages : Nat → Stage V) (calls : Nat) (started : List Nat) : Prop where
  absent : ∀ i, stages i = .absent ↔ calls ≤ i
  inOrder : ∀ i j, j < i → (stages i).hasStarted = true → (stages j).isLinked = true
  served : started = List.range started.length
  begun : ∀ i, (stages i).hasStarted = true ↔ i < started.length

def PreviousLinked (stages : Nat → Stage V) (i : Nat) : Prop :=
  ∀ k, k + 1 = i → (stages k).isLinked = true

variable {stages : Nat → Stage V} {calls : Nat} {started : List Nat}

theorem Stage.hasStarted_of_isLinked {stage : Stage V} (linked : stage.isLinked = true) :
    stage.hasStarted = true := by
  cases stage with
  | linked => rfl
  | _ => cases linked

theorem InLine.lt_calls (line : InLine stages calls started) {i : Nat}
    (present : stages i ≠ .absent) : i < calls := by
  rw [Ne, line.absent, not_le] at present
  exact present

theorem InLine.init : InLine (fun _ => (.absent : Stage V)) 0 [] where
  absent _ := ⟨fun _ => Nat.zero_le _, fun _ => rfl⟩
  inOrder _ _ _ begun := by cases begun
  served := rfl
  begun _ := ⟨nofun, nofun⟩

theorem InLine.call (line : InLine stages calls started) :
    InLine (Function.update stages calls .waiting) (calls + 1) started where
  absent i := by
    by_cases here : i = calls
    · subst here
      rw [Function.update_self]
      exact ⟨nofun, fun past => absurd past (by omega)⟩
    · rw [Function.update_of_ne here, line.absent]
      omega
  inOrder i j before begun := by
    have fresh : (stages calls).hasStarted = false := by rw [(line.absent calls).mpr le_rfl]; rfl
    by_cases here : i = calls
    · rw [here, Function.update_self] at begun
      cases begun
    · rw [Function.update_of_ne here] at begun
      have linked := line.inOrder i j before begun
      have other : j ≠ calls := by
        rintro rfl
        rw [Stage.hasStarted_of_isLinked linked] at fresh
        cases fresh
      rwa [Function.update_of_ne other]
  served := line.served
  begun i := by
    by_cases here : i = calls
    · subst here
      have fresh : ¬(stages i).hasStarted = true := by rw [(line.absent i).mpr le_rfl]; nofun
      rw [Function.update_self, ← line.begun]
      exact iff_of_false nofun fresh
    · rw [Function.update_of_ne here, line.begun]

/-- A call whose turn it is leaves the line. -/
theorem InLine.start (line : InLine stages calls started) {i : Nat} {next : Stage V}
    (waiting : stages i = .waiting) (previous : PreviousLinked stages i)
    (begun : next.hasStarted = true) :
    InLine (Function.update stages i next) calls (started ++ [i]) := by
  -- it is the first that has not started
  have notBegun : ¬i < started.length := by
    rw [← line.begun, waiting]
    nofun
  have here : i = started.length := by
    cases i with
    | zero => omega
    | succ k =>
      have front := (line.begun k).mp (Stage.hasStarted_of_isLinked (previous k rfl))
      omega
  have before : ∀ j, j < i → (stages j).isLinked = true := by
    intro j earlier
    cases i with
    | zero => omega
    | succ k =>
      by_cases last : j = k
      · rw [last]
        exact previous k rfl
      · exact line.inOrder k j (by omega) (Stage.hasStarted_of_isLinked (previous k rfl))
  constructor
  · intro k
    by_cases same : k = i
    · subst same
      rw [Function.update_self, ← line.absent, waiting]
      refine iff_of_false ?_ nofun
      rintro rfl
      cases begun
    · rw [Function.update_of_ne same, line.absent]
  · intro k j earlier begunK
    by_cases same : k = i
    · subst same
      rw [Function.update_of_ne (by omega)]
      exact before j earlier
    · rw [Function.update_of_ne same] at begunK
      have bound := (line.begun k).mp begunK
      rw [Function.update_of_ne (by omega)]
      exact line.inOrder k j earlier begunK
  · rw [List.length_append, List.length_singleton, List.range_succ, ← line.served, here]
  · intro k
    rw [List.length_append, List.length_singleton]
    by_cases same : k = i
    · subst same
      rw [Function.update_self]
      exact iff_of_true begun (by omega)
    · rw [Function.update_of_ne same, line.begun]
      omega

/-- A call that has started goes on. -/
theorem InLine.move (line : InLine stages calls started) {i : Nat} {next : Stage V}
    (begun : (stages i).hasStarted = true) (begun' : next.hasStarted = true)
    (unlinked : (stages i).isLinked = false) :
    InLine (Function.update stages i next) calls started := by
  have same : ∀ k, (Function.update stages i next k).hasStarted = (stages k).hasStarted := by
    intro k
    by_cases here : k = i
    · rw [here, Function.update_self, begun, begun']
    · rw [Function.update_of_ne here]
  constructor
  · intro k
    by_cases here : k = i
    · subst here
      rw [Function.update_self, ← line.absent]
      constructor
      · rintro rfl
        cases begun'
      · intro none
        rw [none] at begun
        cases begun
    · rw [Function.update_of_ne here, line.absent]
  · intro k j earlier begunK
    rw [same] at begunK
    have linked := line.inOrder k j earlier begunK
    have other : j ≠ i := by
      rintro rfl
      rw [unlinked] at linked
      cases linked
    rwa [Function.update_of_ne other]
  · exact line.served
  · intro k
    rw [same, line.begun]

/-- At most one call is between its start and its link. -/
theorem InLine.unique (line : InLine stages calls started) {i j : Nat}
    (begunI : (stages i).hasStarted = true) (unlinkedI : (stages i).isLinked = false)
    (begunJ : (stages j).hasStarted = true) (unlinkedJ : (stages j).isLinked = false) : i = j := by
  by_contra different
  rcases Nat.lt_or_gt_of_ne different with before | after
  · rw [line.inOrder j i before begunJ] at unlinkedI
    cases unlinkedI
  · rw [line.inOrder i j after begunI] at unlinkedJ
    cases unlinkedJ

/-! ### Counting the line -/

/-- The calls whose link has not settled. -/
def unlinked (stages : Nat → Stage V) (calls : Nat) : Nat :=
  ((Finset.range calls).filter fun i => (stages i).isLinked = false).card

theorem unlinked_call :
    unlinked (Function.update stages calls .waiting) (calls + 1) = unlinked stages calls + 1 := by
  have added : (Finset.range (calls + 1)).filter (fun i =>
      (Function.update stages calls .waiting i).isLinked = false) =
      insert calls ((Finset.range calls).filter fun i => (stages i).isLinked = false) := by
    ext i
    by_cases here : i = calls
    · rw [here, Finset.mem_filter, Function.update_self]
      simp [Stage.isLinked]
    · simp only [Finset.mem_filter, Finset.mem_range, Finset.mem_insert,
        Function.update_of_ne here, here, false_or]
      exact and_congr_left fun _ => by omega
  rw [unlinked, added, Finset.card_insert_of_notMem (by simp), unlinked]

theorem unlinked_move {i : Nat} {next : Stage V}
    (same : next.isLinked = (stages i).isLinked) :
    unlinked (Function.update stages i next) calls = unlinked stages calls := by
  have kept : ∀ k, (Function.update stages i next k).isLinked = (stages k).isLinked := by
    intro k
    by_cases here : k = i
    · rw [here, Function.update_self, same]
    · rw [Function.update_of_ne here]
  simp only [unlinked, kept]

theorem unlinked_link (line : InLine stages calls started) {i : Nat} {next : Stage V}
    (begun : (stages i).hasStarted = true) (before : (stages i).isLinked = false)
    (after : next.isLinked = true) :
    unlinked stages calls = unlinked (Function.update stages i next) calls + 1 := by
  have present : i < calls := by
    apply line.lt_calls
    intro none
    rw [none] at begun
    cases begun
  have erased : (Finset.range calls).filter (fun k =>
      (Function.update stages i next k).isLinked = false) =
      ((Finset.range calls).filter fun k => (stages k).isLinked = false).erase i := by
    ext k
    by_cases here : k = i
    · simp [here, after]
    · simp [here]
  have member : i ∈ (Finset.range calls).filter fun k => (stages k).isLinked = false := by
    simp [present, before]
  rw [unlinked, unlinked, erased, Finset.card_erase_add_one member]

end

/-! ## `serialize` -/

/-- The promises of the `i`-th call: the one its job returns, the one it returns to its caller,
    and the link for the next call. -/
inductive WriteName where
  | start
  | job (i : Nat)
  | next (i : Nat)
  | link (i : Nat)
deriving DecidableEq

inductive WriteHandler where
  | fn (i : Nat)
  | countDown

structure WriteQueue (V : Type) where
  heap : PromiseHeap WriteName WriteHandler V
  writeChain : WriteName
  writeQueueDepth : Int
  calls : Nat
  /-- The jobs in the order they were called. -/
  started : List Nat

/-- What calling a job does: it throws, or returns a promise. -/
inductive JobCall (V : Type) where
  | throws (error : V)
  | returns

inductive WriteEvent (V : Type) where
  | serialize
  | react (name : WriteName) (job : JobCall V)
  | adopt (name : WriteName)
  /-- The promise a job has returned is settled. -/
  | finish (i : Nat) (outcome : Settlement V)

section

variable {V : Type} (undefined : V)

namespace WriteQueue

def init : WriteQueue V where
  heap := PromiseHeap.put (fun _ => none) .start ⟨none, .settled (.fulfilled undefined)⟩
  writeChain := .start
  writeQueueDepth := 0
  calls := 0
  started := []

def serialize (s : WriteQueue V) : WriteQueue V :=
  { s with
    writeQueueDepth := s.writeQueueDepth + 1
    heap := (s.heap.derive (.next s.calls) s.writeChain (some (.fn s.calls))
      (some (.fn s.calls))).derive (.link s.calls) (.next s.calls) (some .countDown)
        (some .countDown)
    writeChain := .link s.calls
    calls := s.calls + 1 }

/-- A handler runs; a job that throws is recorded like one whose promise is rejected. -/
def runHandler (s : WriteQueue V) (name : WriteName) (job : JobCall V) :
    WriteHandler → WriteQueue V
  | .fn i =>
    match job with
    | .throws e =>
      { s with
        heap := (s.heap.put (.job i) ⟨none, .settled (.rejected e)⟩).settle name (.rejected e)
        started := s.started ++ [i] }
    | .returns =>
      { s with
        heap := (s.heap.put (.job i) ⟨none, .waiting⟩).resolve name (.job i)
        started := s.started ++ [i] }
  | .countDown =>
    { s with
      writeQueueDepth := s.writeQueueDepth - 1
      heap := s.heap.settle name (.fulfilled undefined) }

/-- A step that is not ready changes nothing. -/
def step (s : WriteQueue V) : WriteEvent V → WriteQueue V
  | .serialize => s.serialize
  | .react name job =>
    match s.heap.reaction name with
    | none => s
    | some (none, outcome) => { s with heap := s.heap.settle name outcome }
    | some (some handler, _) => s.runHandler undefined name job handler
  | .adopt name =>
    match s.heap.adoption name with
    | none => s
    | some outcome => { s with heap := s.heap.settle name outcome }
  | .finish i outcome =>
    match s.heap (.job i) with
    | some ⟨none, .waiting⟩ => { s with heap := s.heap.settle (.job i) outcome }
    | _ => s

end WriteQueue

/-! ### The heap of a line -/

def writePrevious : Nat → WriteName
  | 0 => .start
  | i + 1 => .link i

namespace Stage

/-- The promise a job has returned. -/
def jobPromise {N H : Type} : Stage V → Option (Promise N H V)
  | .absent | .waiting => none
  | .called => some ⟨none, .waiting⟩
  | .finished o | .closed o | .settled o | .linked o => some ⟨none, .settled o⟩

/-- The state of the caller's promise, which follows the promise `around` it. -/
def callState {N : Type} (around : N) : Stage V → Option (PromiseState N V)
  | .absent => none
  | .waiting => some .waiting
  | .called | .finished _ | .closed _ => some (.following around)
  | .settled o | .linked o => some (.settled o)

/-- The state of the link, which is settled with `outcome`. -/
def linkState {N : Type} (outcome : Settlement V → Settlement V) :
    Stage V → Option (PromiseState N V)
  | .absent => none
  | .linked o => some (.settled (outcome o))
  | _ => some .waiting

end Stage

/-- The promises of a line of calls. -/
def writeHeap (stages : Nat → Stage V) : PromiseHeap WriteName WriteHandler V
  | .start => some ⟨none, .settled (.fulfilled undefined)⟩
  | .job i => (stages i).jobPromise
  | .next i => ((stages i).callState (.job i)).map
      fun state => ⟨some (writePrevious i, some (.fn i), some (.fn i)), state⟩
  | .link i => ((stages i).linkState fun _ => .fulfilled undefined).map
      fun state => ⟨some (.next i, some .countDown, some .countDown), state⟩

/-- The state is that of a line of calls. -/
structure WriteQueue.Follows (s : WriteQueue V) (stages : Nat → Stage V) : Prop where
  heap : s.heap = writeHeap undefined stages
  chain : s.writeChain = writePrevious s.calls
  line : InLine stages s.calls s.started
  depth : s.writeQueueDepth = unlinked stages s.calls
  unwrapped : ∀ i o, stages i ≠ .closed o

end

section

variable {V : Type} {undefined : V} {stages : Nat → Stage V}

/-- A heap that differs from that of a line in the promises of one call. -/
theorem eq_writeHeap_update {heap : PromiseHeap WriteName WriteHandler V} {i : Nat}
    {next : Stage V}
    (others : ∀ name, name ≠ .job i → name ≠ .next i → name ≠ .link i →
      heap name = writeHeap undefined stages name)
    (job : heap (.job i) = next.jobPromise)
    (call : heap (.next i) = (next.callState (.job i)).map
      fun state => ⟨some (writePrevious i, some (.fn i), some (.fn i)), state⟩)
    (link : heap (.link i) = (next.linkState fun _ => .fulfilled undefined).map
      fun state => ⟨some (.next i, some .countDown, some .countDown), state⟩) :
    heap = writeHeap undefined (Function.update stages i next) := by
  funext name
  cases name with
  | start => exact others .start nofun nofun nofun
  | job k =>
    by_cases here : k = i
    · subst here
      rw [job, writeHeap, Function.update_self]
    · rw [others (.job k) (by simpa using here) nofun nofun, writeHeap, writeHeap,
        Function.update_of_ne here]
  | next k =>
    by_cases here : k = i
    · subst here
      rw [call, writeHeap, Function.update_self]
    · rw [others (.next k) nofun (by simpa using here) nofun, writeHeap, writeHeap,
        Function.update_of_ne here]
  | link k =>
    by_cases here : k = i
    · subst here
      rw [link, writeHeap, Function.update_self]
    · rw [others (.link k) nofun nofun (by simpa using here), writeHeap, writeHeap,
        Function.update_of_ne here]

theorem outcome_job (i : Nat) : (writeHeap undefined stages).outcome (.job i) =
    match stages i with
    | .finished o | .closed o | .settled o | .linked o => some o
    | _ => none := by
  rw [PromiseHeap.outcome, writeHeap]
  cases stages i <;> rfl

theorem outcome_next (i : Nat) : (writeHeap undefined stages).outcome (.next i) =
    match stages i with
    | .settled o | .linked o => some o
    | _ => none := by
  rw [PromiseHeap.outcome, writeHeap]
  cases stages i <;> rfl

theorem outcome_link (i : Nat) : (writeHeap undefined stages).outcome (.link i) =
    if (stages i).isLinked then some (.fulfilled undefined) else none := by
  rw [PromiseHeap.outcome, writeHeap]
  cases stages i <;> rfl

/-- The link in front of a call is settled when the call in front is done. -/
theorem previousLinked_iff (i : Nat) :
    ((writeHeap undefined stages).outcome (writePrevious i)).isSome = true ↔
      PreviousLinked stages i := by
  cases i with
  | zero => exact iff_of_true rfl fun _ impossible => nomatch impossible
  | succ k =>
    rw [writePrevious, outcome_link, PreviousLinked]
    constructor
    · intro linked k' same
      cases same
      by_contra unlinked
      simp [unlinked] at linked
    · intro linked
      simp [linked k rfl]

/-- The two reactions of a call: its job when its turn has come, and its link. -/
theorem reaction_writeHeap {name : WriteName} {handler : Option WriteHandler}
    {outcome : Settlement V}
    (ready : (writeHeap undefined stages).reaction name = some (handler, outcome)) :
    (∃ i, name = .next i ∧ stages i = .waiting ∧ PreviousLinked stages i ∧
      handler = some (.fn i)) ∨
    (∃ i o, name = .link i ∧ stages i = .settled o ∧ handler = some .countDown) := by
  cases name with
  | start => cases ready
  | job i =>
    rw [PromiseHeap.reaction, writeHeap] at ready
    cases stage : stages i <;> rw [stage] at ready <;> cases ready
  | next i =>
    left
    rw [PromiseHeap.reaction, writeHeap] at ready
    cases stage : stages i with
    | waiting =>
      rw [stage] at ready
      cases front : (writeHeap undefined stages).outcome (writePrevious i) with
      | none =>
        simp [Stage.callState, front] at ready
      | some o =>
        refine ⟨i, rfl, stage, (previousLinked_iff i).mp (by rw [front]; rfl), ?_⟩
        simp only [Stage.callState, Option.map_some, front, Option.some.injEq,
          Prod.mk.injEq] at ready
        rw [← ready.1]
        cases o <;> rfl
    | _ => rw [stage] at ready; cases ready
  | link i =>
    right
    rw [PromiseHeap.reaction, writeHeap] at ready
    cases stage : stages i with
    | settled o =>
      refine ⟨i, o, rfl, stage, ?_⟩
      rw [stage] at ready
      simp only [Stage.linkState, Option.map_some, outcome_next, stage, Option.some.injEq,
        Prod.mk.injEq] at ready
      rw [← ready.1]
      cases o <;> rfl
    | _ =>
      rw [stage] at ready
      simp [Stage.linkState, outcome_next, stage] at ready

theorem adoption_writeHeap {name : WriteName} {outcome : Settlement V}
    (unwrapped : ∀ i o, stages i ≠ .closed o)
    (ready : (writeHeap undefined stages).adoption name = some outcome) :
    ∃ i, name = .next i ∧ stages i = .finished outcome := by
  cases name with
  | start => cases ready
  | job i =>
    rw [PromiseHeap.adoption, writeHeap] at ready
    cases stage : stages i <;> rw [stage] at ready <;> cases ready
  | next i =>
    rw [PromiseHeap.adoption, writeHeap] at ready
    cases stage : stages i with
    | called =>
      rw [stage] at ready
      simp [Stage.callState, outcome_job, stage] at ready
    | finished o =>
      rw [stage] at ready
      simp only [Stage.callState, Option.map_some, outcome_job, stage, Option.some.injEq] at ready
      exact ⟨i, rfl, by rw [stage, ready]⟩
    | closed o => exact absurd stage (unwrapped i o)
    | _ => rw [stage] at ready; cases ready
  | link i =>
    rw [PromiseHeap.adoption, writeHeap] at ready
    cases stage : stages i <;> rw [stage] at ready <;> cases ready

end

/-! ### Every step moves one call -/

namespace WriteQueue.Follows

variable {V : Type} {undefined : V} {stages : Nat → Stage V} {s : WriteQueue V}

theorem unwrapped_update (follows : s.Follows undefined stages) (i : Nat) {next : Stage V}
    (open' : ∀ o, next ≠ .closed o) (k : Nat) (o : Settlement V) :
    Function.update stages i next k ≠ .closed o := by
  by_cases here : k = i
  · rw [here, Function.update_self]
    exact open' o
  · rw [Function.update_of_ne here]
    exact follows.unwrapped k o

theorem serialize (follows : s.Follows undefined stages) :
    s.serialize.Follows undefined (Function.update stages s.calls .waiting) where
  heap := by
    have absent : stages s.calls = .absent := (follows.line.absent s.calls).mpr le_rfl
    apply eq_writeHeap_update
    · intro name _ noNext noLink
      simp [WriteQueue.serialize, PromiseHeap.derive, noNext, noLink, follows.heap]
    · simp [WriteQueue.serialize, PromiseHeap.derive, follows.heap, writeHeap, absent,
        Stage.jobPromise]
    · simp [WriteQueue.serialize, PromiseHeap.derive, follows.chain, Stage.callState]
    · simp [WriteQueue.serialize, PromiseHeap.derive, Stage.linkState]
  chain := rfl
  line := follows.line.call
  depth := by
    show s.writeQueueDepth + 1 = _
    rw [follows.depth, WriteQueue.serialize, unlinked_call]
    rfl
  unwrapped := follows.unwrapped_update s.calls nofun

/-- The call in front runs its job, which throws or returns a promise. -/
theorem runFn (follows : s.Follows undefined stages) {i : Nat} (waiting : stages i = .waiting)
    (previous : PreviousLinked stages i) (job : JobCall V) :
    ∃ stages', (s.runHandler undefined (.next i) job (.fn i)).Follows undefined stages' := by
  have unstarted : (stages i).isLinked = false := by rw [waiting]; rfl
  have call : writeHeap undefined stages (.next i) =
      some ⟨some (writePrevious i, some (.fn i), some (.fn i)), .waiting⟩ := by
    rw [writeHeap, waiting]
    rfl
  cases job with
  | throws e =>
    refine ⟨Function.update stages i (.settled (.rejected e)), ?_, follows.chain,
      follows.line.start waiting previous rfl, ?_, follows.unwrapped_update i nofun⟩
    · have present : (s.heap.put (.job i) ⟨none, .settled (.rejected e)⟩) (.next i) =
          some ⟨some (writePrevious i, some (.fn i), some (.fn i)), .waiting⟩ := by
        simp [follows.heap, call]
      rw [WriteQueue.runHandler]
      simp only [PromiseHeap.settle_of_some present]
      apply eq_writeHeap_update
      · intro name noJob noNext _
        simp [noJob, noNext, follows.heap]
      · simp [Stage.jobPromise]
      · simp [Stage.callState]
      · simp [follows.heap, writeHeap, waiting, Stage.linkState]
    · show s.writeQueueDepth = (unlinked _ s.calls : Int)
      rw [follows.depth, unlinked_move (by rw [unstarted]; rfl)]
  | returns =>
    refine ⟨Function.update stages i .called, ?_, follows.chain,
      follows.line.start waiting previous rfl, ?_, follows.unwrapped_update i nofun⟩
    · have present : (s.heap.put (.job i) ⟨none, .waiting⟩) (.next i) =
          some ⟨some (writePrevious i, some (.fn i), some (.fn i)), .waiting⟩ := by
        simp [follows.heap, call]
      rw [WriteQueue.runHandler]
      simp only [PromiseHeap.resolve_of_some present]
      apply eq_writeHeap_update
      · intro name noJob noNext _
        simp [noJob, noNext, follows.heap]
      · simp [Stage.jobPromise]
      · simp [Stage.callState]
      · simp [follows.heap, writeHeap, waiting, Stage.linkState]
    · show s.writeQueueDepth = (unlinked _ s.calls : Int)
      rw [follows.depth, unlinked_move (by rw [unstarted]; rfl)]

theorem countDown (follows : s.Follows undefined stages) {i : Nat} {o : Settlement V}
    (settled : stages i = .settled o) (job : JobCall V) :
    ∃ stages', (s.runHandler undefined (.link i) job .countDown).Follows undefined stages' := by
  have begun : (stages i).hasStarted = true := by rw [settled]; rfl
  have open' : (stages i).isLinked = false := by rw [settled]; rfl
  refine ⟨Function.update stages i (.linked o), ?_, follows.chain,
    follows.line.move begun rfl open', ?_, follows.unwrapped_update i nofun⟩
  · have present : s.heap (.link i) =
        some ⟨some (.next i, some .countDown, some .countDown), .waiting⟩ := by
      rw [follows.heap, writeHeap, settled]
      rfl
    rw [WriteQueue.runHandler]
    simp only [PromiseHeap.settle_of_some present]
    apply eq_writeHeap_update
    · intro name _ _ noLink
      simp [noLink, follows.heap]
    · simp [follows.heap, writeHeap, settled, Stage.jobPromise]
    · simp [follows.heap, writeHeap, settled, Stage.callState]
    · simp [Stage.linkState]
  · show s.writeQueueDepth - 1 = (unlinked _ s.calls : Int)
    have count := @unlinked_link V stages s.calls s.started follows.line i (.linked o) begun open'
      rfl
    rw [follows.depth, count]
    omega

/-- The caller's promise takes the outcome of the job's. -/
theorem adopt (follows : s.Follows undefined stages) {i : Nat} {o : Settlement V}
    (finished : stages i = .finished o) :
    Follows undefined { s with heap := s.heap.settle (.next i) o }
      (Function.update stages i (.settled o)) := by
  have begun : (stages i).hasStarted = true := by rw [finished]; rfl
  have open' : (stages i).isLinked = false := by rw [finished]; rfl
  have present : s.heap (.next i) =
      some ⟨some (writePrevious i, some (.fn i), some (.fn i)), .following (.job i)⟩ := by
    rw [follows.heap, writeHeap, finished]
    rfl
  refine ⟨?_, follows.chain, follows.line.move begun rfl open', ?_,
    follows.unwrapped_update i nofun⟩
  · simp only [PromiseHeap.settle_of_some present]
    apply eq_writeHeap_update
    · intro name _ noNext _
      simp [noNext, follows.heap]
    · simp [follows.heap, writeHeap, finished, Stage.jobPromise]
    · simp [Stage.callState]
    · simp [follows.heap, writeHeap, finished, Stage.linkState]
  · show s.writeQueueDepth = (unlinked _ s.calls : Int)
    rw [follows.depth, unlinked_move (by rw [open']; rfl)]

theorem finish (follows : s.Follows undefined stages) {i : Nat} (called : stages i = .called)
    (o : Settlement V) :
    Follows undefined { s with heap := s.heap.settle (.job i) o }
      (Function.update stages i (.finished o)) := by
  have begun : (stages i).hasStarted = true := by rw [called]; rfl
  have open' : (stages i).isLinked = false := by rw [called]; rfl
  have present : s.heap (.job i) = some ⟨none, .waiting⟩ := by
    rw [follows.heap, writeHeap, called]
    rfl
  refine ⟨?_, follows.chain, follows.line.move begun rfl open', ?_,
    follows.unwrapped_update i nofun⟩
  · simp only [PromiseHeap.settle_of_some present]
    apply eq_writeHeap_update
    · intro name noJob _ _
      simp [noJob, follows.heap]
    · simp [Stage.jobPromise]
    · simp [follows.heap, writeHeap, called, Stage.callState]
    · simp [follows.heap, writeHeap, called, Stage.linkState]
  · show s.writeQueueDepth = (unlinked _ s.calls : Int)
    rw [follows.depth, unlinked_move (by rw [open']; rfl)]

/-- A job whose promise is pending is one that has been called and is not done. -/
theorem called_iff {i : Nat} :
    writeHeap undefined stages (.job i) = some ⟨none, .waiting⟩ ↔ stages i = .called := by
  rw [writeHeap]
  cases stages i <;> simp [Stage.jobPromise]

theorem step (follows : s.Follows undefined stages) (event : WriteEvent V) :
    ∃ stages', (s.step undefined event).Follows undefined stages' := by
  cases event with
  | serialize => exact ⟨_, follows.serialize⟩
  | react name job =>
    rw [WriteQueue.step]
    cases ready : s.heap.reaction name with
    | none => exact ⟨stages, follows⟩
    | some reaction =>
      rw [follows.heap] at ready
      obtain ⟨handler, outcome⟩ := reaction
      cases reaction_writeHeap ready with
      | inl turn =>
        obtain ⟨i, rfl, waiting, previous, rfl⟩ := turn
        exact follows.runFn waiting previous job
      | inr link =>
        obtain ⟨i, o, rfl, settled, rfl⟩ := link
        exact follows.countDown settled job
  | adopt name =>
    rw [WriteQueue.step]
    cases ready : s.heap.adoption name with
    | none => exact ⟨stages, follows⟩
    | some outcome =>
      rw [follows.heap] at ready
      obtain ⟨i, rfl, finished⟩ := adoption_writeHeap follows.unwrapped ready
      exact ⟨_, follows.adopt finished⟩
  | finish i outcome =>
    rw [WriteQueue.step]
    split
    next pending =>
      rw [follows.heap, called_iff] at pending
      exact ⟨_, follows.finish pending outcome⟩
    next => exact ⟨stages, follows⟩

end WriteQueue.Follows

/-! ## `runCallTx` -/

/-- The promises of the `i`-th call: the one its job returns, the one of the function around the
    job, the one of `then`, the link for the next call and the one the caller gets. -/
inductive CallName where
  | start
  | job (i : Nat)
  | body (i : Nat)
  | run (i : Nat)
  | link (i : Nat)
  | returned (i : Nat)
deriving DecidableEq

inductive CallHandler where
  | body (i : Nat)
  /-- The rest of the function after `await fn()`. -/
  | afterAwait (i : Nat)
  | swallow

/-- The witnesses are those of the calls, in order. -/
structure MidnightClient (V W : Type) where
  heap : PromiseHeap CallName CallHandler V
  callTxChain : CallName
  pendingPredicate : W
  witnesses : List W
  /-- The jobs in the order they were called. -/
  started : List Nat

inductive CallEvent (V W : Type) where
  | runCallTx (pending : W)
  | react (name : CallName) (job : JobCall V)
  | adopt (name : CallName)
  /-- The promise a job has returned is settled. -/
  | finish (i : Nat) (outcome : Settlement V)

section

variable {V W : Type} (undefined : V) (empty : W)

namespace MidnightClient

def init : MidnightClient V W where
  heap := PromiseHeap.put (fun _ => none) .start ⟨none, .settled (.fulfilled undefined)⟩
  callTxChain := .start
  pendingPredicate := empty
  witnesses := []
  started := []

def calls (s : MidnightClient V W) : Nat := s.witnesses.length

def runCallTx (s : MidnightClient V W) (pending : W) : MidnightClient V W :=
  { s with
    heap := ((s.heap.derive (.run s.calls) s.callTxChain (some (.body s.calls)) none).derive
      (.link s.calls) (.run s.calls) none (some .swallow)).put (.returned s.calls)
        ⟨none, .following (.run s.calls)⟩
    callTxChain := .link s.calls
    witnesses := s.witnesses ++ [pending] }

/-- The function around a job sets the witness, and clears it when the job throws or, after
    `await`, when its promise is settled. -/
def runHandler (s : MidnightClient V W) (name : CallName) (job : JobCall V)
    (outcome : Settlement V) : CallHandler → MidnightClient V W
  | .body i =>
    match job with
    | .throws e =>
      { s with
        heap := (((s.heap.put (.job i) ⟨none, .settled (.rejected e)⟩).derive (.body i) (.job i)
          (some (.afterAwait i)) (some (.afterAwait i))).settle (.body i) (.rejected e)).resolve
            name (.body i)
        pendingPredicate := empty
        started := s.started ++ [i] }
    | .returns =>
      { s with
        heap := ((s.heap.put (.job i) ⟨none, .waiting⟩).derive (.body i) (.job i)
          (some (.afterAwait i)) (some (.afterAwait i))).resolve name (.body i)
        pendingPredicate := s.witnesses.getD i empty
        started := s.started ++ [i] }
  | .afterAwait _ =>
    { s with
      heap := s.heap.settle name outcome
      pendingPredicate := empty }
  | .swallow => { s with heap := s.heap.settle name (.fulfilled undefined) }

/-- A step that is not ready changes nothing; where `then` has no handler for it the outcome is
    passed on. -/
def step (s : MidnightClient V W) : CallEvent V W → MidnightClient V W
  | .runCallTx pending => s.runCallTx pending
  | .react name job =>
    match s.heap.reaction name with
    | none => s
    | some (none, outcome) => { s with heap := s.heap.settle name outcome }
    | some (some handler, outcome) => s.runHandler undefined empty name job outcome handler
  | .adopt name =>
    match s.heap.adoption name with
    | none => s
    | some outcome => { s with heap := s.heap.settle name outcome }
  | .finish i outcome =>
    match s.heap (.job i) with
    | some ⟨none, .waiting⟩ => { s with heap := s.heap.settle (.job i) outcome }
    | _ => s

end MidnightClient

/-! ### The heap of a line -/

def callPrevious : Nat → CallName
  | 0 => .start
  | i + 1 => .link i

/-- `catch` passes a result on and turns an error into `undefined`. -/
def caught : Settlement V → Settlement V
  | .fulfilled v => .fulfilled v
  | .rejected _ => .fulfilled undefined

namespace Stage

/-- The state of the promise of the function around the job. -/
def bodyState {N : Type} : Stage V → Option (PromiseState N V)
  | .absent | .waiting => none
  | .called | .finished _ => some .waiting
  | .closed o | .settled o | .linked o => some (.settled o)

/-- The state of the promise that follows the call's, once it has taken over the outcome or
    before. -/
def returnedState {N : Type} (around : N) (delivered : Bool) : Stage V → Option (PromiseState N V)
  | .absent => none
  | .settled o | .linked o => if delivered then some (.settled o) else some (.following around)
  | _ => some (.following around)

end Stage

/-- The promises of a line of calls, of which some have delivered to their callers. -/
def callHeap (stages : Nat → Stage V) (delivered : Nat → Bool) :
    PromiseHeap CallName CallHandler V
  | .start => some ⟨none, .settled (.fulfilled undefined)⟩
  | .job i => (stages i).jobPromise
  | .body i => (stages i).bodyState.map
      fun state => ⟨some (.job i, some (.afterAwait i), some (.afterAwait i)), state⟩
  | .run i => ((stages i).callState (.body i)).map
      fun state => ⟨some (callPrevious i, some (.body i), none), state⟩
  | .link i => ((stages i).linkState (caught undefined)).map
      fun state => ⟨some (.run i, none, some .swallow), state⟩
  | .returned i => ((stages i).returnedState (.run i) (delivered i)).map
      fun state => ⟨none, state⟩

def Stage.jobActive : Stage V → Bool
  | .called | .finished _ => true
  | _ => false

/-- The state is that of a line of calls, and the witness is that of the active job. -/
structure MidnightClient.Follows (s : MidnightClient V W) (stages : Nat → Stage V)
    (delivered : Nat → Bool) : Prop where
  heap : s.heap = callHeap undefined stages delivered
  chain : s.callTxChain = callPrevious s.calls
  line : InLine stages s.calls s.started
  active : ∀ i, (stages i).jobActive = true → s.pendingPredicate = s.witnesses.getD i empty
  idle : (∀ i, (stages i).jobActive = false) → s.pendingPredicate = empty

end

section

variable {V : Type} {undefined : V} {stages : Nat → Stage V} {delivered : Nat → Bool}

/-- A heap that differs from that of a line in the promises of one call. -/
theorem eq_callHeap_update {heap : PromiseHeap CallName CallHandler V} {i : Nat}
    {next : Stage V} {after : Bool}
    (others : ∀ name, name ≠ .job i → name ≠ .body i → name ≠ .run i → name ≠ .link i →
      name ≠ .returned i → heap name = callHeap undefined stages delivered name)
    (job : heap (.job i) = next.jobPromise)
    (body : heap (.body i) = next.bodyState.map
      fun state => ⟨some (.job i, some (.afterAwait i), some (.afterAwait i)), state⟩)
    (run : heap (.run i) = (next.callState (.body i)).map
      fun state => ⟨some (callPrevious i, some (.body i), none), state⟩)
    (link : heap (.link i) = (next.linkState (caught undefined)).map
      fun state => ⟨some (.run i, none, some .swallow), state⟩)
    (returned : heap (.returned i) = (next.returnedState (.run i) after).map
      fun state => ⟨none, state⟩) :
    heap = callHeap undefined (Function.update stages i next)
      (Function.update delivered i after) := by
  funext name
  cases name with
  | start => exact others .start nofun nofun nofun nofun nofun
  | job k =>
    by_cases here : k = i
    · subst here
      rw [job, callHeap, Function.update_self]
    · rw [others (.job k) (by simpa using here) nofun nofun nofun nofun, callHeap, callHeap,
        Function.update_of_ne here]
  | body k =>
    by_cases here : k = i
    · subst here
      rw [body, callHeap, Function.update_self]
    · rw [others (.body k) nofun (by simpa using here) nofun nofun nofun, callHeap, callHeap,
        Function.update_of_ne here]
  | run k =>
    by_cases here : k = i
    · subst here
      rw [run, callHeap, Function.update_self]
    · rw [others (.run k) nofun nofun (by simpa using here) nofun nofun, callHeap, callHeap,
        Function.update_of_ne here]
  | link k =>
    by_cases here : k = i
    · subst here
      rw [link, callHeap, Function.update_self]
    · rw [others (.link k) nofun nofun nofun (by simpa using here) nofun, callHeap, callHeap,
        Function.update_of_ne here]
  | returned k =>
    by_cases here : k = i
    · subst here
      rw [returned, callHeap, Function.update_self, Function.update_self]
    · rw [others (.returned k) nofun nofun nofun nofun (by simpa using here), callHeap, callHeap,
        Function.update_of_ne here, Function.update_of_ne here]

theorem callHeap_job (i : Nat) : (callHeap undefined stages delivered).outcome (.job i) =
    match stages i with
    | .finished o | .closed o | .settled o | .linked o => some o
    | _ => none := by
  rw [PromiseHeap.outcome, callHeap]
  cases stages i <;> rfl

theorem callHeap_body (i : Nat) : (callHeap undefined stages delivered).outcome (.body i) =
    match stages i with
    | .closed o | .settled o | .linked o => some o
    | _ => none := by
  rw [PromiseHeap.outcome, callHeap]
  cases stages i <;> rfl

theorem callHeap_run (i : Nat) : (callHeap undefined stages delivered).outcome (.run i) =
    match stages i with
    | .settled o | .linked o => some o
    | _ => none := by
  rw [PromiseHeap.outcome, callHeap]
  cases stages i <;> rfl

theorem callHeap_link (i : Nat) : (callHeap undefined stages delivered).outcome (.link i) =
    match stages i with
    | .linked o => some (caught undefined o)
    | _ => none := by
  rw [PromiseHeap.outcome, callHeap]
  cases stages i <;> rfl

theorem callHeap_returned {i : Nat} {o : Settlement V}
    (got : (callHeap undefined stages delivered).outcome (.returned i) = some o) :
    stages i = .settled o ∨ stages i = .linked o := by
  rw [PromiseHeap.outcome, callHeap] at got
  cases stage : stages i with
  | settled o' =>
    rw [stage] at got
    cases done : delivered i with
    | false => rw [done] at got; cases got
    | true => rw [done] at got; cases got; exact .inl rfl
  | linked o' =>
    rw [stage] at got
    cases done : delivered i with
    | false => rw [done] at got; cases got
    | true => rw [done] at got; cases got; exact .inr rfl
  | _ => rw [stage] at got; cases got

/-- The link in front of a call is settled when the call in front is done, and then never with
    an error. -/
theorem callHeap_previous {i : Nat} {o : Settlement V}
    (front : (callHeap undefined stages delivered).outcome (callPrevious i) = some o) :
    PreviousLinked stages i ∧ ∃ v, o = .fulfilled v := by
  cases i with
  | zero =>
    cases front
    exact ⟨fun _ impossible => absurd impossible (by omega), undefined, rfl⟩
  | succ k =>
    rw [callPrevious, callHeap_link] at front
    cases stage : stages k with
    | linked o' =>
      rw [stage] at front
      refine ⟨?_, ?_⟩
      · intro k' same
        cases same
        rw [stage]
        rfl
      · cases front
        cases o' with
        | fulfilled v => exact ⟨v, rfl⟩
        | rejected e => exact ⟨undefined, rfl⟩
    | _ => rw [stage] at front; cases front

/-- The reactions of a call: the function around its job when its turn has come, the rest of
    that function, and its link. -/
theorem reaction_callHeap {name : CallName} {handler : Option CallHandler} {outcome : Settlement V}
    (ready : (callHeap undefined stages delivered).reaction name = some (handler, outcome)) :
    (∃ i, name = .run i ∧ stages i = .waiting ∧ PreviousLinked stages i ∧
      handler = some (.body i)) ∨
    (∃ i, name = .body i ∧ stages i = .finished outcome ∧ handler = some (.afterAwait i)) ∨
    (∃ i, name = .link i ∧ stages i = .settled outcome ∧
      handler = match outcome with | .fulfilled _ => none | .rejected _ => some .swallow) := by
  cases name with
  | start => cases ready
  | job i =>
    rw [PromiseHeap.reaction, callHeap] at ready
    cases stage : stages i <;> rw [stage] at ready <;> cases ready
  | returned i =>
    rw [PromiseHeap.reaction, callHeap] at ready
    cases state : (stages i).returnedState (N := CallName) (.run i) (delivered i) <;>
      rw [state] at ready <;> cases ready
  | run i =>
    left
    rw [PromiseHeap.reaction, callHeap] at ready
    cases stage : stages i with
    | waiting =>
      rw [stage] at ready
      cases front : (callHeap undefined stages delivered).outcome (callPrevious i) with
      | none => simp [Stage.callState, front] at ready
      | some o =>
        obtain ⟨previous, v, rfl⟩ := callHeap_previous front
        simp only [Stage.callState, Option.map_some, front, Option.some.injEq,
          Prod.mk.injEq] at ready
        exact ⟨i, rfl, stage, previous, ready.1.symm⟩
    | _ => rw [stage] at ready; cases ready
  | body i =>
    right; left
    rw [PromiseHeap.reaction, callHeap] at ready
    cases stage : stages i with
    | finished o =>
      rw [stage] at ready
      simp only [Stage.bodyState, Option.map_some, callHeap_job, stage, Option.some.injEq,
        Prod.mk.injEq] at ready
      obtain ⟨rfl, rfl⟩ := ready
      exact ⟨i, rfl, stage, by cases o <;> rfl⟩
    | _ =>
      rw [stage] at ready
      simp [Stage.bodyState, callHeap_job, stage] at ready
  | link i =>
    right; right
    rw [PromiseHeap.reaction, callHeap] at ready
    cases stage : stages i with
    | settled o =>
      rw [stage] at ready
      simp only [Stage.linkState, Option.map_some, callHeap_run, stage, Option.some.injEq,
        Prod.mk.injEq] at ready
      obtain ⟨rfl, rfl⟩ := ready
      exact ⟨i, rfl, stage, by cases o <;> rfl⟩
    | _ =>
      rw [stage] at ready
      simp [Stage.linkState, callHeap_run, stage] at ready

theorem adoption_callHeap {name : CallName} {outcome : Settlement V}
    (ready : (callHeap undefined stages delivered).adoption name = some outcome) :
    (∃ i, name = .run i ∧ stages i = .closed outcome) ∨
    (∃ i, name = .returned i ∧ delivered i = false ∧
      (stages i = .settled outcome ∨ stages i = .linked outcome)) := by
  cases name with
  | start => cases ready
  | job i =>
    rw [PromiseHeap.adoption, callHeap] at ready
    cases stage : stages i <;> rw [stage] at ready <;> cases ready
  | body i =>
    rw [PromiseHeap.adoption, callHeap] at ready
    cases stage : stages i <;> rw [stage] at ready <;> cases ready
  | link i =>
    rw [PromiseHeap.adoption, callHeap] at ready
    cases stage : stages i <;> rw [stage] at ready <;> cases ready
  | run i =>
    left
    rw [PromiseHeap.adoption, callHeap] at ready
    cases stage : stages i with
    | closed o =>
      rw [stage] at ready
      simp only [Stage.callState, Option.map_some, callHeap_body, stage,
        Option.some.injEq] at ready
      exact ⟨i, rfl, by rw [stage, ready]⟩
    | _ =>
      rw [stage] at ready
      simp [Stage.callState, callHeap_body, stage] at ready
  | returned i =>
    right
    rw [PromiseHeap.adoption, callHeap] at ready
    cases stage : stages i with
    | settled o =>
      rw [stage] at ready
      cases done : delivered i with
      | true => rw [done] at ready; cases ready
      | false =>
        simp only [done, Stage.returnedState, Bool.false_eq_true, if_false, Option.map_some,
          callHeap_run, stage, Option.some.injEq] at ready
        exact ⟨i, rfl, done, .inl (by rw [stage, ready])⟩
    | linked o =>
      rw [stage] at ready
      cases done : delivered i with
      | true => rw [done] at ready; cases ready
      | false =>
        simp only [done, Stage.returnedState, Bool.false_eq_true, if_false, Option.map_some,
          callHeap_run, stage, Option.some.injEq] at ready
        exact ⟨i, rfl, done, .inr (by rw [stage, ready])⟩
    | _ =>
      rw [stage] at ready
      simp [Stage.returnedState, callHeap_run, stage] at ready

end

/-! ### Every step moves one call -/

theorem jobActive_update {V : Type} {stages : Nat → Stage V} {i : Nat} {next : Stage V}
    (same : next.jobActive = (stages i).jobActive) (k : Nat) :
    (Function.update stages i next k).jobActive = (stages k).jobActive := by
  by_cases here : k = i
  · rw [here, Function.update_self, same]
  · rw [Function.update_of_ne here]

/-- An active job has started, and its call has not linked. -/
theorem Stage.started_of_jobActive {V : Type} {stage : Stage V} (active : stage.jobActive = true) :
    stage.hasStarted = true ∧ stage.isLinked = false := by
  cases stage with
  | called => exact ⟨rfl, rfl⟩
  | finished o => exact ⟨rfl, rfl⟩
  | _ => cases active

namespace MidnightClient.Follows

variable {V W : Type} {undefined : V} {empty : W} {stages : Nat → Stage V}
  {delivered : Nat → Bool} {s : MidnightClient V W}

theorem runCallTx (follows : s.Follows undefined empty stages delivered) (pending : W) :
    (s.runCallTx pending).Follows undefined empty
      (Function.update stages s.calls .waiting) (Function.update delivered s.calls false) where
  heap := by
    have absent : stages s.calls = .absent := (follows.line.absent s.calls).mpr le_rfl
    apply eq_callHeap_update
    · intro name _ _ noRun noLink noReturned
      simp [MidnightClient.runCallTx, PromiseHeap.derive, noRun, noLink, noReturned, follows.heap]
    · simp [MidnightClient.runCallTx, PromiseHeap.derive, follows.heap, callHeap, absent,
        Stage.jobPromise]
    · simp [MidnightClient.runCallTx, PromiseHeap.derive, follows.heap, callHeap, absent,
        Stage.bodyState]
    · simp [MidnightClient.runCallTx, PromiseHeap.derive, follows.chain, Stage.callState]
    · simp [MidnightClient.runCallTx, PromiseHeap.derive, Stage.linkState]
    · simp [MidnightClient.runCallTx, Stage.returnedState]
  chain := by
    show CallName.link s.calls = callPrevious (s.witnesses ++ [pending]).length
    rw [List.length_append]
    rfl
  line := by
    have longer : (s.runCallTx pending).calls = s.calls + 1 := List.length_append
    rw [longer]
    exact follows.line.call
  active i running := by
    have absent : stages s.calls = .absent := (follows.line.absent s.calls).mpr le_rfl
    rw [jobActive_update (by rw [absent]; rfl)] at running
    have present : i < s.calls := by
      apply follows.line.lt_calls
      intro none
      rw [none] at running
      cases running
    show s.pendingPredicate = (s.witnesses ++ [pending]).getD i empty
    rw [List.getD_append _ _ _ _ present]
    exact follows.active i running
  idle noneRunning := by
    have absent : stages s.calls = .absent := (follows.line.absent s.calls).mpr le_rfl
    apply follows.idle
    intro i
    rw [← noneRunning i, jobActive_update (by rw [absent]; rfl)]

/-- The call in front sets its witness and runs its job, which throws or returns a promise. -/
theorem runBody (follows : s.Follows undefined empty stages delivered) {i : Nat}
    (waiting : stages i = .waiting) (previous : PreviousLinked stages i) (job : JobCall V)
    (outcome : Settlement V) :
    ∃ stages' delivered', (s.runHandler undefined empty (.run i) job outcome (.body i)).Follows
      undefined empty stages' delivered' := by
  have call : callHeap undefined stages delivered (.run i) =
      some ⟨some (callPrevious i, some (.body i), none), .waiting⟩ := by
    rw [callHeap, waiting]
    rfl
  cases job with
  | throws e =>
    have line : InLine (Function.update stages i (.closed (.rejected e))) s.calls
        (s.started ++ [i]) := follows.line.start waiting previous rfl
    -- no other job is active, and this one is not any more
    have quiet : ∀ k, (Function.update stages i (.closed (.rejected e)) k).jobActive = false := by
      intro k
      by_contra running
      rw [Bool.not_eq_false] at running
      obtain ⟨begun, open'⟩ := Stage.started_of_jobActive running
      have same : k = i := line.unique begun open' (by rw [Function.update_self]; rfl)
        (by rw [Function.update_self]; rfl)
      rw [same, Function.update_self] at running
      cases running
    refine ⟨Function.update stages i (.closed (.rejected e)),
      Function.update delivered i (delivered i), ?_, follows.chain, line, ?_, fun _ => rfl⟩
    · have body : ((s.heap.put (.job i) ⟨none, .settled (.rejected e)⟩).derive (.body i) (.job i)
          (some (.afterAwait i)) (some (.afterAwait i))) (.body i) =
          some ⟨some (.job i, some (.afterAwait i), some (.afterAwait i)), .waiting⟩ := by
        simp [PromiseHeap.derive]
      have present : (((s.heap.put (.job i) ⟨none, .settled (.rejected e)⟩).derive (.body i)
          (.job i) (some (.afterAwait i)) (some (.afterAwait i))).settle (.body i) (.rejected e))
            (.run i) = some ⟨some (callPrevious i, some (.body i), none), .waiting⟩ := by
        rw [PromiseHeap.settle_of_some body]
        simp [PromiseHeap.derive, follows.heap, call]
      rw [MidnightClient.runHandler]
      simp only [PromiseHeap.resolve_of_some present]
      rw [PromiseHeap.settle_of_some body]
      apply eq_callHeap_update
      · intro name noJob noBody noRun _ _
        simp [PromiseHeap.derive, noJob, noBody, noRun, follows.heap]
      · simp [PromiseHeap.derive, Stage.jobPromise]
      · simp [PromiseHeap.derive, Stage.bodyState]
      · simp [Stage.callState]
      · simp [PromiseHeap.derive, follows.heap, callHeap, waiting, Stage.linkState]
      · simp [PromiseHeap.derive, follows.heap, callHeap, waiting, Stage.returnedState]
    · intro k running
      rw [quiet k] at running
      cases running
  | returns =>
    have line : InLine (Function.update stages i .called) s.calls (s.started ++ [i]) :=
      follows.line.start waiting previous rfl
    refine ⟨Function.update stages i .called, Function.update delivered i (delivered i), ?_,
      follows.chain, line, ?_, ?_⟩
    · have present : ((s.heap.put (.job i) ⟨none, .waiting⟩).derive (.body i) (.job i)
          (some (.afterAwait i)) (some (.afterAwait i))) (.run i) =
          some ⟨some (callPrevious i, some (.body i), none), .waiting⟩ := by
        simp [PromiseHeap.derive, follows.heap, call]
      rw [MidnightClient.runHandler]
      simp only [PromiseHeap.resolve_of_some present]
      apply eq_callHeap_update
      · intro name noJob noBody noRun _ _
        simp [PromiseHeap.derive, noJob, noBody, noRun, follows.heap]
      · simp [PromiseHeap.derive, Stage.jobPromise]
      · simp [PromiseHeap.derive, Stage.bodyState]
      · simp [Stage.callState]
      · simp [PromiseHeap.derive, follows.heap, callHeap, waiting, Stage.linkState]
      · simp [PromiseHeap.derive, follows.heap, callHeap, waiting, Stage.returnedState]
    · intro k running
      obtain ⟨begun, open'⟩ := Stage.started_of_jobActive running
      have same : k = i := line.unique begun open' (by rw [Function.update_self]; rfl)
        (by rw [Function.update_self]; rfl)
      rw [same]
      rfl
    · intro noneRunning
      have running := noneRunning i
      rw [Function.update_self] at running
      cases running

/-- After its job the function clears the witness and passes the outcome on. -/
theorem afterAwait (follows : s.Follows undefined empty stages delivered) {i : Nat}
    {outcome : Settlement V} (finished : stages i = .finished outcome) (job : JobCall V) :
    ∃ stages' delivered', (s.runHandler undefined empty (.body i) job outcome
      (.afterAwait i)).Follows undefined empty stages' delivered' := by
  have begun : (stages i).hasStarted = true := by rw [finished]; rfl
  have open' : (stages i).isLinked = false := by rw [finished]; rfl
  have line : InLine (Function.update stages i (.closed outcome)) s.calls s.started :=
    follows.line.move begun rfl open'
  have quiet : ∀ k, (Function.update stages i (.closed outcome) k).jobActive = false := by
    intro k
    by_contra running
    rw [Bool.not_eq_false] at running
    obtain ⟨begunK, openK⟩ := Stage.started_of_jobActive running
    have same : k = i := line.unique begunK openK (by rw [Function.update_self]; rfl)
      (by rw [Function.update_self]; rfl)
    rw [same, Function.update_self] at running
    cases running
  have present : s.heap (.body i) =
      some ⟨some (.job i, some (.afterAwait i), some (.afterAwait i)), .waiting⟩ := by
    rw [follows.heap, callHeap, finished]
    rfl
  refine ⟨Function.update stages i (.closed outcome), Function.update delivered i (delivered i),
    ?_, follows.chain, line, ?_, fun _ => rfl⟩
  · rw [MidnightClient.runHandler]
    simp only [PromiseHeap.settle_of_some present]
    apply eq_callHeap_update
    · intro name _ noBody _ _ _
      simp [noBody, follows.heap]
    · simp [follows.heap, callHeap, finished, Stage.jobPromise]
    · simp [Stage.bodyState]
    · simp [follows.heap, callHeap, finished, Stage.callState]
    · simp [follows.heap, callHeap, finished, Stage.linkState]
    · simp [follows.heap, callHeap, finished, Stage.returnedState]
  · intro k running
    rw [quiet k] at running
    cases running

/-- A step of one call that leaves the witness and the active job alone. -/
theorem moved (follows : s.Follows undefined empty stages delivered)
    {heap : PromiseHeap CallName CallHandler V} {i : Nat} {next : Stage V} {after : Bool}
    (begun : (stages i).hasStarted = true) (begun' : next.hasStarted = true)
    (open' : (stages i).isLinked = false) (active : next.jobActive = (stages i).jobActive)
    (promises : heap = callHeap undefined (Function.update stages i next)
      (Function.update delivered i after)) :
    Follows undefined empty { s with heap := heap } (Function.update stages i next)
      (Function.update delivered i after) where
  heap := promises
  chain := follows.chain
  line := follows.line.move begun begun' open'
  active k running := follows.active k (by rwa [jobActive_update active] at running)
  idle noneRunning := follows.idle fun k => by rw [← noneRunning k, jobActive_update active]

/-- The link is settled, with the result of the call or with nothing for its error. -/
theorem link (follows : s.Follows undefined empty stages delivered) {i : Nat}
    {outcome : Settlement V} (settled : stages i = .settled outcome) :
    Follows undefined empty
      { s with heap := s.heap.settle (.link i) (caught undefined outcome) }
      (Function.update stages i (.linked outcome))
      (Function.update delivered i (delivered i)) := by
  have present : s.heap (.link i) = some ⟨some (.run i, none, some .swallow), .waiting⟩ := by
    rw [follows.heap, callHeap, settled]
    rfl
  refine follows.moved (by rw [settled]; rfl) rfl (by rw [settled]; rfl) (by rw [settled]; rfl) ?_
  simp only [PromiseHeap.settle_of_some present]
  apply eq_callHeap_update
  · intro name _ _ _ noLink _
    simp [noLink, follows.heap]
  · simp [follows.heap, callHeap, settled, Stage.jobPromise]
  · simp [follows.heap, callHeap, settled, Stage.bodyState]
  · simp [follows.heap, callHeap, settled, Stage.callState]
  · simp [Stage.linkState]
  · simp [follows.heap, callHeap, settled, Stage.returnedState]

/-- The promise of `then` takes the outcome of the function around the job. -/
theorem adoptRun (follows : s.Follows undefined empty stages delivered) {i : Nat}
    {outcome : Settlement V} (closed : stages i = .closed outcome) :
    Follows undefined empty { s with heap := s.heap.settle (.run i) outcome }
      (Function.update stages i (.settled outcome)) (Function.update delivered i false) := by
  have present : s.heap (.run i) =
      some ⟨some (callPrevious i, some (.body i), none), .following (.body i)⟩ := by
    rw [follows.heap, callHeap, closed]
    rfl
  refine follows.moved (by rw [closed]; rfl) rfl (by rw [closed]; rfl) (by rw [closed]; rfl) ?_
  simp only [PromiseHeap.settle_of_some present]
  apply eq_callHeap_update
  · intro name _ _ noRun _ _
    simp [noRun, follows.heap]
  · simp [follows.heap, callHeap, closed, Stage.jobPromise]
  · simp [follows.heap, callHeap, closed, Stage.bodyState]
  · simp [Stage.callState]
  · simp [follows.heap, callHeap, closed, Stage.linkState]
  · simp [follows.heap, callHeap, closed, Stage.returnedState]

theorem finish (follows : s.Follows undefined empty stages delivered) {i : Nat}
    (called : stages i = .called) (outcome : Settlement V) :
    Follows undefined empty { s with heap := s.heap.settle (.job i) outcome }
      (Function.update stages i (.finished outcome))
      (Function.update delivered i (delivered i)) := by
  have present : s.heap (.job i) = some ⟨none, .waiting⟩ := by
    rw [follows.heap, callHeap, called]
    rfl
  refine follows.moved (by rw [called]; rfl) rfl (by rw [called]; rfl) (by rw [called]; rfl) ?_
  simp only [PromiseHeap.settle_of_some present]
  apply eq_callHeap_update
  · intro name noJob _ _ _ _
    simp [noJob, follows.heap]
  · simp [Stage.jobPromise]
  · simp [follows.heap, callHeap, called, Stage.bodyState]
  · simp [follows.heap, callHeap, called, Stage.callState]
  · simp [follows.heap, callHeap, called, Stage.linkState]
  · simp [follows.heap, callHeap, called, Stage.returnedState]

/-- The caller's promise takes the outcome of the call's. -/
theorem deliver (follows : s.Follows undefined empty stages delivered) {i : Nat}
    {outcome : Settlement V} (waiting : delivered i = false)
    (settled : stages i = .settled outcome ∨ stages i = .linked outcome) :
    Follows undefined empty { s with heap := s.heap.settle (.returned i) outcome } stages
      (Function.update delivered i true) := by
  have present : s.heap (.returned i) = some ⟨none, .following (.run i)⟩ := by
    rw [follows.heap, callHeap, waiting]
    cases settled with
    | inl settled => rw [settled]; rfl
    | inr linked => rw [linked]; rfl
  refine ⟨?_, follows.chain, follows.line, follows.active, follows.idle⟩
  simp only [PromiseHeap.settle_of_some present]
  have promises := @eq_callHeap_update V undefined stages delivered
    (s.heap.put (.returned i) ⟨none, .settled outcome⟩) i (stages i) true
  rw [Function.update_eq_self] at promises
  apply promises
  · intro name _ _ _ _ noReturned
    simp [noReturned, follows.heap]
  · simp [follows.heap, callHeap]
  · simp [follows.heap, callHeap]
  · simp [follows.heap, callHeap]
  · simp [follows.heap, callHeap]
  · cases settled with
    | inl settled => simp [settled, Stage.returnedState]
    | inr linked => simp [linked, Stage.returnedState]

theorem callHeap_called {i : Nat} :
    callHeap undefined stages delivered (.job i) = some ⟨none, .waiting⟩ ↔
      stages i = .called := by
  rw [callHeap]
  cases stages i <;> simp [Stage.jobPromise]

theorem step (follows : s.Follows undefined empty stages delivered) (event : CallEvent V W) :
    ∃ stages' delivered', (s.step undefined empty event).Follows undefined empty
      stages' delivered' := by
  cases event with
  | runCallTx pending => exact ⟨_, _, follows.runCallTx pending⟩
  | react name job =>
    rw [MidnightClient.step]
    cases ready : s.heap.reaction name with
    | none => exact ⟨stages, delivered, follows⟩
    | some reaction =>
      rw [follows.heap] at ready
      obtain ⟨handler, outcome⟩ := reaction
      rcases reaction_callHeap ready with ⟨i, rfl, waiting, previous, rfl⟩ |
        ⟨i, rfl, finished, rfl⟩ | ⟨i, rfl, settled, handled⟩
      · exact follows.runBody waiting previous job outcome
      · exact follows.afterAwait finished job
      · have linked := follows.link settled
        cases outcome with
        | fulfilled v => rw [handled]; exact ⟨_, _, linked⟩
        | rejected e => rw [handled]; exact ⟨_, _, linked⟩
  | adopt name =>
    rw [MidnightClient.step]
    cases ready : s.heap.adoption name with
    | none => exact ⟨stages, delivered, follows⟩
    | some outcome =>
      rw [follows.heap] at ready
      rcases adoption_callHeap ready with ⟨i, rfl, closed⟩ | ⟨i, rfl, waiting, settled⟩
      · exact ⟨_, _, follows.adoptRun closed⟩
      · exact ⟨_, _, follows.deliver waiting settled⟩
  | finish i outcome =>
    rw [MidnightClient.step]
    split
    next pending =>
      rw [follows.heap, callHeap_called] at pending
      exact ⟨_, _, follows.finish pending outcome⟩
    next => exact ⟨stages, delivered, follows⟩

end MidnightClient.Follows

/-! ## What a line of calls guarantees -/

section

variable {V : Type}

/-- One job at a time, in the order of the calls, and each caller gets what its own job came to. -/
structure ServesInOrder (calls : Nat) (started : List Nat) (pending : Nat → Prop)
    (job caller link : Nat → Option (Settlement V)) : Prop where
  exclusive : ∀ i j, pending i → pending j → i = j
  inOrder : started = List.range started.length ∧ started.length ≤ calls
  afterPrevious : ∀ i j, i < j → j ∈ started → (job i).isSome = true
  ownOutcome : ∀ i o, caller i = some o → job i = some o
  noRejection : ∀ i e, link i ≠ some (.rejected e)

def Stage.jobOutcome : Stage V → Option (Settlement V)
  | .finished o | .closed o | .settled o | .linked o => some o
  | _ => none

theorem InLine.serves {stages : Nat → Stage V} {calls : Nat} {started : List Nat}
    (line : InLine stages calls started) {pending : Nat → Prop}
    {job caller link : Nat → Option (Settlement V)}
    (called : ∀ i, pending i → stages i = .called) (jobs : ∀ i, job i = (stages i).jobOutcome)
    (callers : ∀ i o, caller i = some o → (stages i).jobOutcome = some o)
    (links : ∀ i e, link i ≠ some (.rejected e)) :
    ServesInOrder calls started pending job caller link where
  exclusive i j pendingI pendingJ := by
    have calledI := called i pendingI
    have calledJ := called j pendingJ
    exact line.unique (by rw [calledI]; rfl) (by rw [calledI]; rfl) (by rw [calledJ]; rfl)
      (by rw [calledJ]; rfl)
  inOrder := by
    refine ⟨line.served, ?_⟩
    by_contra more
    have begun := (line.begun calls).mpr (by omega)
    rw [(line.absent calls).mpr le_rfl] at begun
    cases begun
  afterPrevious i j before member := by
    rw [line.served, List.mem_range] at member
    have linked := line.inOrder j i before ((line.begun j).mpr member)
    rw [jobs]
    cases stage : stages i with
    | linked o => rfl
    | _ => rw [stage] at linked; cases linked
  ownOutcome i o got := by rw [jobs, callers i o got]
  noRejection := links

/-- Calls that all go on until they are linked are linked one after the other. -/
theorem all_linked {stages : Nat → Stage V} {calls : Nat}
    (goesOn : ∀ i, i < calls → PreviousLinked stages i → (stages i).isLinked = true) :
    ∀ i, i < calls → (stages i).isLinked = true := by
  intro i
  induction i with
  | zero => exact fun present => goesOn 0 present fun _ impossible => absurd impossible (by omega)
  | succ k ih =>
    intro present
    apply goesOn (k + 1) present
    intro k' same
    cases same
    exact ih (by omega)

end

/-! ### The serializer -/

namespace WriteQueue

variable {V : Type} (undefined : V)

def after (events : List (WriteEvent V)) : WriteQueue V :=
  Runs.run (step undefined) (init undefined) events

theorem follows_after (events : List (WriteEvent V)) :
    ∃ stages, (after undefined events).Follows undefined stages := by
  apply Runs.run_invariant (fun s => ∃ stages, Follows undefined s stages)
  · refine ⟨fun _ => .absent, ?_, rfl, InLine.init, rfl, nofun⟩
    funext name
    cases name <;> rfl
  · rintro s event ⟨stages, follows⟩
    exact follows.step event

/-- A job has been called and its promise is pending. -/
def pending (s : WriteQueue V) (i : Nat) : Prop := s.heap (.job i) = some ⟨none, .waiting⟩

/-- No reaction is ready to run, and no promise to take over an outcome. -/
def quiet (s : WriteQueue V) : Prop :=
  ∀ name, s.heap.reaction name = none ∧ s.heap.adoption name = none

/-- The jobs whose promise the caller still waits for. -/
def unsettledJobs (s : WriteQueue V) : Nat :=
  ((Finset.range s.calls).filter fun i => s.heap.outcome (.next i) = none).card

/-- The calls whose link is not settled. -/
def unlinkedJobs (s : WriteQueue V) : Nat :=
  ((Finset.range s.calls).filter fun i => s.heap.outcome (.link i) = none).card

variable {undefined} {s : WriteQueue V} {stages : Nat → Stage V}

theorem Follows.serves (follows : s.Follows undefined stages) :
    ServesInOrder s.calls s.started s.pending (fun i => s.heap.outcome (.job i))
      (fun i => s.heap.outcome (.next i)) (fun i => s.heap.outcome (.link i)) := by
  apply follows.line.serves
  · intro i pending
    rw [WriteQueue.pending, follows.heap, called_iff] at pending
    exact pending
  · intro i
    rw [follows.heap, outcome_job]
    cases stages i <;> rfl
  · intro i o got
    rw [follows.heap, outcome_next] at got
    cases stage : stages i with
    | settled o' => rw [stage] at got; exact got
    | linked o' => rw [stage] at got; exact got
    | _ => rw [stage] at got; cases got
  · intro i e
    rw [follows.heap, outcome_link]
    split <;> nofun

theorem Follows.depth_eq (follows : s.Follows undefined stages) :
    s.writeQueueDepth = s.unlinkedJobs := by
  rw [follows.depth, unlinked, unlinkedJobs, follows.heap]
  congr 2
  apply Finset.filter_congr
  intro i _
  rw [outcome_link]
  cases (stages i).isLinked <;> simp

/-- At most one job is settled and not counted off. -/
theorem Follows.uncounted_unique (follows : s.Follows undefined stages) {i j : Nat}
    (settledI : s.heap.outcome (.next i) ≠ none) (openI : s.heap.outcome (.link i) = none)
    (settledJ : s.heap.outcome (.next j) ≠ none) (openJ : s.heap.outcome (.link j) = none) :
    i = j := by
  have stage : ∀ k, s.heap.outcome (.next k) ≠ none → s.heap.outcome (.link k) = none →
      (stages k).hasStarted = true ∧ (stages k).isLinked = false := by
    intro k settled open'
    rw [follows.heap, outcome_next] at settled
    rw [follows.heap, outcome_link] at open'
    cases stage : stages k with
    | settled o => exact ⟨rfl, rfl⟩
    | linked o => rw [stage] at open'; cases open'
    | _ => rw [stage] at settled; exact absurd rfl settled
  obtain ⟨begunI, unlinkedI⟩ := stage i settledI openI
  obtain ⟨begunJ, unlinkedJ⟩ := stage j settledJ openJ
  exact follows.line.unique begunI unlinkedI begunJ unlinkedJ

/-- When nothing is ready, a call has been linked once its job is settled. -/
theorem Follows.stage_quiet (follows : s.Follows undefined stages) (quiet : s.quiet) (i : Nat) :
    stages i = .absent ∨ (stages i = .waiting ∧ ¬PreviousLinked stages i) ∨
      stages i = .called ∨ ∃ o, stages i = .linked o := by
  have reactNext := (quiet (.next i)).1
  have adoptNext := (quiet (.next i)).2
  have reactLink := (quiet (.link i)).1
  rw [follows.heap] at reactNext adoptNext reactLink
  rw [PromiseHeap.reaction, writeHeap] at reactNext
  rw [PromiseHeap.reaction, writeHeap] at reactLink
  rw [PromiseHeap.adoption, writeHeap] at adoptNext
  cases stage : stages i with
  | absent => exact .inl rfl
  | called => exact .inr (.inr (.inl rfl))
  | linked o => exact .inr (.inr (.inr ⟨o, rfl⟩))
  | closed o => exact absurd stage (follows.unwrapped i o)
  | waiting =>
    refine .inr (.inl ⟨rfl, fun previous => ?_⟩)
    obtain ⟨o, front⟩ := Option.isSome_iff_exists.mp
      ((@previousLinked_iff V undefined stages i).mpr previous)
    rw [stage] at reactNext
    simp [Stage.callState, front] at reactNext
  | finished o =>
    rw [stage] at adoptNext
    simp [Stage.callState, outcome_job, stage] at adoptNext
  | settled o =>
    rw [stage] at reactLink
    simp [Stage.linkState, outcome_next, stage] at reactLink

theorem Follows.depth_quiet (follows : s.Follows undefined stages) (quiet : s.quiet) :
    s.writeQueueDepth = s.unsettledJobs := by
  rw [follows.depth_eq, unlinkedJobs, unsettledJobs]
  congr 2
  apply Finset.filter_congr
  intro i _
  rw [follows.heap, outcome_link, outcome_next]
  rcases follows.stage_quiet quiet i with absent | ⟨waiting, _⟩ | called | ⟨o, linked⟩
  · rw [absent]; simp [Stage.isLinked]
  · rw [waiting]; simp [Stage.isLinked]
  · rw [called]; simp [Stage.isLinked]
  · rw [linked]; simp [Stage.isLinked]

/-- When nothing is ready and no job is pending, every caller has an outcome. -/
theorem Follows.delivered (follows : s.Follows undefined stages) (quiet : s.quiet)
    (idle : ∀ i, ¬s.pending i) (i : Nat) (present : i < s.calls) :
    (s.heap.outcome (.next i)).isSome = true := by
  have linked : (stages i).isLinked = true := by
    refine @all_linked V stages s.calls ?_ i present
    intro k inside previous
    rcases follows.stage_quiet quiet k with absent | ⟨_, blocked⟩ | called | ⟨o, linked⟩
    · exact absurd ((follows.line.absent k).mp absent) (by omega)
    · exact absurd previous blocked
    · refine absurd ?_ (idle k)
      rw [pending, follows.heap]
      exact called_iff.mpr called
    · rw [linked]
      rfl
  rw [follows.heap, outcome_next]
  cases stage : stages i with
  | linked o => rfl
  | _ => rw [stage] at linked; cases linked

end WriteQueue

/-! ### The client -/

namespace MidnightClient

variable {V W : Type} (undefined : V) (empty : W)

def after (events : List (CallEvent V W)) : MidnightClient V W :=
  Runs.run (step undefined empty) (init undefined empty) events

theorem follows_after (events : List (CallEvent V W)) :
    ∃ stages delivered, (after undefined empty events).Follows undefined empty
      stages delivered := by
  apply Runs.run_invariant fun s =>
    ∃ stages delivered, Follows undefined empty s stages delivered
  · refine ⟨fun _ => .absent, fun _ => false, ?_, rfl, InLine.init, nofun, fun _ => rfl⟩
    funext name
    cases name <;> rfl
  · rintro s event ⟨stages, delivered, follows⟩
    exact follows.step event

/-- A job has been called and its promise is pending. -/
def pending (s : MidnightClient V W) (i : Nat) : Prop :=
  s.heap (.job i) = some ⟨none, .waiting⟩

/-- The function around a job has set the witness and not come to its end. -/
def inBody (s : MidnightClient V W) (i : Nat) : Prop :=
  (s.heap (.body i)).isSome = true ∧ s.heap.outcome (.body i) = none

def quiet (s : MidnightClient V W) : Prop :=
  ∀ name, s.heap.reaction name = none ∧ s.heap.adoption name = none

variable {undefined empty} {s : MidnightClient V W} {stages : Nat → Stage V}
  {delivered : Nat → Bool}

theorem Follows.serves (follows : s.Follows undefined empty stages delivered) :
    ServesInOrder s.calls s.started s.pending (fun i => s.heap.outcome (.job i))
      (fun i => s.heap.outcome (.returned i)) (fun i => s.heap.outcome (.link i)) := by
  apply follows.line.serves
  · intro i pending
    rw [MidnightClient.pending, follows.heap, callHeap_called] at pending
    exact pending
  · intro i
    rw [follows.heap, callHeap_job]
    cases stages i <;> rfl
  · intro i o got
    rw [follows.heap] at got
    cases callHeap_returned got with
    | inl settled => rw [settled]; rfl
    | inr linked => rw [linked]; rfl
  · intro i e
    rw [follows.heap, callHeap_link]
    cases stages i with
    | linked o => cases o <;> nofun
    | _ => nofun

theorem Follows.inBody_iff (follows : s.Follows undefined empty stages delivered) (i : Nat) :
    s.inBody i ↔ (stages i).jobActive = true := by
  rw [inBody, follows.heap, callHeap_body, callHeap]
  cases stages i <;> simp [Stage.bodyState, Stage.jobActive]

theorem Follows.inBody_of_pending (follows : s.Follows undefined empty stages delivered) {i : Nat}
    (pending : s.pending i) : s.inBody i := by
  rw [MidnightClient.pending, follows.heap, callHeap_called] at pending
  rw [follows.inBody_iff, pending]
  rfl

theorem Follows.stage_quiet (follows : s.Follows undefined empty stages delivered)
    (quiet : s.quiet) (i : Nat) :
    stages i = .absent ∨ (stages i = .waiting ∧ ¬PreviousLinked stages i) ∨
      stages i = .called ∨ ∃ o, stages i = .linked o := by
  have reactRun := (quiet (.run i)).1
  have adoptRun := (quiet (.run i)).2
  have reactBody := (quiet (.body i)).1
  have reactLink := (quiet (.link i)).1
  rw [follows.heap] at reactRun adoptRun reactBody reactLink
  rw [PromiseHeap.reaction, callHeap] at reactRun
  rw [PromiseHeap.reaction, callHeap] at reactBody
  rw [PromiseHeap.reaction, callHeap] at reactLink
  rw [PromiseHeap.adoption, callHeap] at adoptRun
  cases stage : stages i with
  | absent => exact .inl rfl
  | called => exact .inr (.inr (.inl rfl))
  | linked o => exact .inr (.inr (.inr ⟨o, rfl⟩))
  | waiting =>
    refine .inr (.inl ⟨rfl, fun previous => ?_⟩)
    have front : ∃ o, (callHeap undefined stages delivered).outcome (callPrevious i) = some o := by
      cases i with
      | zero => exact ⟨_, rfl⟩
      | succ k =>
        have linked := previous k rfl
        rw [callPrevious, callHeap_link]
        cases before : stages k with
        | linked o => exact ⟨_, rfl⟩
        | _ => rw [before] at linked; cases linked
    obtain ⟨o, front⟩ := front
    rw [stage] at reactRun
    simp [Stage.callState, front] at reactRun
  | finished o =>
    rw [stage] at reactBody
    simp [Stage.bodyState, callHeap_job, stage] at reactBody
  | closed o =>
    rw [stage] at adoptRun
    simp [Stage.callState, callHeap_body, stage] at adoptRun
  | settled o =>
    rw [stage] at reactLink
    simp [Stage.linkState, callHeap_run, stage] at reactLink

theorem Follows.delivered_quiet (follows : s.Follows undefined empty stages delivered)
    (quiet : s.quiet) (idle : ∀ i, ¬s.pending i) (i : Nat) (present : i < s.calls) :
    (s.heap.outcome (.returned i)).isSome = true := by
  have linked : (stages i).isLinked = true := by
    refine @all_linked V stages s.calls ?_ i present
    intro k inside previous
    rcases follows.stage_quiet quiet k with absent | ⟨_, blocked⟩ | called | ⟨o, linked⟩
    · exact absurd ((follows.line.absent k).mp absent) (by omega)
    · exact absurd previous blocked
    · refine absurd ?_ (idle k)
      rw [pending, follows.heap]
      exact callHeap_called.mpr called
    · rw [linked]
      rfl
  have adoptReturned := (quiet (.returned i)).2
  rw [follows.heap] at adoptReturned ⊢
  rw [PromiseHeap.adoption, callHeap] at adoptReturned
  rw [PromiseHeap.outcome, callHeap]
  cases stage : stages i with
  | linked o =>
    cases done : delivered i with
    | true => rfl
    | false =>
      rw [stage, done] at adoptReturned
      simp [Stage.returnedState, callHeap_run, stage] at adoptReturned
  | _ => rw [stage] at linked; cases linked

end MidnightClient

/-! ## Both chains -/

/-- Both chains serve their calls in order.  The depth of the write queue counts the calls whose
    link has not settled: the jobs not settled, and at most one that is settled and not counted
    off.  The witness is that of the call whose function runs, and empty when none does. -/
theorem promise_chains_serve_in_order {V W : Type} (undefined : V) (empty : W) :
    (∀ events, let s := WriteQueue.after undefined events
      ServesInOrder s.calls s.started s.pending (fun i => s.heap.outcome (.job i))
        (fun i => s.heap.outcome (.next i)) (fun i => s.heap.outcome (.link i)) ∧
      (∀ e, s.heap.outcome s.writeChain ≠ some (.rejected e)) ∧
      s.writeQueueDepth = s.unlinkedJobs ∧
      (∀ i j, s.heap.outcome (.next i) ≠ none → s.heap.outcome (.link i) = none →
        s.heap.outcome (.next j) ≠ none → s.heap.outcome (.link j) = none → i = j) ∧
      (s.quiet → s.writeQueueDepth = s.unsettledJobs) ∧
      (s.quiet → (∀ i, ¬s.pending i) →
        ∀ i, i < s.calls → (s.heap.outcome (.next i)).isSome = true)) ∧
    (∀ events : List (CallEvent V W), let s := MidnightClient.after undefined empty events
      ServesInOrder s.calls s.started s.pending (fun i => s.heap.outcome (.job i))
        (fun i => s.heap.outcome (.returned i)) (fun i => s.heap.outcome (.link i)) ∧
      (∀ e, s.heap.outcome s.callTxChain ≠ some (.rejected e)) ∧
      (∀ i, s.pending i → s.inBody i) ∧
      (∀ i, s.inBody i → s.pendingPredicate = s.witnesses.getD i empty) ∧
      ((∀ i, ¬s.inBody i) → s.pendingPredicate = empty) ∧
      (s.quiet → (∀ i, ¬s.pending i) →
        ∀ i, i < s.calls → (s.heap.outcome (.returned i)).isSome = true)) := by
  constructor
  · intro events
    obtain ⟨stages, follows⟩ := WriteQueue.follows_after undefined events
    have serves := follows.serves
    refine ⟨serves, ?_, follows.depth_eq, fun i j => follows.uncounted_unique,
      follows.depth_quiet, follows.delivered⟩
    intro e
    rw [follows.chain]
    cases (WriteQueue.after undefined events).calls with
    | zero => rw [follows.heap]; nofun
    | succ k => exact serves.noRejection k e
  · intro events
    obtain ⟨stages, delivered, follows⟩ := MidnightClient.follows_after undefined empty events
    have serves := follows.serves
    refine ⟨serves, ?_, fun i => follows.inBody_of_pending, ?_, ?_, follows.delivered_quiet⟩
    · intro e
      rw [follows.chain]
      cases (MidnightClient.after undefined empty events).calls with
      | zero => rw [follows.heap]; nofun
      | succ k => exact serves.noRejection k e
    · intro i inBody
      exact follows.active i ((follows.inBody_iff i).mp inBody)
    · intro none
      apply follows.idle
      intro i
      by_contra running
      rw [Bool.not_eq_false] at running
      exact none i ((follows.inBody_iff i).mpr running)

/-- A job that throws is settled at once, and counted off only by the reaction after it. -/
theorem depth_counts_settled_job :
    (WriteQueue.after (V := Nat) 0 [.serialize, .react (.next 0) (.throws 1)]).unsettledJobs = 0 ∧
    (WriteQueue.after (V := Nat) 0 [.serialize, .react (.next 0) (.throws 1)]).writeQueueDepth =
      1 := by
  constructor
  · decide
  · rfl

end OwlId.Sidecar
