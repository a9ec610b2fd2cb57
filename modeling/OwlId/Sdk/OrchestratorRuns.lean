import Mathlib
import OwlId.Sdk.Orchestrator

/-! # Runs of the orchestrator

What one iteration of the orchestrator can do is read off its trace: `AttemptTrace` lists the
traces of the attempts and `RoundTrace` those of a whole iteration, and both hold in every run
whatever the service, the prover, the signal and the clock do.  From them follow the bound on
relays, what precedes a relay, and what a result rests on.
-/

namespace OwlId.Sdk

open OwlId.Lib OwlId.ProofSystem OwlId.Contracts Traced

/-! ## Traces -/

/-- Only answers that the query's key is not attested. -/
def Unattested (query : AttestQuery) (asks : List Event) : Prop :=
  ∀ e ∈ asks, e = .asked query false

section

variable (query : AttestQuery) (call : CircuitCall)

/-- The traces of the given number of attempts, with their results. -/
inductive AttemptTrace : Nat → Except Stop EnsureResult → List Event → Prop
  | unproved (n : Nat) (e : Stop) : AttemptTrace n (.error e) []
  | cancelled (n : Nat) (tx : Bytes) :
    AttemptTrace (n + 1) (.error abortError) [.proved call tx true]
  | unsettled (n : Nat) (tx : Bytes) (e : Stop) :
    AttemptTrace (n + 1) (.error e) [.proved call tx false, .relayed call.kind tx]
  | landed (n : Nat) (tx : Bytes) (typed : call.wellTyped = true) :
    AttemptTrace (n + 1) (.ok ⟨query.predicate, query.threshold, false⟩)
      [.proved call tx false, .relayed call.kind tx, .ended success]
  | failed (n : Nat) (tx : Bytes) (status : String) (asks : List Event) (e : Stop)
      (no : Unattested query asks) :
    AttemptTrace (n + 1) (.error e)
      (.proved call tx false :: .relayed call.kind tx :: .ended status :: asks)
  | attested (n : Nat) (tx : Bytes) (status : String) (asks : List Event)
      (no : Unattested query asks) :
    AttemptTrace (n + 1) (.ok ⟨query.predicate, query.threshold, true⟩)
      (.proved call tx false :: .relayed call.kind tx :: .ended status ::
        (asks ++ [.asked query true]))
  | again (n : Nat) (tx : Bytes) (asks : List Event) (r : Except Stop EnsureResult)
      (rest : List Event) (answered : asks ≠ []) (no : Unattested query asks)
      (next : AttemptTrace n r rest) :
    AttemptTrace (n + 1) r
      (.proved call tx false :: .relayed call.kind tx :: .ended failFallible :: (asks ++ rest))

end

section

variable {σ Snapshot : Type} {R : Runtime σ Snapshot}

theorem askAttested_ensures (query : AttestQuery) :
    Ensures (askAttested R query) fun r t =>
      (∃ e, r = .error e ∧ t = []) ∨ ∃ answer, r = .ok answer ∧ t = [.asked query answer] := by
  refine ensures_call fun s => ?_
  cases (R.isAttested query s).1 with
  | error message => exact ensures_stop (.inl ⟨_, rfl, rfl⟩)
  | ok answer => exact ensures_record (ensures_pure (.inr ⟨answer, rfl, rfl⟩))

theorem proveOnce_ensures (threshold : Option Nat) (call : CircuitCall) :
    Ensures (proveOnce R threshold call) fun r t =>
      (∃ e, r = .error e ∧ t = []) ∨
      (∃ tx, r = .error abortError ∧ t = [.proved call tx true]) ∨
      ∃ tx, r = .ok tx ∧ t = [.proved call tx false] ∧ call.wellTyped = true := by
  refine ensures_call fun s => ?_
  cases (R.snapshot call.kind s).1 with
  | error message => exact ensures_stop (.inl ⟨_, rfl, rfl⟩)
  | ok snapshot =>
    refine ensures_call fun s => ?_
    cases proof : (R.prove call snapshot s).1 with
    | error message => exact ensures_stop (.inl ⟨_, rfl, rfl⟩)
    | ok tx =>
      refine ensures_look fun s => ensures_record ?_
      cases R.aborted s with
      | true => exact ensures_stop (.inr (.inl ⟨tx, rfl, rfl⟩))
      | false => exact ensures_pure (.inr (.inr ⟨tx, rfl, rfl, R.typed _ _ _ _ proof⟩))

theorem relayOnce_ensures (predicate : String) (kind : PredicateKind) (tx : Bytes) :
    Ensures (relayOnce R predicate kind tx) fun r t =>
      (∃ e, r = .error e ∧ t = [.relayed kind tx]) ∨
      ∃ job, r = .ok job ∧ t = [.relayed kind tx, .ended job.2.status] := by
  refine ensures_record (ensures_call fun s => ?_)
  cases (R.relay kind tx s).1 with
  | error message => exact ensures_stop (.inl ⟨_, rfl, rfl⟩)
  | ok jobId =>
    by_cases named : jobId = ""
    · simp only [named, if_true]
      exact ensures_stop (.inl ⟨_, rfl, rfl⟩)
    · simp only [named, if_false]
      refine ensures_call fun s => ensures_look fun s' => ?_
      cases (R.statusEvents jobId s).1.1.find? isTerminal with
      | none =>
        cases (R.statusEvents jobId s).1.2 with
        | some message => exact ensures_stop (.inl ⟨_, rfl, rfl⟩)
        | none =>
          cases R.aborted s' with
          | true => exact ensures_stop (.inl ⟨_, rfl, rfl⟩)
          | false => exact ensures_stop (.inl ⟨_, rfl, rfl⟩)
      | some ev =>
        cases R.aborted s' with
        | true => exact ensures_stop (.inl ⟨_, rfl, rfl⟩)
        | false => exact ensures_record (ensures_pure (.inr ⟨(jobId, ev), rfl, rfl⟩))

theorem recheckReplay_ensures (query : AttestQuery) (job : String × PredicateStatusEvent) :
    Ensures (recheckReplay R query job) fun r t =>
      (∃ e, r = .error e ∧ t = []) ∨ (r = .ok true ∧ t = [.asked query true]) ∨
      (r = .ok false ∧ Unattested query t) := by
  rw [recheckReplay]
  split
  · refine (askAttested_ensures query).mono ?_
    rintro r t (⟨e, rfl, rfl⟩ | ⟨answer, rfl, rfl⟩)
    · exact .inl ⟨e, rfl, rfl⟩
    · cases answer with
      | true => exact .inr (.inl ⟨rfl, rfl⟩)
      | false => exact .inr (.inr ⟨rfl, by simp [Unattested]⟩)
  · exact ensures_pure (.inr (.inr ⟨rfl, by simp [Unattested]⟩))

theorem recheck_ensures (query : AttestQuery) (job : String × PredicateStatusEvent) :
    Ensures (recheck R query job) fun r t =>
      (∃ e, r = .error e ∧ Unattested query t) ∨
      (∃ asks, r = .ok true ∧ t = asks ++ [.asked query true] ∧ Unattested query asks) ∨
      (r = .ok false ∧ t ≠ [] ∧ Unattested query t) := by
  refine (recheckReplay_ensures query job).bind ?_ ?_
  · rintro e t (⟨_, _, rfl⟩ | ⟨impossible, _⟩ | ⟨impossible, _⟩)
    · exact .inl ⟨e, rfl, by simp [Unattested]⟩
    · cases impossible
    · cases impossible
  · rintro replayed t (⟨e, impossible, _⟩ | ⟨answer, rfl⟩ | ⟨answer, no⟩)
    · cases impossible
    · obtain rfl := Except.ok.inj answer
      exact ensures_pure (.inr (.inl ⟨[], rfl, rfl, by simp [Unattested]⟩))
    · obtain rfl := Except.ok.inj answer
      refine (askAttested_ensures query).mono ?_
      rintro r t' (⟨e, rfl, rfl⟩ | ⟨answer, rfl, rfl⟩)
      · exact .inl ⟨e, rfl, by rwa [List.append_nil]⟩
      · cases answer with
        | true => exact .inr (.inl ⟨t, rfl, rfl, no⟩)
        | false =>
          refine .inr (.inr ⟨rfl, by simp, fun e member => ?_⟩)
          rcases List.mem_append.mp member with before | last
          · exact no e before
          · exact List.mem_singleton.mp last

/-- The attempts have no other traces. -/
theorem attempts_ensures (query : AttestQuery) (call : CircuitCall) (left : Nat) :
    Ensures (attempts R query call left) (AttemptTrace query call left) := by
  induction left with
  | zero => exact ensures_stop (.unproved 0 _)
  | succ left ih =>
    refine (proveOnce_ensures query.threshold call).bind ?_ ?_
    · rintro e t (⟨_, _, rfl⟩ | ⟨tx, stopped, rfl⟩ | ⟨tx, impossible, _⟩)
      · exact .unproved _ e
      · obtain rfl := Except.error.inj stopped
        exact .cancelled left tx
      · cases impossible
    · rintro tx t (⟨e, impossible, _⟩ | ⟨_, impossible, _⟩ | ⟨_, proved, rfl, typed⟩)
      · cases impossible
      · cases impossible
      · obtain rfl := Except.ok.inj proved
        refine (relayOnce_ensures query.predicate call.kind tx).bind ?_ ?_
        · rintro e t (⟨_, _, rfl⟩ | ⟨job, impossible, _⟩)
          · exact .unsettled left tx e
          · cases impossible
        · rintro job t (⟨e, impossible, _⟩ | ⟨_, relayed, rfl⟩)
          · cases impossible
          · obtain rfl := Except.ok.inj relayed
            by_cases succeeded : job.2.status = success
            · simp only [succeeded, if_true]
              exact ensures_pure (.landed left tx typed)
            · simp only [succeeded, if_false]
              refine (recheck_ensures query job).bind ?_ ?_
              · rintro e t (⟨_, _, no⟩ | ⟨asks, impossible, _⟩ | ⟨impossible, _⟩)
                · exact .failed left tx job.2.status t e no
                · cases impossible
                · cases impossible
              · rintro settled t
                  (⟨e, impossible, _⟩ | ⟨asks, answer, rfl, no⟩ | ⟨answer, answered, no⟩)
                · cases impossible
                · obtain rfl := Except.ok.inj answer
                  exact ensures_pure (by
                    simpa using AttemptTrace.attested left tx job.2.status asks no)
                · obtain rfl := Except.ok.inj answer
                  simp only [Bool.false_eq_true, if_false]
                  split
                  · rename_i more
                    refine ih.mono fun r rest next => ?_
                    rw [more.1]
                    exact .again left tx t r rest answered no next
                  · exact ensures_stop (by
                      simpa using AttemptTrace.failed left tx job.2.status t _ no)

/-- The traces of an iteration, with its result. -/
inductive RoundTrace (H : Hashes) (N : Numerals) (doc : CredentialJson)
    (required : Option (List RequiredAttestation)) (sp : OwlAttestationRef) :
    Except Stop EnsureResult → List Event → Prop
  | unplanned (e : Stop) (stopped : planFor H doc required sp = .error e) :
    RoundTrace H N doc required sp (.error e) []
  | unanswered (e : Stop) : RoundTrace H N doc required sp (.error e) []
  | already (plan : Plan) (planned : planFor H doc required sp = .ok plan) :
    RoundTrace H N doc required sp (.ok ⟨plan.query.predicate, plan.query.threshold, true⟩)
      [.asked plan.query true]
  | unattempted (plan : Plan) (e : Stop) :
    RoundTrace H N doc required sp (.error e) [.asked plan.query false]
  | attempted (plan : Plan) (today : CalendarDate) (call : CircuitCall)
      (r : Except Stop EnsureResult) (t : List Event)
      (planned : planFor H doc required sp = .ok plan)
      (assembled : assemble H N doc plan today = .ok call)
      (tried : AttemptTrace plan.query call maxAttestAttempts r t) :
    RoundTrace H N doc required sp r (.asked plan.query false :: t)

variable {H : Hashes} {N : Numerals} {doc : CredentialJson}
  {required : Option (List RequiredAttestation)}

theorem ensureOne_ensures (sp : OwlAttestationRef) :
    Ensures (ensureOne R H N doc required sp) (RoundTrace H N doc required sp) := by
  refine ensures_ofExcept (fun e stopped => .unplanned e stopped) fun plan planned => ?_
  refine (askAttested_ensures plan.query).bind ?_ ?_
  · rintro e t (⟨_, _, rfl⟩ | ⟨answer, impossible, _⟩)
    · exact .unanswered e
    · cases impossible
  · rintro answer t (⟨e, impossible, _⟩ | ⟨_, answered, rfl⟩)
    · cases impossible
    · obtain rfl := Except.ok.inj answered
      cases answer with
      | true => exact ensures_pure (.already plan planned)
      | false =>
        refine ensures_look fun s => ensures_ofExcept (fun e _ => .unattempted plan e)
          fun call assembled => ensures_look fun s' => ?_
        cases R.aborted s' with
        | true => exact ensures_stop (.unattempted plan _)
        | false =>
          exact (attempts_ensures plan.query call _).mono fun r t tried =>
            .attempted plan _ call r t planned assembled tried

/-- What is returned are the results of iterations. -/
theorem mem_of_returned {its : List Iteration} {results : List EnsureResult}
    (returns : returned its = .ok results) {result : EnsureResult} (member : result ∈ results) :
    ∃ it ∈ its, it.result = .ok result := by
  rw [returned] at returns
  cases thrown : its.findSome? Iteration.thrown with
  | some message => simp [thrown] at returns
  | none =>
    simp only [thrown, Except.ok.injEq] at returns
    rw [← returns, List.mem_filterMap] at member
    obtain ⟨it, among, has⟩ := member
    cases outcome : it.result with
    | error e => simp [outcome, Except.toOption] at has
    | ok other =>
      simp only [outcome, Except.toOption, Option.some.injEq] at has
      exact ⟨it, among, by rw [outcome, has]⟩

theorem roundTrace_of_mem {stamped : List OwlAttestationRef} {s : σ} {it : Iteration}
    (member : it ∈ (iterations R H N doc required stamped s).1) :
    it.stamped ∈ stamped ∧ RoundTrace H N doc required it.stamped it.result it.trace := by
  induction stamped generalizing s with
  | nil => cases member
  | cons sp rest ih =>
    rw [iterations] at member
    simp only at member
    split at member
    · obtain rfl := List.mem_singleton.mp member
      exact ⟨List.mem_cons_self, ensureOne_ensures sp s⟩
    · rcases List.mem_cons.mp member with rfl | later
      · exact ⟨List.mem_cons_self, ensureOne_ensures sp s⟩
      · obtain ⟨stamp, traced⟩ := ih later
        exact ⟨List.mem_cons_of_mem _ stamp, traced⟩

/-- Every iteration of a run has such a trace, and what is returned are their results. -/
theorem ensure_ensures :
    Ensures (ensureCredentialPredicatesAttested R H N doc required) fun r its =>
      (∀ it ∈ its, it.stamped ∈ doc.predicateAttestations ∧
        RoundTrace H N doc required it.stamped it.result it.trace) ∧
      ∀ results, r = .ok results → ∀ result ∈ results, ∃ it ∈ its, it.result = .ok result :=
  fun _ => ⟨fun _ => roundTrace_of_mem, fun _ returns _ => mem_of_returned returns⟩

/-! ## Relays -/

def isRelay : Event → Bool
  | .relayed .. => true
  | _ => false

/-- Nothing has been relayed, or the last job was rejected on replay and the service has
    answered since that the key is not attested. -/
def Restartable (query : AttestQuery) (past : List Event) : Prop :=
  past.countP isRelay = 0 ∨
    ∃ before asks, past = before ++ .ended failFallible :: asks ∧ asks ≠ [] ∧
      Unattested query asks

/-- A relay follows the proof of its own transaction, at whose return the signal was not
    aborted. -/
def Warranted (query : AttestQuery) (call : CircuitCall) (past : List Event) : Event → Prop
  | .relayed kind tx => kind = call.kind ∧
      ∃ early, past = early ++ [.proved call tx false] ∧ Restartable query early
  | _ => True

theorem unattested_countP {query : AttestQuery} {asks : List Event}
    (no : Unattested query asks) : asks.countP isRelay = 0 := by
  rw [List.countP_eq_zero]
  intro e member
  rw [no e member]
  exact Bool.false_ne_true

theorem each_warranted_asks {query : AttestQuery} {call : CircuitCall} {past asks : List Event}
    (plain : asks.countP isRelay = 0) : Each (Warranted query call) past asks := by
  induction asks generalizing past with
  | nil => trivial
  | cons e rest ih =>
    obtain ⟨here, later⟩ := (List.countP_eq_zero.mp plain |> List.forall_mem_cons.mp)
    refine ⟨?_, ih (List.countP_eq_zero.mpr later)⟩
    cases e with
    | relayed kind tx => exact absurd rfl here
    | _ => trivial

variable {query : AttestQuery} {call : CircuitCall} {n : Nat} {r : Except Stop EnsureResult}
  {t : List Event}

namespace AttemptTrace

theorem relays_le (tried : AttemptTrace query call n r t) : t.countP isRelay ≤ n := by
  induction tried with
  | unproved n e => exact Nat.zero_le n
  | cancelled n tx | unsettled n tx e | landed n tx typed => simp [List.countP_cons, isRelay]
  | failed n tx status asks e no | attested n tx status asks no =>
    simp [List.countP_cons, isRelay, unattested_countP no]
  | again n tx asks r rest answered no next ih =>
    simp only [List.countP_cons, List.countP_append, isRelay, unattested_countP no]
    simp only [Bool.false_eq_true, if_false, if_true]
    omega

/-- The first three events of a round whose proof was relayed. -/
theorem each_warranted_cons {past later : List Event} (fresh : Restartable query past)
    (tx : Bytes) (tail : Each (Warranted query call)
      (past ++ [.proved call tx false] ++ [.relayed call.kind tx]) later) :
    Each (Warranted query call) past
      (.proved call tx false :: .relayed call.kind tx :: later) :=
  ⟨trivial, ⟨rfl, past, rfl, fresh⟩, tail⟩

theorem each_warranted (tried : AttemptTrace query call n r t) {past : List Event}
    (fresh : Restartable query past) : Each (Warranted query call) past t := by
  induction tried generalizing past with
  | unproved n e => trivial
  | cancelled n tx => exact ⟨trivial, trivial⟩
  | unsettled n tx e => exact each_warranted_cons fresh tx trivial
  | landed n tx typed => exact each_warranted_cons fresh tx ⟨trivial, trivial⟩
  | failed n tx status asks e no =>
    exact each_warranted_cons fresh tx ⟨trivial, each_warranted_asks (unattested_countP no)⟩
  | attested n tx status asks no =>
    refine each_warranted_cons fresh tx ⟨trivial, each_warranted_asks ?_⟩
    simp [List.countP_append, unattested_countP no, isRelay]
  | again n tx asks r rest answered no next ih =>
    refine each_warranted_cons fresh tx ⟨trivial, each_append.mpr
      ⟨each_warranted_asks (unattested_countP no), ih (.inr ⟨past ++ [.proved call tx false] ++
        [.relayed call.kind tx], asks, ?_, answered, no⟩)⟩⟩
    rw [List.append_assoc _ [Event.ended failFallible], List.singleton_append]

end AttemptTrace

/-- A relay in an iteration comes after the answer that the plan's key is not attested and
    after the proof of the assembled call, with the signal not aborted when it returned; a second
    one only after a job that was rejected on replay and one more such answer; and there are at
    most three. -/
theorem relays_warranted (R : Runtime σ Snapshot) (H : Hashes) (N : Numerals)
    (doc : CredentialJson) (required : Option (List RequiredAttestation)) (s : σ) :
    ∀ it ∈ (ensureCredentialPredicatesAttested R H N doc required s).2.1,
      it.trace.countP isRelay ≤ maxAttestAttempts ∧
      ∀ past kind tx later, it.trace = past ++ .relayed kind tx :: later →
        ∃ plan today call early, planFor H doc required it.stamped = .ok plan ∧
          assemble H N doc plan today = .ok call ∧ kind = call.kind ∧
          past = .asked plan.query false :: (early ++ [.proved call tx false]) ∧
          Restartable plan.query (.asked plan.query false :: early) := by
  intro it member
  obtain ⟨_, traced⟩ := roundTrace_of_mem member
  have none_of_plain {trace past later : List Event} (plain : trace.countP isRelay = 0)
      {kind : PredicateKind} {tx : Bytes} (split : trace = past ++ .relayed kind tx :: later) :
      False := by
    rw [List.countP_eq_zero] at plain
    exact absurd rfl (plain (.relayed kind tx) (by simp [split]))
  cases traced' : it with
  | mk stamped result trace =>
  rw [traced'] at traced
  cases traced with
  | unplanned e stopped | unanswered e | already plan planned | unattempted plan e =>
    exact ⟨Nat.zero_le _, fun past kind tx later split => (none_of_plain (by rfl) split).elim⟩
  | attempted plan today call r t planned assembled tried =>
    refine ⟨by simpa [List.countP_cons, isRelay] using tried.relays_le, ?_⟩
    intro past kind tx later split
    have each : Each (Warranted plan.query call) [.asked plan.query false] t :=
      tried.each_warranted (.inl rfl)
    cases past with
    | nil => cases split
    | cons first past =>
      obtain ⟨rfl, tail⟩ := List.cons.inj split
      obtain ⟨kinds, early, proved, restartable⟩ := each.at_split tail
      cases early with
      | nil => cases past <;> cases proved
      | cons first early =>
        obtain ⟨rfl, last⟩ := List.cons.inj proved
        exact ⟨plan, today, call, early, planned, assembled, kinds,
          congrArg (List.cons _) last, restartable⟩

end

/-! ### A sample run -/

/-- A service on which the age of 18 is attested and every relayed job succeeds. -/
def sampleRuntime : Runtime Unit Unit where
  isAttested query s := (.ok (query.threshold == some 18), s)
  snapshot _ s := (.ok (), s)
  relay _ _ s := (.ok "job", s)
  statusEvents _ s := (([⟨"queued", none⟩, ⟨success, none⟩], none), s)
  prove call _ s := (if call.wellTyped then .ok [1] else .error "type error", s)
  aborted _ := false
  today _ := ⟨2026, 7, 15, by decide, by decide⟩
  typed call _ s tx proved := by
    by_contra ill
    rw [if_neg ill] at proved
    cases proved

def sampleProofJson : CredentialJson where
  rootHash := "id"
  owlRoot := some "0101010101010101010101010101010101010101010101010101010101010101"
  claimDisclosures := [⟨"birthdate", "salt one", .string "1990-05-17"⟩]
  attributes := [("dateOfBirth", .string "1990-05-17")]
  predicateAttestations := [⟨"age", none, none, none, none, none, none⟩]

def sampleNumerals : Numerals where
  text _ := "0"
  parse _ := none

def sampleRequired : List RequiredAttestation := [{ predicate := "age", threshold := some 21 }]

theorem relays_warranted_at_sample :
    ∃ (past later : List Event) (kind : PredicateKind) (tx : Bytes) (plan : Plan)
      (call : CircuitCall) (early : List Event),
      (ensureCredentialPredicatesAttested sampleRuntime sampleHashes sampleNumerals
        sampleProofJson (some sampleRequired) ()).2.1.map Iteration.trace =
          [past ++ .relayed kind tx :: later] ∧
      kind = call.kind ∧ past = .asked plan.query false :: (early ++ [.proved call tx false]) := by
  obtain ⟨it, past, later, kind, tx, only, split⟩ :
      ∃ (it : Iteration) (past later : List Event) (kind : PredicateKind) (tx : Bytes),
        (ensureCredentialPredicatesAttested sampleRuntime sampleHashes sampleNumerals
          sampleProofJson (some sampleRequired) ()).2.1 = [it] ∧
        it.trace = past ++ .relayed kind tx :: later :=
    ⟨_, [_, _], _, _, _, rfl, rfl⟩
  obtain ⟨_, warranted⟩ := relays_warranted sampleRuntime sampleHashes sampleNumerals
    sampleProofJson (some sampleRequired) () it (only ▸ List.mem_singleton_self it)
  obtain ⟨plan, _, call, early, _, _, kinds, before, _⟩ := warranted past kind tx later split
  exact ⟨past, later, kind, tx, plan, call, early, by rw [only, List.map_singleton, split],
    kinds, before⟩

end OwlId.Sdk
