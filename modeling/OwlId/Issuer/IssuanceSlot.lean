import Mathlib
import OwlId.Issuer.SessionWrites
import OwlId.Lib.Runs

/-! # The issuance slot of a session

`issue_credential` claims the slot of its session under one lock, mints across many awaits,
and gives the slot back when it fails before the first credential.  The requests run
interleaved with each other, with every other handler and with the clean-up.

`Occupies` says which requests keep a slot from others: those that are between their claim
and its end, those that returned credentials and those whose client went away meanwhile.
The invariant is that a session has at most one of them, and its flag is set exactly when
it has one.
-/

namespace OwlId.Issuer

open OwlId.Lib

variable {Claims Vc : Type}

/-! ## Requests -/

/-- Where a request stands. -/
inductive IssuePhase (Claims Vc : Type) where
  /-- Nothing was done yet. -/
  | arrived
  /-- The slot is claimed, the claims are not read yet. -/
  | claimed
  | minting (claims : Claims) (credentials : List Vc)
  /-- Nothing was minted, and the slot is to be given back. -/
  | restoring
  /-- The loop over the batch is done. -/
  | minted (credentials : List Vc)
  | refused (error : SessionError)
  | failed
  | returned (credentials : List Vc)
  /-- The client went away before the claim. -/
  | abandoned
  /-- The client went away after the claim. -/
  | dropped

structure IssueRequest (Claims Vc : Type) where
  session : Uuid
  batchSize : Option Nat
  phase : IssuePhase Claims Vc

/-- `batch_size.unwrap_or(1).clamp(1, 64)`. -/
def IssueRequest.batch (request : IssueRequest Claims Vc) : Nat :=
  min (max (request.batchSize.getD 1) 1) 64

/-- The round of the minting loop in which the bridge answers. -/
def mintRound (batch : Nat) (claims : Claims) (credentials : List Vc) :
    Except String Vc → IssuePhase Claims Vc
  | .ok vc =>
    if (credentials ++ [vc]).length < batch then .minting claims (credentials ++ [vc])
    else .minted (credentials ++ [vc])
  -- a batch that was started stops early
  | .error _ => if credentials.isEmpty then .restoring else .minted credentials

/-- `update_session(id, |s| s.credential_issued = false)`, its result ignored. -/
def restoreSlot (db : IdpDatabase Claims) (id : Uuid) : IdpDatabase Claims :=
  match db.updateSession id fun session => { session with credentialIssued := false } with
  | .ok db' => db'
  | .error _ => db

/-- What a request does between two awaits; `answer` is used where it asks the bridge. -/
def IssueRequest.proceed (db : IdpDatabase Claims) (request : IssueRequest Claims Vc)
    (answer : Except String Vc) : IdpDatabase Claims × IssuePhase Claims Vc :=
  match request.phase with
  | .arrived =>
    match db.tryClaimIssuance request.session with
    | .ok db' => (db', .claimed)
    | .error e => (db, .refused e)
  | .claimed =>
    match db.getClaims request.session with
    | some claims => (db, .minting claims [])
    | none => (db, .restoring)
  | .minting claims credentials => (db, mintRound request.batch claims credentials answer)
  | .restoring => (restoreSlot db request.session, .failed)
  | .minted credentials => (db, .returned credentials)
  | phase => (db, phase)

/-- The future of a request that did not end is dropped with its connection. -/
def IssuePhase.drop : IssuePhase Claims Vc → IssuePhase Claims Vc
  | .arrived => .abandoned
  | .claimed | .minting _ _ | .restoring | .minted _ => .dropped
  | phase => phase

/-! ## The service -/

/-- `drawn` is the number of session ids drawn so far: a `Uuid::new_v4` is not drawn twice. -/
structure IssuanceState (Claims Vc : Type) where
  db : IdpDatabase Claims
  now : Nat
  drawn : Uuid
  requests : Nat → Option (IssueRequest Claims Vc)

inductive IssuanceStep (Claims Vc : Type) where
  | createSession (fresh providerId : String) (flowType : ProviderFlowType)
  | write (id : Uuid) (write : SessionWrite Claims)
  | tick (seconds : Nat)
  | cleanup
  | issue (request : Nat) (session : Uuid) (batchSize : Option Nat)
  | proceed (request : Nat) (answer : Except String Vc)
  | drop (request : Nat)

namespace IssuanceState

def start : IssuanceState Claims Vc := ⟨IdpDatabase.new, 0, 0, fun _ => none⟩

def setRequest (s : IssuanceState Claims Vc) (i : Nat) (request : IssueRequest Claims Vc) :
    IssuanceState Claims Vc :=
  { s with requests := Function.update s.requests i (some request) }

def step (s : IssuanceState Claims Vc) : IssuanceStep Claims Vc → IssuanceState Claims Vc
  | .createSession fresh providerId flowType =>
    { s with
      db := s.db.createSessionWithFlow
        (VerificationSession.new s.drawn fresh providerId flowType s.now)
      drawn := s.drawn + 1 }
  | .write id write =>
    match write.apply s.db id s.now with
    | .ok db => { s with db := db }
    | .error _ => s
  | .tick seconds => { s with now := s.now + seconds }
  | .cleanup => { s with db := s.db.cleanupExpired s.now }
  | .issue i session batchSize =>
    match s.requests i with
    | none => s.setRequest i ⟨session, batchSize, .arrived⟩
    | some _ => s
  | .proceed i answer =>
    match s.requests i with
    | some request =>
      let (db, phase) := request.proceed s.db answer
      { s.setRequest i { request with phase := phase } with db := db }
    | none => s
  | .drop i =>
    match s.requests i with
    | some request => s.setRequest i { request with phase := request.phase.drop }
    | none => s

abbrev run (steps : List (IssuanceStep Claims Vc)) : IssuanceState Claims Vc :=
  Runs.run step start steps

end IssuanceState

/-! ## Who has the slot -/

namespace IssuePhase

/-- Between a successful `try_claim_issuance` and its end. -/
def InSlot : IssuePhase Claims Vc → Prop
  | .claimed | .minting _ _ | .restoring | .minted _ => True
  | _ => False

def IsReturned : IssuePhase Claims Vc → Prop
  | .returned _ => True
  | _ => False

/-- Failed after the claim, which it does only before the first credential. -/
def IsFailed : IssuePhase Claims Vc → Prop
  | .failed => True
  | _ => False

/-- The slot was claimed and not given back. -/
def Occupies : IssuePhase Claims Vc → Prop
  | .claimed | .minting _ _ | .restoring | .minted _ | .returned _ | .dropped => True
  | _ => False

def HasClaimed (phase : IssuePhase Claims Vc) : Prop := phase.Occupies ∨ phase.IsFailed

theorem InSlot.occupies {phase : IssuePhase Claims Vc} (inSlot : phase.InSlot) :
    phase.Occupies := by
  cases phase <;> trivial

theorem IsReturned.occupies {phase : IssuePhase Claims Vc} (returned : phase.IsReturned) :
    phase.Occupies := by
  cases phase <;> trivial

theorem not_occupies_of_failed {phase : IssuePhase Claims Vc} (failed : phase.IsFailed) :
    ¬ phase.Occupies := by
  cases phase <;> simp_all [IsFailed, Occupies]

theorem drop_occupies (phase : IssuePhase Claims Vc) : phase.drop.Occupies ↔ phase.Occupies := by
  cases phase <;> rfl

theorem mintRound_occupies (batch : Nat) (claims : Claims) (credentials : List Vc)
    (answer : Except String Vc) : (mintRound batch claims credentials answer).Occupies := by
  unfold mintRound
  split
  · split <;> trivial
  · split <;> trivial

end IssuePhase

namespace IssuanceState

open IssuePhase

/-- Request `i` is about session `id` and in a phase of this kind. -/
def At (s : IssuanceState Claims Vc) (i : Nat) (id : Uuid)
    (kind : IssuePhase Claims Vc → Prop) : Prop :=
  ∃ request, s.requests i = some request ∧ request.session = id ∧ kind request.phase

theorem At.mono {s : IssuanceState Claims Vc} {i : Nat} {id : Uuid}
    {kind kind' : IssuePhase Claims Vc → Prop} (here : s.At i id kind)
    (wider : ∀ phase, kind phase → kind' phase) : s.At i id kind' := by
  obtain ⟨request, found, session, phase⟩ := here
  exact ⟨request, found, session, wider _ phase⟩

theorem at_setRequest {s : IssuanceState Claims Vc} {i j : Nat} {id : Uuid}
    {request : IssueRequest Claims Vc} {kind : IssuePhase Claims Vc → Prop} :
    (s.setRequest i request).At j id kind ↔
      if j = i then request.session = id ∧ kind request.phase else s.At j id kind := by
  by_cases same : j = i
  · subst same
    simp [At, setRequest]
  · simp [At, setRequest, same]

/-! ## The invariant -/

/-- A session has at most one occupant, and its flag says whether it has one. -/
structure Slotted (s : IssuanceState Claims Vc) : Prop where
  sessionDrawn : ∀ id session, s.db.getSession id = some session → id < s.drawn
  occupantDrawn : ∀ i id, s.At i id Occupies → id < s.drawn
  alone : ∀ id i j, s.At i id Occupies → s.At j id Occupies → i = j
  flag : ∀ id session, s.db.getSession id = some session →
    (session.credentialIssued = true ↔ ∃ i, s.At i id Occupies)

theorem start_slotted : Slotted (start : IssuanceState Claims Vc) where
  sessionDrawn := nofun
  occupantDrawn := by
    rintro i id ⟨_, found, _⟩
    cases found
  alone := by
    rintro id i j ⟨_, found, _⟩
    cases found
  flag := nofun

variable {s : IssuanceState Claims Vc}

/-- The sessions may be changed as long as their flags stay, and removed. -/
theorem Slotted.withDb (slotted : Slotted s) {db : IdpDatabase Claims}
    (from_ : ∀ id after, db.getSession id = some after → ∃ before,
      s.db.getSession id = some before ∧ after.credentialIssued = before.credentialIssued) :
    Slotted { s with db := db } where
  sessionDrawn id after found := by
    obtain ⟨before, found', _⟩ := from_ id after found
    exact slotted.sessionDrawn id before found'
  occupantDrawn := slotted.occupantDrawn
  alone := slotted.alone
  flag id after found := by
    obtain ⟨before, found', same⟩ := from_ id after found
    rw [same]
    exact slotted.flag id before found'

/-- A request that neither claims the slot nor gives it back. -/
theorem Slotted.setRequest (slotted : Slotted s) {i : Nat} {request : IssueRequest Claims Vc}
    (same : ∀ id, request.session = id ∧ request.phase.Occupies ↔ s.At i id Occupies) :
    Slotted (s.setRequest i request) := by
  have unchanged (j : Nat) (id : Uuid) :
      (s.setRequest i request).At j id Occupies ↔ s.At j id Occupies := by
    rw [at_setRequest]
    split
    next its => rw [its, same]
    next => rfl
  constructor
  · exact slotted.sessionDrawn
  · intro j id occupies
    exact slotted.occupantDrawn j id ((unchanged j id).mp occupies)
  · intro id j k first second
    exact slotted.alone id j k ((unchanged j id).mp first) ((unchanged k id).mp second)
  · intro id session found
    simp only [unchanged]
    exact slotted.flag id session found

/-- The same request in another phase. -/
theorem Slotted.rephase (slotted : Slotted s) {i : Nat} {request : IssueRequest Claims Vc}
    {phase : IssuePhase Claims Vc} (here : s.requests i = some request)
    (same : phase.Occupies ↔ request.phase.Occupies) :
    Slotted (s.setRequest i { request with phase := phase }) :=
  slotted.setRequest fun id => by simp [At, here, same]

theorem Slotted.created (slotted : Slotted s) (fresh providerId : String)
    (flowType : ProviderFlowType) : Slotted (s.step (.createSession fresh providerId flowType)) := by
  have stored (id : Uuid) := @IdpDatabase.getSession_createSessionWithFlow _ s.db
    (VerificationSession.new s.drawn fresh providerId flowType s.now) id
  constructor
  · intro id session found
    by_cases new : id = s.drawn
    · exact new ▸ Nat.lt_succ_self s.drawn
    · have before := (stored id).trans (if_neg new)
      exact Nat.lt_succ_of_lt (slotted.sessionDrawn id session (before.symm.trans found))
  · intro i id occupies
    exact Nat.lt_succ_of_lt (slotted.occupantDrawn i id occupies)
  · exact slotted.alone
  · intro id session found
    by_cases new : id = s.drawn
    · -- nobody has claimed a slot under an id that was not drawn before
      have unset := (stored id).trans (if_pos new)
      obtain rfl := Option.some.inj (unset.symm.trans found)
      refine ⟨nofun, fun ⟨i, occupies⟩ => ?_⟩
      exact absurd (slotted.occupantDrawn i id occupies) (new ▸ Nat.lt_irrefl s.drawn)
    · have before := (stored id).trans (if_neg new)
      exact slotted.flag id session (before.symm.trans found)

/-- There is no flag to give back once the session was cleaned up. -/
theorem Slotted.vacated (slotted : Slotted s) {i : Nat} {request : IssueRequest Claims Vc}
    {phase : IssuePhase Claims Vc} (here : s.requests i = some request)
    (gone : s.db.getSession request.session = none) (leaves : ¬ phase.Occupies) :
    Slotted (s.setRequest i { request with phase := phase }) := by
  have occupant (j : Nat) (id : Uuid) :
      (s.setRequest i { request with phase := phase }).At j id Occupies ↔
        j ≠ i ∧ s.At j id Occupies := by
    rw [at_setRequest]
    by_cases its : j = i
    · simp [its, leaves]
    · simp [its]
  constructor
  · exact slotted.sessionDrawn
  · intro j id occupies
    exact slotted.occupantDrawn j id ((occupant j id).mp occupies).2
  · intro id j k first second
    exact slotted.alone id j k ((occupant j id).mp first).2 ((occupant k id).mp second).2
  · intro id session found
    simp only [occupant]
    rw [slotted.flag id session found]
    refine exists_congr fun j => (and_iff_right_of_imp fun occupies its => ?_).symm
    -- an occupant of this session is not the request whose session is gone
    obtain ⟨request', here', named, _⟩ := its ▸ occupies
    rw [here] at here'
    obtain rfl := Option.some.inj here'
    rw [named] at gone
    exact Option.some_ne_none session (found.symm.trans gone)

/-- The flag of one session is set to whether the request now occupies the slot. -/
theorem Slotted.moved (slotted : Slotted s) {i : Nat} {request : IssueRequest Claims Vc}
    {phase : IssuePhase Claims Vc} {db : IdpDatabase Claims} {flag : Bool}
    (here : s.requests i = some request)
    (updates : s.db.updateSession request.session
      (fun session => { session with credentialIssued := flag }) = .ok db)
    (free : ∀ j, s.At j request.session Occupies → j = i)
    (occupies : phase.Occupies ↔ flag = true) :
    Slotted { s.setRequest i { request with phase := phase } with db := db } := by
  have found' := fun id => IdpDatabase.getSession_updateSession updates id
  have occupant (j : Nat) (id : Uuid) :
      At { s.setRequest i { request with phase := phase } with db := db } j id Occupies ↔
        if j = i then request.session = id ∧ flag = true else s.At j id Occupies := by
    rw [← occupies]
    exact at_setRequest
  obtain ⟨session, found, _⟩ := IdpDatabase.updateSession_eq_ok.mp updates
  constructor
  · intro id after there
    rw [found'] at there
    split at there
    next same => exact slotted.sessionDrawn id session (same ▸ found)
    next => exact slotted.sessionDrawn id after there
  · intro j id at_
    rw [occupant] at at_
    split at at_
    next => exact at_.1 ▸ slotted.sessionDrawn _ session found
    next => exact slotted.occupantDrawn j id at_
  · intro id j k first second
    rw [occupant] at first second
    split at first <;> split at second
    next => omega
    next ji ki => exact absurd (free k (first.1 ▸ second)) ki
    next ji ki => exact absurd (free j (second.1 ▸ first)) ji
    next => exact slotted.alone id j k first second
  · intro id after there
    rw [found'] at there
    simp only [occupant]
    split at there
    next same =>
      subst same
      rw [found] at there
      obtain rfl := Option.some.inj there
      constructor
      · intro set
        exact ⟨i, by rw [if_pos rfl]; exact ⟨rfl, set⟩⟩
      · rintro ⟨j, at_⟩
        split at at_
        next => exact at_.2
        next other => exact absurd (free j at_) other
    next different =>
      rw [slotted.flag id after there]
      constructor
      · rintro ⟨j, at_⟩
        by_cases its : j = i
        · obtain ⟨request', here', session', _⟩ := its ▸ at_
          rw [here] at here'
          obtain rfl := Option.some.inj here'
          exact absurd session'.symm different
        · exact ⟨j, by rw [if_neg its]; exact at_⟩
      · rintro ⟨j, at_⟩
        split at at_
        next => exact absurd at_.1.symm different
        next => exact ⟨j, at_⟩

/-! ## Steps and runs -/

theorem Slotted.proceeded (slotted : Slotted s) {i : Nat} {request : IssueRequest Claims Vc}
    (here : s.requests i = some request) (answer : Except String Vc) :
    Slotted (s.step (.proceed i answer)) := by
  obtain ⟨session, batchSize, phase⟩ := request
  simp only [step, here, IssueRequest.proceed]
  cases phase with
  | arrived =>
    cases claims : s.db.tryClaimIssuance session with
    | ok db =>
      obtain ⟨found, stored, _, unset, updates⟩ := IdpDatabase.tryClaimIssuance_eq_ok.mp claims
      refine slotted.moved here updates (fun j at_ => ?_) (by simp [Occupies])
      -- the flag was not set, so there was no occupant
      have set := (slotted.flag session found stored).mpr ⟨j, at_⟩
      rw [unset] at set
      cases set
    | error e => exact slotted.rephase here (by simp [Occupies])
  | claimed =>
    cases s.db.getClaims session with
    | some claims => exact slotted.rephase here (by simp [Occupies])
    | none => exact slotted.rephase here (by simp [Occupies])
  | minting claims credentials =>
    exact slotted.rephase here (iff_of_true (mintRound_occupies ..) trivial)
  | restoring =>
    have mine : s.At i session Occupies := ⟨_, here, rfl, trivial⟩
    simp only [restoreSlot]
    cases updates : s.db.updateSession session fun session =>
        { session with credentialIssued := false } with
    | ok db =>
      refine slotted.moved here updates (fun j at_ => ?_) (by simp [Occupies])
      exact slotted.alone session j i at_ mine
    | error e =>
      have gone := IdpDatabase.getSession_of_updateSession_error updates
      exact slotted.vacated here gone (by simp [Occupies])
  | minted credentials => exact slotted.rephase here (by simp [Occupies])
  | refused error => exact slotted.rephase here Iff.rfl
  | failed => exact slotted.rephase here Iff.rfl
  | returned credentials => exact slotted.rephase here Iff.rfl
  | abandoned => exact slotted.rephase here Iff.rfl
  | dropped => exact slotted.rephase here Iff.rfl

theorem step_slotted (slotted : Slotted s) (input : IssuanceStep Claims Vc) :
    Slotted (s.step input) := by
  cases input with
  | createSession fresh providerId flowType => exact slotted.created fresh providerId flowType
  | write id write =>
    simp only [step]
    split
    next db applied =>
      refine slotted.withDb fun other after found => ?_
      obtain ⟨before, found', keeps, _⟩ := SessionWrite.getSession_apply applied found
      exact ⟨before, found', keeps.credentialIssued⟩
    next => exact slotted
  | tick seconds => exact ⟨slotted.sessionDrawn, slotted.occupantDrawn, slotted.alone, slotted.flag⟩
  | cleanup =>
    refine slotted.withDb fun id after found => ⟨after, ?_, rfl⟩
    rw [IdpDatabase.getSession_cleanupExpired, Option.filter_eq_some_iff] at found
    exact found.1
  | issue i session batchSize =>
    simp only [step]
    split
    next unused => exact slotted.setRequest fun id => by simp [At, unused, Occupies]
    next => exact slotted
  | proceed i answer =>
    cases here : s.requests i with
    | some request => exact slotted.proceeded here answer
    | none => simpa only [step, here] using slotted
  | drop i =>
    simp only [step]
    split
    next request here => exact slotted.rephase here (drop_occupies request.phase)
    next => exact slotted

theorem run_slotted (steps : List (IssuanceStep Claims Vc)) : Slotted (run steps) :=
  Runs.run_invariant Slotted start_slotted (fun _ input slotted => step_slotted slotted input) steps

/-! ## The result -/

/-- The three promises about the slot. -/
structure ExclusiveIssuance (s : IssuanceState Claims Vc) : Prop where
  /-- At most one request ever returned credentials for a session. -/
  returnedOnce : ∀ id i j, s.At i id IsReturned → s.At j id IsReturned → i = j
  /-- At most one request is between its claim and its end. -/
  alone : ∀ id i j, s.At i id InSlot → s.At j id InSlot → i = j
  /-- When all that claimed the slot failed, it can be claimed again. -/
  restored : ∀ id session, s.db.getSession id = some session →
    (∀ i, s.At i id HasClaimed → s.At i id IsFailed) →
    session.credentialIssued = false ∧
      (session.status = .verified → ∃ db, s.db.tryClaimIssuance id = .ok db)

/-- Whatever the order of the requests, the other writes and the clean-ups, and wherever
    issuance fails, a session is issued for at most once and a failure gives its slot back. -/
theorem issuance_exclusive (steps : List (IssuanceStep Claims Vc)) :
    ExclusiveIssuance (run steps) := by
  have slotted := run_slotted steps
  constructor
  · intro id i j first second
    exact slotted.alone id i j (first.mono fun _ => IsReturned.occupies)
      (second.mono fun _ => IsReturned.occupies)
  · intro id i j first second
    exact slotted.alone id i j (first.mono fun _ => InSlot.occupies)
      (second.mono fun _ => InSlot.occupies)
  · intro id session found failed
    have unset : session.credentialIssued = false := by
      rw [← Bool.not_eq_true, slotted.flag id session found]
      rintro ⟨i, occupies⟩
      obtain ⟨request, here, _, ended⟩ := failed i (occupies.mono fun _ => .inl)
      obtain ⟨request', here', _, holds⟩ := occupies
      obtain rfl := Option.some.inj (here.symm.trans here')
      exact not_occupies_of_failed ended holds
    refine ⟨unset, fun verified => ?_⟩
    obtain ⟨db, updates⟩ := IdpDatabase.exists_updateSession_eq_ok found
      fun session => { session with credentialIssued := true }
    exact ⟨db, IdpDatabase.tryClaimIssuance_eq_ok.mpr ⟨session, found, verified, unset, updates⟩⟩

/-- A request that claims the slot and fails at the bridge, and one that comes after it. -/
def sampleRetry : List (IssuanceStep Unit String) :=
  [.createSession "state" "bankid" .qrPolling, .write 0 (.storeClaims ()),
    .write 0 .markSessionVerified,
    .issue 0 0 none, .proceed 0 (.error ""), .proceed 0 (.error ""),
    .proceed 0 (.error "no connection"), .proceed 0 (.error ""),
    .issue 1 0 none, .proceed 1 (.ok "vc"), .proceed 1 (.ok "vc"), .proceed 1 (.ok "vc"),
    .proceed 1 (.ok "vc")]

theorem issuance_exclusive_at_retry :
    ExclusiveIssuance (run sampleRetry) ∧ (run sampleRetry).At 0 0 IsFailed ∧
      (run sampleRetry).At 1 0 IsReturned :=
  ⟨issuance_exclusive sampleRetry, ⟨⟨0, none, .failed⟩, rfl, rfl, trivial⟩,
    ⟨⟨0, none, .returned ["vc"]⟩, rfl, rfl, trivial⟩⟩

end IssuanceState

end OwlId.Issuer
