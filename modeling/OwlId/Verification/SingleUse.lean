import Mathlib
import OwlId.Lib.Runs
import OwlId.Verification.SessionBinding

/-! # Challenges are single use

Three handlers check a challenge.  `verify_dcql`, which `openid4vp_response` calls,
asks the database first and the presentation sessions second; `revoke_own_credential`
asks the database only.  Each question is one atomic statement or one critical
section, and anything may happen between the two.

A value is *held* by an unused row of the database or by a session.  The invariant
counts: a value has passed the check, or is held, at most as often as it was drawn.
A check that passes moves one unit from the holders to the passed, so a value that
was drawn once passes once.
-/

namespace OwlId.Verification

open OwlId.Lib

/-! ## Interleavings of the handlers -/

inductive ChallengeHandler where
  | verifyDcql
  | openid4vpResponse
  | revokeOwnCredential

/-- Whether the handler goes on to the presentation sessions. -/
def ChallengeHandler.fallsBack : ChallengeHandler → Bool
  | .verifyDcql | .openid4vpResponse => true
  | .revokeOwnCredential => false

/-- The two stores and the requests between their two questions.  The last two fields are the
    history: what was drawn with its expiry, and what passed at which reading of the clock. -/
structure NonceStores where
  challenges : Challenges
  sessions : PresentationSessionStore
  waiting : List String
  drawn : List (String × Time)
  passed : List (String × Time)

/-- The atomic steps.  Each carries the reading of the clock its store uses: the database its
    own, the sessions that of the process. -/
inductive NonceStep where
  | generateChallenge (now : Time) (random : Vector UInt8 8)
  | createSession (now : Time) (idRandom nonceRandom : Vector UInt8 16)
      (dcql : Option DcqlRequest) (verifierName audience : Option String)
  | validateServerChallenge (handler : ChallengeHandler) (now : Time) (challenge : String)
  /-- The statement fails, which may be before or after the database executed it. -/
  | validationError (now : Time) (challenge : String) (executed : Bool)
  /-- The second question of the waiting request at this index. -/
  | consumeNonce (index : Nat) (now : Time)
  | cleanupPending (now : Time)
  | cleanup (now : Time)

namespace NonceStores

def start (challenges : Challenges) : NonceStores where
  challenges := challenges
  sessions := Table.empty
  waiting := []
  drawn := challenges.rows.map fun row => (row.challenge, row.expiresAt)
  passed := []

def step (st : NonceStores) : NonceStep → NonceStores
  | .generateChallenge now random =>
    let drawn := st.drawn ++ [(hexEncode random.toList, now + challengeTtl)]
    match st.challenges.generateChallenge now challengeTtl random with
    | some (challenges, _) => { st with challenges := challenges, drawn := drawn }
    | none => { st with drawn := drawn }
  | .createSession now idRandom nonceRandom dcql verifierName audience =>
    { st with
      sessions := (PresentationSessionStore.create st.sessions now sessionTtl idRandom nonceRandom
        dcql verifierName audience).1
      drawn := st.drawn ++ [(hexEncode nonceRandom.toList, now + sessionTtl)] }
  | .validateServerChallenge handler now challenge =>
    match st.challenges.validateServerChallenge now challenge with
    | (challenges, true) =>
      { st with challenges := challenges, passed := st.passed ++ [(challenge, now)] }
    | (_, false) =>
      if handler.fallsBack then { st with waiting := st.waiting ++ [challenge] } else st
  | .validationError now challenge executed =>
    if executed then
      { st with challenges := (st.challenges.validateServerChallenge now challenge).1 }
    else st
  | .consumeNonce index now =>
    match st.waiting[index]? with
    | none => st
    | some nonce =>
      match PresentationSessionStore.consumeNonce st.sessions now nonce with
      | (sessions, true) =>
        { st with
          sessions := sessions
          waiting := st.waiting.eraseIdx index
          passed := st.passed ++ [(nonce, now)] }
      | (_, false) => { st with waiting := st.waiting.eraseIdx index }
  | .cleanupPending now => { st with challenges := st.challenges.cleanupPending now }
  | .cleanup now => { st with sessions := PresentationSessionStore.cleanup st.sessions now }

end NonceStores

def nonceRun (challenges : Challenges) (steps : List NonceStep) : NonceStores :=
  Runs.run NonceStores.step (NonceStores.start challenges) steps

/-- The values the steps draw. -/
def NonceStep.draws : NonceStep → List String
  | .generateChallenge _ random => [hexEncode random.toList]
  | .createSession _ _ nonceRandom _ _ _ => [hexEncode nonceRandom.toList]
  | _ => []

/-- The challenge check of `verify_dcql` is its two questions with nothing in between. -/
theorem takeChallenge_eq_steps (svc : Service) (now : Time) (challenge : String)
    (drawn passed : List (String × Time)) :
    let after := Runs.run NonceStores.step ⟨svc.challenges, svc.sessions, [], drawn, passed⟩
      [.validateServerChallenge .verifyDcql now challenge, .consumeNonce 0 now]
    after.challenges = (svc.takeChallenge now challenge).1.challenges ∧
      after.sessions = (svc.takeChallenge now challenge).1.sessions ∧
      after.waiting = [] ∧
      after.passed = passed ++
        if (svc.takeChallenge now challenge).2 then [(challenge, now)] else [] := by
  unfold Service.takeChallenge
  cases asked : svc.challenges.validateServerChallenge now challenge with
  | mk challenges pending =>
    cases pending with
    | true => simp [Runs.run, NonceStores.step, asked]
    | false =>
      cases consumed : PresentationSessionStore.consumeNonce svc.sessions now challenge with
      | mk sessions found =>
        have kept : found = false → sessions = svc.sessions := by
          intro missing
          unfold PresentationSessionStore.consumeNonce at consumed
          split at consumed
          · cases consumed
            cases missing
          · cases consumed
            rfl
        cases found with
        | true =>
          simp [Runs.run, NonceStores.step, asked, consumed, ChallengeHandler.fallsBack]
        | false =>
          simp [Runs.run, NonceStores.step, asked, consumed, ChallengeHandler.fallsBack, kept]

/-! ## What one check consumes -/

/-- An unused row of this challenge. -/
def holdsChallenge (value : String) (row : PendingChallenge) : Bool :=
  decide (row.challenge = value) && !row.used

def holdsNonce (value : String) (s : Session) : Bool := decide (s.nonce = value)

/-- How many rows and sessions would still let the value pass. -/
def NonceStores.held (st : NonceStores) (value : String) : Nat :=
  st.challenges.rows.countP (holdsChallenge value) + st.sessions.rows.countP (holdsNonce value)

/-- A validation that succeeds uses up one unused row, before its expiry; one that does not
    changes nothing. -/
theorem validateServerChallenge_cases (challenges : Challenges) (now : Time) (challenge : String) :
    (∃ row ∈ challenges.rows, row.challenge = challenge ∧ row.used = false ∧ now < row.expiresAt ∧
      challenges.validateServerChallenge now challenge =
        (challenges.insert { row with used := true }, true)) ∨
    challenges.validateServerChallenge now challenge = (challenges, false) := by
  unfold Challenges.validateServerChallenge
  cases found : challenges.find challenge with
  | none => exact .inr rfl
  | some row =>
    obtain ⟨member, same⟩ := Table.find_eq_some.mp found
    by_cases live : row.isLive now = true
    · refine .inl ⟨row, member, same, ?_, ?_, by simp [live]⟩
      · simp only [PendingChallenge.isLive, Bool.and_eq_true, Bool.not_eq_true'] at live
        exact live.1
      · simp only [PendingChallenge.isLive, Bool.and_eq_true, decide_eq_true_eq] at live
        exact live.2
    · exact .inr (by simp [live])

theorem consumeNonce_cases (store : PresentationSessionStore) (now : Time) (nonce : String) :
    (∃ s ∈ store.rows, s.nonce = nonce ∧ now < s.expiresAt ∧
      PresentationSessionStore.consumeNonce store now nonce = (store.erase s.id, true)) ∨
    PresentationSessionStore.consumeNonce store now nonce = (store, false) := by
  unfold PresentationSessionStore.consumeNonce
  cases found : PresentationSessionStore.sessionOfNonce store now nonce with
  | none => exact .inr rfl
  | some s =>
    obtain ⟨member, same, live⟩ := PresentationSessionStore.sessionOfNonce_eq_some found
    exact .inl ⟨s, member, same, live, rfl⟩

/-- Marking a row as used: one holder of its value less, no more of any other. -/
theorem countP_markUsed {challenges : Challenges} {row : PendingChallenge}
    (member : row ∈ challenges.rows) (unused : row.used = false) (value : String) :
    (challenges.insert { row with used := true }).rows.countP (holdsChallenge value) +
        (if row.challenge = value then 1 else 0) ≤
      challenges.rows.countP (holdsChallenge value) := by
  by_cases here : row.challenge = value
  · rw [if_pos here]
    exact Table.countP_insert_lt member (by simp [holdsChallenge, here, unused]) rfl
      (by simp [holdsChallenge])
  · rw [if_neg here]
    have inserted := Table.countP_insert_le challenges { row with used := true }
      (holdsChallenge value)
    simpa [holdsChallenge] using inserted

theorem countP_eraseSession {store : PresentationSessionStore} {s : Session}
    (member : s ∈ store.rows) (value : String) :
    (store.erase s.id).rows.countP (holdsNonce value) + (if s.nonce = value then 1 else 0) ≤
      store.rows.countP (holdsNonce value) := by
  by_cases here : s.nonce = value
  · rw [if_pos here]
    exact Table.countP_retain_lt member (by simp [holdsNonce, here]) (by simp)
  · rw [if_neg here]
    exact Table.countP_retain_le store _ (holdsNonce value)

/-! ## The invariant -/

/-- What was drawn bounds what passed and what may still pass, and every holder has the expiry it
    was drawn with. -/
structure Conserved (st : NonceStores) : Prop where
  count : ∀ value, (st.passed.map Prod.fst).count value + st.held value ≤
    (st.drawn.map Prod.fst).count value
  rows : ∀ row ∈ st.challenges.rows, (row.challenge, row.expiresAt) ∈ st.drawn
  sessions : ∀ s ∈ st.sessions.rows, (s.nonce, s.expiresAt) ∈ st.drawn
  inTime : ∀ pass ∈ st.passed, ∃ expiry, (pass.1, expiry) ∈ st.drawn ∧ pass.2 < expiry

theorem start_conserved (challenges : Challenges) : Conserved (.start challenges) where
  count := by
    intro value
    have unused : challenges.rows.countP (holdsChallenge value) ≤
        (challenges.rows.map PendingChallenge.challenge).count value := by
      rw [List.count, List.countP_map]
      refine List.countP_mono_left fun row _ held => ?_
      simp only [holdsChallenge, Bool.and_eq_true, decide_eq_true_eq] at held
      simp [held.1]
    simpa [NonceStores.start, NonceStores.held, Table.empty, Function.comp_def] using unused
  rows row member := List.mem_map.mpr ⟨row, member, rfl⟩
  sessions s member := by cases member
  inTime pass member := by cases member

section Step

variable {st : NonceStores}

theorem generateChallenge_conserved (conserved : Conserved st) (now : Time)
    (random : Vector UInt8 8) : Conserved (st.step (.generateChallenge now random)) := by
  have more : st.drawn ⊆ st.drawn ++ [(hexEncode random.toList, now + (challengeTtl : Time))] :=
    List.subset_append_left _ _
  have later : ∀ pass ∈ st.passed, ∃ expiry, (pass.1, expiry) ∈
      st.drawn ++ [(hexEncode random.toList, now + (challengeTtl : Time))] ∧ pass.2 < expiry := by
    intro pass member
    obtain ⟨expiry, drawn, before⟩ := conserved.inTime pass member
    exact ⟨expiry, more drawn, before⟩
  simp only [NonceStores.step, Challenges.generateChallenge]
  cases st.challenges.find (hexEncode random.toList) with
  | some row =>
    refine ⟨fun value => ?_, fun row member => more (conserved.rows row member),
      fun s member => more (conserved.sessions s member), later⟩
    have before := conserved.count value
    simp only [NonceStores.held, List.map_append, List.count_append] at before ⊢
    omega
  | none =>
    refine ⟨fun value => ?_, fun row member => ?_,
      fun s member => more (conserved.sessions s member), later⟩
    · -- the new row is one holder more, of the value just drawn
      have inserted := Table.countP_insert_le st.challenges
        ⟨hexEncode random.toList, now + challengeTtl, false⟩ (holdsChallenge value)
      have before := conserved.count value
      simp only [NonceStores.held, List.map_append, List.count_append, List.map_cons, List.map_nil,
        List.count_singleton, holdsChallenge, Bool.not_false, Bool.and_true, beq_iff_eq,
        decide_eq_true_eq] at before inserted ⊢
      omega
    · rcases Table.mem_insert member with rfl | old
      · exact List.mem_append_right _ (List.mem_singleton.mpr rfl)
      · exact more (conserved.rows row old)

theorem createSession_conserved (conserved : Conserved st) (now : Time)
    (idRandom nonceRandom : Vector UInt8 16) (dcql : Option DcqlRequest)
    (verifierName audience : Option String) :
    Conserved (st.step (.createSession now idRandom nonceRandom dcql verifierName audience)) := by
  have more : st.drawn ⊆ st.drawn ++ [(hexEncode nonceRandom.toList, now + (sessionTtl : Time))] :=
    List.subset_append_left _ _
  refine ⟨fun value => ?_, fun row member => more (conserved.rows row member), fun s member => ?_,
    fun pass member => ?_⟩
  · have inserted := Table.countP_insert_le st.sessions
      ⟨uuidV4 idRandom, hexEncode nonceRandom.toList, now + sessionTtl, dcql, verifierName, audience⟩
      (holdsNonce value)
    have before := conserved.count value
    simp only [NonceStores.step, NonceStores.held, PresentationSessionStore.create,
      List.map_append, List.count_append, List.map_cons, List.map_nil, List.count_singleton,
      holdsNonce, beq_iff_eq, decide_eq_true_eq] at before inserted ⊢
    omega
  · rcases Table.mem_insert member with rfl | old
    · exact List.mem_append_right _ (List.mem_singleton.mpr rfl)
    · exact more (conserved.sessions s old)
  · obtain ⟨expiry, drawn, inTime⟩ := conserved.inTime pass member
    exact ⟨expiry, more drawn, inTime⟩

theorem markUsed_rows (conserved : Conserved st) {row : PendingChallenge}
    (member : row ∈ st.challenges.rows) :
    ∀ other ∈ (st.challenges.insert { row with used := true }).rows,
      (other.challenge, other.expiresAt) ∈ st.drawn := by
  intro other kept
  rcases Table.mem_insert kept with rfl | old
  · exact conserved.rows row member
  · exact conserved.rows other old

theorem validate_conserved (conserved : Conserved st) (handler : ChallengeHandler) (now : Time)
    (challenge : String) :
    Conserved (st.step (.validateServerChallenge handler now challenge)) := by
  simp only [NonceStores.step]
  rcases validateServerChallenge_cases st.challenges now challenge with
    ⟨row, member, rfl, unused, live, validated⟩ | refused
  · rw [validated]
    refine ⟨fun value => ?_, markUsed_rows conserved member, conserved.sessions,
      fun pass passed => ?_⟩
    · -- one unit moves from the holders to the passed
      have marked := countP_markUsed member unused value
      have before := conserved.count value
      simp only [NonceStores.held, List.map_append, List.count_append, List.map_cons, List.map_nil,
        List.count_singleton, beq_iff_eq] at before ⊢
      omega
    · rcases List.mem_append.mp passed with earlier | now
      · exact conserved.inTime pass earlier
      · rw [List.mem_singleton.mp now]
        exact ⟨row.expiresAt, conserved.rows row member, live⟩
  · rw [refused]
    dsimp only
    split
    · exact ⟨conserved.count, conserved.rows, conserved.sessions, conserved.inTime⟩
    · exact conserved

theorem validationError_conserved (conserved : Conserved st) (now : Time) (challenge : String)
    (executed : Bool) : Conserved (st.step (.validationError now challenge executed)) := by
  simp only [NonceStores.step]
  split
  · rcases validateServerChallenge_cases st.challenges now challenge with
      ⟨row, member, _, unused, _, validated⟩ | refused
    · rw [validated]
      refine ⟨fun value => ?_, markUsed_rows conserved member, conserved.sessions,
        conserved.inTime⟩
      have marked := countP_markUsed member unused value
      have before := conserved.count value
      simp only [NonceStores.held] at before ⊢
      omega
    · rw [refused]
      exact conserved
  · exact conserved

theorem consumeNonce_conserved (conserved : Conserved st) (index : Nat) (now : Time) :
    Conserved (st.step (.consumeNonce index now)) := by
  simp only [NonceStores.step]
  cases st.waiting[index]? with
  | none => exact conserved
  | some nonce =>
    dsimp only
    rcases consumeNonce_cases st.sessions now nonce with
      ⟨s, member, rfl, live, consumed⟩ | missing
    · rw [consumed]
      refine ⟨fun value => ?_, conserved.rows, fun other kept => ?_, fun pass passed => ?_⟩
      · have erased := countP_eraseSession member value
        have before := conserved.count value
        simp only [NonceStores.held, List.map_append, List.count_append, List.map_cons,
          List.map_nil, List.count_singleton, beq_iff_eq] at before ⊢
        omega
      · exact conserved.sessions other (Table.mem_retain.mp kept).1
      · rcases List.mem_append.mp passed with earlier | now
        · exact conserved.inTime pass earlier
        · rw [List.mem_singleton.mp now]
          exact ⟨s.expiresAt, conserved.sessions s member, live⟩
    · rw [missing]
      exact ⟨conserved.count, conserved.rows, conserved.sessions, conserved.inTime⟩

theorem step_conserved (conserved : Conserved st) (s : NonceStep) : Conserved (st.step s) := by
  cases s with
  | generateChallenge now random => exact generateChallenge_conserved conserved now random
  | createSession now idRandom nonceRandom dcql verifierName audience =>
    exact createSession_conserved conserved now idRandom nonceRandom dcql verifierName audience
  | validateServerChallenge handler now challenge =>
    exact validate_conserved conserved handler now challenge
  | validationError now challenge executed =>
    exact validationError_conserved conserved now challenge executed
  | consumeNonce index now => exact consumeNonce_conserved conserved index now
  | cleanupPending now =>
    refine ⟨fun value => ?_, fun row member => conserved.rows row (Table.mem_retain.mp member).1,
      conserved.sessions, conserved.inTime⟩
    have fewer := Table.countP_retain_le st.challenges (fun row => now ≤ row.expiresAt)
      (holdsChallenge value)
    have before := conserved.count value
    simp only [NonceStores.step, NonceStores.held, Challenges.cleanupPending] at before ⊢
    omega
  | cleanup now =>
    refine ⟨fun value => ?_, conserved.rows,
      fun s member => conserved.sessions s (Table.mem_retain.mp member).1, conserved.inTime⟩
    have fewer := Table.countP_retain_le st.sessions (fun s => now < s.expiresAt) (holdsNonce value)
    have before := conserved.count value
    simp only [NonceStores.step, NonceStores.held, PresentationSessionStore.cleanup] at before ⊢
    omega

end Step

theorem nonceRun_conserved (challenges : Challenges) (steps : List NonceStep) :
    Conserved (nonceRun challenges steps) :=
  Runs.run_invariant Conserved (start_conserved challenges)
    (fun _ s conserved => step_conserved conserved s) steps

theorem nonceRun_drawn (challenges : Challenges) (steps : List NonceStep) :
    (nonceRun challenges steps).drawn.map Prod.fst =
      challenges.rows.map PendingChallenge.challenge ++ steps.flatMap NonceStep.draws := by
  refine Runs.run_history (fun history (st : NonceStores) => st.drawn.map Prod.fst =
    challenges.rows.map PendingChallenge.challenge ++ history.flatMap NonceStep.draws) ?_ ?_ steps
  · simp [NonceStores.start, Function.comp_def]
  · intro history st s ih
    rw [List.flatMap_append, ← List.append_assoc, ← ih]
    cases s with
    | generateChallenge now random =>
      simp only [NonceStores.step]
      split <;> simp [NonceStep.draws]
    | createSession => simp [NonceStores.step, NonceStep.draws]
    | validateServerChallenge =>
      simp only [NonceStores.step]
      split
      · simp [NonceStep.draws]
      · split <;> simp [NonceStep.draws]
    | validationError =>
      simp only [NonceStores.step]
      split <;> simp [NonceStep.draws]
    | consumeNonce =>
      simp only [NonceStores.step]
      split
      · simp [NonceStep.draws]
      · split <;> simp [NonceStep.draws]
    | cleanupPending => simp [NonceStores.step, NonceStep.draws]
    | cleanup => simp [NonceStores.step, NonceStep.draws]

/-- Over every interleaving, starting from any contents of the database: when the values drawn are
    distinct, each passes the challenge check at most once, and before the expiry it was drawn
    with, which is the only one it has. -/
theorem challenges_single_use (challenges : Challenges) (steps : List NonceStep)
    (fresh : (challenges.rows.map PendingChallenge.challenge ++
      steps.flatMap NonceStep.draws).Nodup) :
    (∀ value, ((nonceRun challenges steps).passed.map Prod.fst).count value ≤ 1) ∧
      ∀ value now, (value, now) ∈ (nonceRun challenges steps).passed →
        ∃ expiry, (value, expiry) ∈ (nonceRun challenges steps).drawn ∧ now < expiry ∧
          ∀ other, (value, other) ∈ (nonceRun challenges steps).drawn → other = expiry := by
  have conserved := nonceRun_conserved challenges steps
  rw [← nonceRun_drawn] at fresh
  constructor
  · intro value
    have bound := conserved.count value
    have once := List.nodup_iff_count_le_one.mp fresh value
    omega
  · intro value now passed
    obtain ⟨expiry, drawn, before⟩ := conserved.inTime (value, now) passed
    refine ⟨expiry, drawn, before, fun other drawn' => ?_⟩
    have same := List.inj_on_of_nodup_map fresh drawn' drawn rfl
    exact congrArg Prod.snd same

/-! ### A challenge presented three times -/

def sampleRandom : Vector UInt8 8 := Vector.replicate 8 7

/-- Two requests race for one challenge, and a self-revocation comes after them. -/
def sampleRace : List NonceStep :=
  [.generateChallenge 1750000000 sampleRandom,
    .validateServerChallenge .verifyDcql 1750000010 (hexEncode sampleRandom.toList),
    .validateServerChallenge .openid4vpResponse 1750000010 (hexEncode sampleRandom.toList),
    .consumeNonce 0 1750000011,
    .validateServerChallenge .revokeOwnCredential 1750000012 (hexEncode sampleRandom.toList)]

theorem challenges_single_use_at_race :
    (nonceRun Table.empty sampleRace).passed = [(hexEncode sampleRandom.toList, 1750000010)] ∧
      ((nonceRun Table.empty sampleRace).passed.map Prod.fst).count
        (hexEncode sampleRandom.toList) ≤ 1 := by
  refine ⟨by decide, ?_⟩
  exact (challenges_single_use Table.empty sampleRace (by decide)).1 (hexEncode sampleRandom.toList)

end OwlId.Verification
