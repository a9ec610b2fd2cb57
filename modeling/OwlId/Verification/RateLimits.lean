import Mathlib
import OwlId.Lib.FixedWindow
import OwlId.Lib.Runs
import OwlId.Lib.Text

/-! # The rate limiter of the verification service

A row of the database counts the requests of one client to one endpoint in one minute of the clock.
The configured window goes into the end of the row, which only the cleanup of old rows reads.
-/

namespace OwlId.Verification

open OwlId.Lib

/-! ## The limiter -/

structure RateLimitConfig where
  enabled : Bool
  maxRequests : Int
  windowMinutes : Int
  isI32 : maxRequests < 2 ^ 31

/-- In microseconds, like every time below. -/
def minuteLength : Nat := 60000000

def dateTruncMinute (now : Nat) : Nat := now / minuteLength * minuteLength

structure LimitKey where
  identifier : String
  endpoint : String
  windowStart : Nat
deriving DecidableEq

structure RateLimit where
  requestCount : Nat
  windowEnd : Int

abbrev RateLimits := LimitKey → Option RateLimit

structure ApiRequest where
  forwarded : Option String
  realIp : Option String
  path : String
  /-- The clock of the database when the statement began. -/
  now : Nat

def extractIp (request : ApiRequest) : Option String :=
  (request.forwarded.map fun text => trim ((splitChar ',' text).headD "")).or request.realIp

def ApiRequest.limitKey (request : ApiRequest) : LimitKey :=
  ⟨(extractIp request).getD "unknown", request.path, dateTruncMinute request.now⟩

def asI32 (n : Int) : Int := n.bmod (2 ^ 32)

/-- Both texts fit their columns. -/
def LimitKey.fits (key : LimitKey) : Bool :=
  decide (key.identifier.length ≤ 255 ∧ key.endpoint.length ≤ 255)

/-- Without a result where the statement fails: a text too long, or a count that overflows. -/
def checkLimit (table : RateLimits) (key : LimitKey) (windowMinutes maxRequests : Int) :
    Option Bool × RateLimits :=
  if key.fits then
    match table key with
    | none => (some (decide (1 ≤ maxRequests)), Function.update table key
        (some ⟨1, key.windowStart + asI32 windowMinutes * minuteLength⟩))
    | some row =>
      if row.requestCount + 1 < 2 ^ 31 then
        (some (decide ((row.requestCount + 1 : Nat) ≤ maxRequests)),
          Function.update table key (some { row with requestCount := row.requestCount + 1 }))
      else (none, table)
  else (none, table)

inductive LimitAnswer
  | passed
  | limitExceeded
  | internalError
deriving DecidableEq

section

variable (config : RateLimitConfig)

def checkRateLimit (table : RateLimits) (request : ApiRequest) : LimitAnswer × RateLimits :=
  if config.enabled then
    match checkLimit table request.limitKey config.windowMinutes config.maxRequests with
    | (none, table) => (.internalError, table)
    | (some false, table) => (.limitExceeded, table)
    | (some true, table) => (.passed, table)
  else (.passed, table)

def hourLength : Nat := 60 * minuteLength

def cleanupRateLimits (now : Nat) (table : RateLimits) : RateLimits :=
  fun key => (table key).filter fun row => !decide (row.windowEnd < (now : Int) - hourLength)

inductive LimitStep
  | request (request : ApiRequest)
  | cleanup (now : Nat)

structure Answered where
  request : ApiRequest
  answer : LimitAnswer

structure LimitState where
  table : RateLimits
  log : List Answered

def LimitState.step (state : LimitState) : LimitStep → LimitState
  | .request request =>
    ⟨(checkRateLimit config state.table request).2,
      ⟨request, (checkRateLimit config state.table request).1⟩ :: state.log⟩
  | .cleanup now => ⟨cleanupRateLimits now state.table, state.log⟩

/-- The requests and their answers, from an empty table. -/
def answered (steps : List LimitStep) : List Answered :=
  (Runs.run (LimitState.step config) ⟨fun _ => none, []⟩ steps).log

/-- No cleanup reads a clock 59 minutes ahead of a request that comes after it. -/
def Timely (steps : List LimitStep) : Prop :=
  steps.Pairwise fun a b => ∀ now request, a = .cleanup now → b = .request request →
    now ≤ request.now + 59 * minuteLength

end

/-! ## One row -/

section

variable {config : RateLimitConfig} {key : LimitKey}

def askedIn (key : LimitKey) (log : List Answered) : Nat :=
  log.countP fun entry => entry.request.limitKey = key

def passedIn (key : LimitKey) (log : List Answered) : Nat :=
  log.countP fun entry => entry.answer = .passed && decide (entry.request.limitKey = key)

/-- So many requests get through in the minute. -/
def allowance (config : RateLimitConfig) (key : LimitKey) : Nat :=
  if key.fits then config.maxRequests.toNat else 0

def storedCount (table : RateLimits) (key : LimitKey) : Nat :=
  ((table key).map RateLimit.requestCount).getD 0

theorem askedIn_cons (entry : Answered) (log : List Answered) :
    askedIn key (entry :: log) =
      askedIn key log + if entry.request.limitKey = key then 1 else 0 := by
  simp [askedIn, List.countP_cons]

theorem passedIn_cons (entry : Answered) (log : List Answered) :
    passedIn key (entry :: log) = passedIn key log +
      if entry.answer = .passed ∧ entry.request.limitKey = key then 1 else 0 := by
  simp [passedIn, List.countP_cons]

theorem allowance_le : allowance config key ≤ config.maxRequests.toNat := by
  rw [allowance]
  split
  · exact Nat.le_refl _
  · exact Nat.zero_le _

theorem checkRateLimit_snd (enabled : config.enabled = true) (table : RateLimits)
    (request : ApiRequest) : (checkRateLimit config table request).2 =
      (checkLimit table request.limitKey config.windowMinutes config.maxRequests).2 := by
  rw [checkRateLimit, if_pos enabled]
  split
  all_goals
    rename_i answer
    rw [answer]

theorem checkRateLimit_passed_iff (enabled : config.enabled = true) (table : RateLimits)
    (request : ApiRequest) : (checkRateLimit config table request).1 = .passed ↔
      storedCount table request.limitKey + 1 < 2 ^ 31 ∧
        storedCount table request.limitKey + 1 ≤ allowance config request.limitKey := by
  have max := config.isI32
  rw [checkRateLimit, if_pos enabled, checkLimit, allowance, storedCount]
  cases request.limitKey.fits with
  | false => simp
  | true =>
    cases table request.limitKey with
    | none =>
      by_cases room : 1 ≤ config.maxRequests
      · simp [room]
        omega
      · simp [room]
        omega
    | some row =>
      by_cases small : row.requestCount + 1 < 2 ^ 31
      · by_cases room : ((row.requestCount + 1 : Nat) : Int) ≤ config.maxRequests
        · simp only [if_true, if_pos small, room, decide_true, Option.map_some, Option.getD_some,
            true_iff]
          omega
        · simp only [if_true, if_pos small, room, decide_false, Option.map_some, Option.getD_some]
          simp
          omega
      · simp only [if_true, if_neg small, Option.map_some, Option.getD_some, reduceCtorEq,
          false_iff, not_and]
        exact fun room => absurd room small

/-- What a request does to the table: nothing, or it counts in its row. -/
theorem checkLimit_cases (table : RateLimits) (windowMinutes maxRequests : Int) :
    (checkLimit table key windowMinutes maxRequests).2 = table ∨
      ∃ row, (checkLimit table key windowMinutes maxRequests).2 =
          Function.update table key (some row) ∧
        (row.windowEnd = key.windowStart + asI32 windowMinutes * minuteLength ∨
          ∃ old, table key = some old ∧ row.windowEnd = old.windowEnd) := by
  rw [checkLimit]
  split
  · split
    · exact .inr ⟨_, rfl, .inl rfl⟩
    · rename_i old known
      split
      · exact .inr ⟨_, rfl, .inr ⟨old, known, rfl⟩⟩
      · exact .inl rfl
  · exact .inl rfl

theorem storedCount_checkLimit (table : RateLimits) (windowMinutes maxRequests : Int)
    (fits : key.fits = true) (bounded : storedCount table key < 2 ^ 31) :
    storedCount (checkLimit table key windowMinutes maxRequests).2 key =
      min (storedCount table key + 1) (2 ^ 31 - 1) := by
  rw [checkLimit, if_pos fits]
  cases known : table key with
  | none => simp [storedCount, known]
  | some row =>
    simp only [storedCount, known, Option.map_some, Option.getD_some] at bounded ⊢
    by_cases small : row.requestCount + 1 < 2 ^ 31
    · simp only [if_pos small, Function.update_self, Option.map_some, Option.getD_some]
      omega
    · simp only [if_neg small, known, Option.map_some, Option.getD_some]
      omega

/-- The row of another minute, client or endpoint stays. -/
theorem storedCount_other {table : RateLimits} {other : LimitKey} {windowMinutes maxRequests : Int}
    (apart : key ≠ other) :
    storedCount (checkLimit table other windowMinutes maxRequests).2 key =
      storedCount table key := by
  rcases checkLimit_cases table windowMinutes maxRequests with same | ⟨row, counted, -⟩
  · rw [same]
  · rw [counted, storedCount, Function.update_of_ne apart, storedCount]

/-- A row ends its configured window after it starts. -/
def Ended (config : RateLimitConfig) (table : RateLimits) : Prop :=
  ∀ key row, table key = some row →
    row.windowEnd = key.windowStart + asI32 config.windowMinutes * minuteLength

theorem ended_checkLimit {table : RateLimits} {maxRequests : Int} (ended : Ended config table) :
    Ended config (checkLimit table key config.windowMinutes maxRequests).2 := by
  rcases checkLimit_cases table config.windowMinutes maxRequests with same | ⟨row, counted, finish⟩
  · rw [same]
    exact ended
  · rw [counted]
    intro other row' known
    by_cases same : other = key
    · subst same
      rw [Function.update_self, Option.some.injEq] at known
      subst known
      rcases finish with fresh | ⟨old, stored, kept⟩
      · exact fresh
      · exact kept.trans (ended other old stored)
    · rw [Function.update_of_ne same] at known
      exact ended other row' known

theorem ended_cleanup {table : RateLimits} {now : Nat} (ended : Ended config table) :
    Ended config (cleanupRateLimits now table) := by
  intro key row known
  exact ended key row (Option.filter_eq_some_iff.mp known).1

/-- The cleanup removes only rows that started an hour before its clock. -/
theorem storedCount_cleanup {table : RateLimits} {now : Nat} (ended : Ended config table)
    (window : 0 ≤ asI32 config.windowMinutes) :
    storedCount (cleanupRateLimits now table) key = storedCount table key ∨
      key.windowStart + hourLength < now := by
  rw [storedCount, storedCount, cleanupRateLimits]
  cases known : table key with
  | none => exact .inl rfl
  | some row =>
    have finish := ended key row known
    by_cases old : row.windowEnd < (now : Int) - hourLength
    · refine .inr ?_
      have : 0 ≤ asI32 config.windowMinutes * minuteLength :=
        mul_nonneg window (Int.natCast_nonneg _)
      omega
    · exact .inl (by simp [Option.filter, old])

/-! ## Whole runs -/

/-- What holds of the table and the log after these steps. -/
structure Tallied (config : RateLimitConfig) (key : LimitKey) (history : List LimitStep)
    (state : LimitState) : Prop where
  ended : Ended config state.table
  passed : passedIn key state.log = min (askedIn key state.log) (allowance config key)
  /-- Unless the row has been cleaned up. -/
  stored : key.fits = true →
    storedCount state.table key = min (askedIn key state.log) (2 ^ 31 - 1) ∨
      ∃ now, LimitStep.cleanup now ∈ history ∧ key.windowStart + hourLength < now

theorem lt_dateTruncMinute (now : Nat) : now < dateTruncMinute now + minuteLength := by
  exact Nat.lt_div_mul_add (by decide)

theorem dateTruncMinute_le (now : Nat) : dateTruncMinute now ≤ now :=
  Nat.div_mul_le_self now minuteLength

theorem Timely.concat {history : List LimitStep} {next : LimitStep}
    (timely : Timely (history ++ [next])) : Timely history ∧
      ∀ now request, LimitStep.cleanup now ∈ history → next = .request request →
        now ≤ request.now + 59 * minuteLength := by
  obtain ⟨before, -, across⟩ := List.pairwise_append.mp timely
  refine ⟨before, fun now request among last => ?_⟩
  exact across _ among _ (List.mem_singleton_self _) now request rfl last

theorem tallied_request {history : List LimitStep} {state : LimitState} {request : ApiRequest}
    (enabled : config.enabled = true) (timely : Timely (history ++ [.request request]))
    (tallied : Tallied config key history state) :
    Tallied config key (history ++ [.request request])
      (state.step config (.request request)) := by
  have max := config.isI32
  by_cases mine : request.limitKey = key
  · subst mine
    -- a row that was cleaned up is too old for this request
    have stored : request.limitKey.fits = true → storedCount state.table request.limitKey =
        min (askedIn request.limitKey state.log) (2 ^ 31 - 1) := by
      intro fits
      rcases tallied.stored fits with stored | ⟨now, among, old⟩
      · exact stored
      · have late := timely.concat.2 now request among rfl
        have recent := lt_dateTruncMinute request.now
        simp only [ApiRequest.limitKey, hourLength, minuteLength] at old late recent
        omega
    have passes := checkRateLimit_passed_iff enabled state.table request
    refine ⟨?_, ?_, ?_⟩
    · rw [LimitState.step, checkRateLimit_snd enabled]
      exact ended_checkLimit tallied.ended
    · rw [LimitState.step, askedIn_cons, passedIn_cons, tallied.passed]
      simp only [passes, and_true, if_true]
      rw [allowance]
      cases fits : request.limitKey.fits with
      | false => simp
      | true =>
        rw [stored fits]
        simp only [if_true]
        split <;> omega
    · intro fits
      have before := stored fits
      have bounded : storedCount state.table request.limitKey < 2 ^ 31 := by omega
      refine .inl ?_
      rw [LimitState.step, checkRateLimit_snd enabled, askedIn_cons,
        storedCount_checkLimit _ _ _ fits bounded, before]
      simp only [if_true]
      omega
  · have asked : askedIn key (state.step config (.request request)).log =
        askedIn key state.log := by
      rw [LimitState.step, askedIn_cons, if_neg mine, Nat.add_zero]
    refine ⟨?_, ?_, ?_⟩
    · rw [LimitState.step, checkRateLimit_snd enabled]
      exact ended_checkLimit tallied.ended
    · rw [asked, ← tallied.passed, LimitState.step, passedIn_cons,
        if_neg fun both => mine both.2, Nat.add_zero]
    · intro fits
      rw [asked, LimitState.step, checkRateLimit_snd enabled, storedCount_other (Ne.symm mine)]
      rcases tallied.stored fits with stored | ⟨now, among, old⟩
      · exact .inl stored
      · exact .inr ⟨now, List.mem_append_left _ among, old⟩

theorem tallied_cleanup {history : List LimitStep} {state : LimitState} {now : Nat}
    (window : 0 ≤ asI32 config.windowMinutes) (tallied : Tallied config key history state) :
    Tallied config key (history ++ [.cleanup now]) (state.step config (.cleanup now)) := by
  refine ⟨ended_cleanup tallied.ended, tallied.passed, fun fits => ?_⟩
  have cleaned : storedCount (cleanupRateLimits now state.table) key =
      storedCount state.table key ∨ key.windowStart + hourLength < now :=
    storedCount_cleanup tallied.ended window
  rcases cleaned with same | old
  · rcases tallied.stored fits with stored | ⟨earlier, among, old⟩
    · exact .inl (same.trans stored)
    · exact .inr ⟨earlier, List.mem_append_left _ among, old⟩
  · exact .inr ⟨now, List.mem_append_right _ (List.mem_singleton_self _), old⟩

theorem tallied_answered {steps : List LimitStep} (enabled : config.enabled = true)
    (window : 0 ≤ asI32 config.windowMinutes) (timely : Timely steps) :
    passedIn key (answered config steps) =
      min (askedIn key (answered config steps)) (allowance config key) := by
  have tallied : Timely steps → Tallied config key steps
      (Runs.run (LimitState.step config) ⟨fun _ => none, []⟩ steps) := by
    refine Runs.run_history (fun history state => Timely history → Tallied config key history state)
      ?_ ?_ steps
    · exact fun _ => ⟨by simp [Ended], by simp [passedIn, askedIn],
        fun _ => .inl (by simp [storedCount, askedIn])⟩
    · intro history state next ih timely
      cases next with
      | request request => exact tallied_request enabled timely (ih timely.concat.1)
      | cleanup now => exact tallied_cleanup window (ih timely.concat.1)
  exact (tallied timely).passed

/-- The requests of the client to the endpoint that got through in a minute's length from the
    time. -/
def passedFrom (identifier endpoint : String) (time : Nat) (log : List Answered) : List Answered :=
  log.filter fun entry => entry.answer = .passed &&
    decide (entry.request.limitKey.identifier = identifier ∧
      entry.request.limitKey.endpoint = endpoint ∧
      time ≤ entry.request.now ∧ entry.request.now ≤ time + minuteLength)

/-- Minutes are a minute apart. -/
theorem spaced_minutes (times : List Nat) :
    FixedWindow.Spaced minuteLength (times.map dateTruncMinute) := by
  intro a here b there
  obtain ⟨first, -, rfl⟩ := List.mem_map.mp here
  obtain ⟨second, -, rfl⟩ := List.mem_map.mp there
  simp only [dateTruncMinute, minuteLength]
  omega

theorem length_passedFrom_le {identifier endpoint : String} {time : Nat} {log : List Answered}
    (few : ∀ key, passedIn key log ≤ allowance config key) :
    (passedFrom identifier endpoint time log).length ≤ 2 * config.maxRequests.toNat := by
  have spaced : FixedWindow.Spaced minuteLength
      ((passedFrom identifier endpoint time log).map fun entry =>
        entry.request.limitKey.windowStart) := by
    have := spaced_minutes ((passedFrom identifier endpoint time log).map fun entry =>
      entry.request.now)
    rwa [List.map_map] at this
  -- the minutes of these requests begin in this range
  have within : ∀ entry ∈ passedFrom identifier endpoint time log,
      time + 1 - minuteLength ≤ entry.request.limitKey.windowStart ∧
        entry.request.limitKey.windowStart ≤
          time + 1 - minuteLength + (2 * minuteLength - 1) := by
    intro entry among
    have chosen := (List.mem_filter.mp among).2
    have recent := lt_dateTruncMinute entry.request.now
    have past := dateTruncMinute_le entry.request.now
    simp only [Bool.and_eq_true, decide_eq_true_eq] at chosen
    simp only [ApiRequest.limitKey]
    omega
  have each : ∀ start, (passedFrom identifier endpoint time log).countP
      (fun entry => entry.request.limitKey.windowStart = start) ≤ config.maxRequests.toNat := by
    intro start
    refine le_trans ?_ ((few ⟨identifier, endpoint, start⟩).trans allowance_le)
    rw [passedFrom, List.countP_filter, passedIn]
    refine List.countP_mono_left fun entry _ both => ?_
    simp only [Bool.and_eq_true, decide_eq_true_eq] at both ⊢
    obtain ⟨started, passed, client, path, -⟩ := both
    rw [← client, ← path, ← started]
    exact ⟨passed, rfl⟩
  exact FixedWindow.length_le (by decide) spaced within each

/-- However requests and cleanups follow each other, exactly as many requests of one client to one
    endpoint get through in a minute of the clock as the limit allows, or all if they are fewer, and
    at most twice the limit in a minute's length.  How long the configured window is takes no part
    in this. -/
theorem minute_passes_exact {steps : List LimitStep} (enabled : config.enabled = true)
    (window : 0 ≤ asI32 config.windowMinutes) (timely : Timely steps) :
    (∀ key, passedIn key (answered config steps) =
      min (askedIn key (answered config steps)) (allowance config key)) ∧
    ∀ identifier endpoint time, (passedFrom identifier endpoint time
      (answered config steps)).length ≤ 2 * config.maxRequests.toNat := by
  have tallied (key : LimitKey) : passedIn key (answered config steps) =
      min (askedIn key (answered config steps)) (allowance config key) :=
    tallied_answered enabled window timely
  refine ⟨tallied, fun identifier endpoint time => length_passedFrom_le fun key => ?_⟩
  rw [tallied key]
  exact Nat.min_le_right _ _

def sampleWindow : RateLimitConfig := ⟨true, 1, 5, by decide⟩

def sampleCall (now : Nat) : ApiRequest := ⟨none, some "10.0.0.1", "/verify", now⟩

/-- Two requests in one minute and a cleanup a minute later. -/
theorem minute_passes_exact_at_sample :
    let log := answered sampleWindow
      [.request (sampleCall 0), .request (sampleCall 9), .cleanup minuteLength]
    (∀ key, passedIn key log = min (askedIn key log) (allowance sampleWindow key)) ∧
      ∀ identifier endpoint time, (passedFrom identifier endpoint time log).length ≤ 2 * 1 :=
  @minute_passes_exact sampleWindow _ rfl (by decide) (by simp [Timely])

end

end OwlId.Verification
