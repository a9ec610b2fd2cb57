import Mathlib
import OwlId.Lib.FixedWindow
import OwlId.Lib.Runs
import OwlId.Lib.Text

/-! # The rate limiter of the issuer

A table in memory counts the requests of each client on each path.  A window begins with a request
and is over when its length has passed; the next request begins another.  A request reads the clock
before it waits for the lock on the table, so the clock readings need not come in order.
-/

namespace OwlId.Issuer

open OwlId.Lib

/-! ## The limiter -/

/-- The window is in nanoseconds, like every time below. -/
structure RateLimitConfig where
  enabled : Bool
  window : Nat
  maxRequests : Nat

structure Window where
  started : Nat
  count : Nat

abbrev Windows := String → Option Window

def u32Max : Nat := 2 ^ 32 - 1

structure LimitedRequest where
  forwarded : Option String
  realIp : Option String
  peer : Option String
  path : String
  /-- When the request read the clock. -/
  read : Nat
  /-- When it got the lock. -/
  locked : Nat

def clientKey (request : LimitedRequest) : Option String :=
  ((request.forwarded.map fun text => trim ((splitChar ',' text).headD "")).filter (· ≠ "")).or
    (request.realIp.or request.peer)

def LimitedRequest.key (request : LimitedRequest) : String :=
  (clientKey request).getD "unknown" ++ "|" ++ request.path

section

variable (config : RateLimitConfig)

/-- The window that the request falls into, before it is counted. -/
def currentWindow (windows : Windows) (now : Nat) (key : String) : Window :=
  let entry := (windows key).getD ⟨now, 0⟩
  if config.window < now - entry.started then ⟨now, 0⟩ else entry

def check (windows : Windows) (now : Nat) (key : String) : Bool × Windows :=
  if config.enabled then
    let entry := currentWindow config windows now key
    let count := min (entry.count + 1) u32Max
    (decide (count ≤ config.maxRequests), Function.update windows key (some ⟨entry.started, count⟩))
  else (true, windows)

def rateLimit (windows : Windows) (request : LimitedRequest) : Bool × Windows :=
  check config windows request.read request.key

/-- A request that was let through or refused, and the window it was counted in. -/
structure Served where
  request : LimitedRequest
  admitted : Bool
  started : Nat

structure Limiter where
  windows : Windows
  /-- The last request first. -/
  log : List Served

def Limiter.serve (limiter : Limiter) (request : LimitedRequest) : Limiter where
  windows := (rateLimit config limiter.windows request).2
  log := ⟨request, (rateLimit config limiter.windows request).1,
    (currentWindow config limiter.windows request.read request.key).started⟩ :: limiter.log

/-- The requests in the order in which they get the lock, from an empty table. -/
def served (requests : List LimitedRequest) : List Served :=
  (Runs.run (Limiter.serve config) ⟨fun _ => none, []⟩ requests).log

/-- No request waits longer for the lock, and they are listed in the order of getting it. -/
structure Timely (wait : Nat) (requests : List LimitedRequest) : Prop where
  order : requests.Pairwise fun a b => a.locked ≤ b.locked
  waits : ∀ request ∈ requests, request.read ≤ request.locked ∧
    request.locked ≤ request.read + wait

end

/-! ## One client on one path -/

section

variable {config : RateLimitConfig} {key : String}

/-- The requests under the key. -/
def under (key : String) (log : List Served) : List Served :=
  log.filter fun entry => entry.request.key = key

def admittedIn (started : Nat) (log : List Served) : Nat :=
  log.countP fun entry => entry.admitted && decide (entry.started = started)

def countedIn (started : Nat) (log : List Served) : Nat :=
  log.countP fun entry => entry.started = started

/-- The window holds the latest of the requests, and has counted its own. -/
structure Counting (config : RateLimitConfig) (log : List Served) (window : Window) : Prop where
  latest : ∀ entry ∈ log, entry.started = window.started ∨
    entry.started + (config.window + 1) ≤ window.started
  admitted : admittedIn window.started log ≤ window.count
  counted : window.count ≤ countedIn window.started log
  bounded : window.count ≤ u32Max

/-- Enough requests came before each one that was refused, and not long before it. -/
def Justified (config : RateLimitConfig) : List Served → Prop
  | [] => True
  | entry :: earlier =>
    (entry.admitted = false → config.maxRequests ≤ earlier.countP fun other =>
      entry.request.read ≤ other.request.locked + config.window) ∧ Justified config earlier

/-- What holds of the requests under one key. -/
structure Limited (config : RateLimitConfig) (log : List Served) : Prop where
  spaced : FixedWindow.Spaced (config.window + 1) (log.map Served.started)
  few : ∀ started, admittedIn started log ≤ config.maxRequests
  placed : ∀ entry ∈ log, entry.request.read ≤ entry.started + config.window ∧
    entry.started ≤ entry.request.locked
  justified : Justified config log

theorem counting_empty (started : Nat) : Counting config [] ⟨started, 0⟩ :=
  ⟨by simp, Nat.le_refl 0, Nat.le_refl 0, Nat.zero_le _⟩

/-- A window that begins a span after the last one has counted nothing yet. -/
theorem counting_fresh {log : List Served} {window : Window} {now : Nat}
    (counting : Counting config log window) (past : config.window < now - window.started) :
    Counting config log ⟨now, 0⟩ := by
  have before : ∀ entry ∈ log, entry.started + (config.window + 1) ≤ now := by
    intro entry among
    have := counting.latest entry among
    omega
  refine ⟨fun entry among => .inr (before entry among), ?_, Nat.zero_le _, Nat.zero_le _⟩
  rw [admittedIn, Nat.le_zero, List.countP_eq_zero]
  intro entry among both
  have := before entry among
  simp only [Bool.and_eq_true, decide_eq_true_eq] at both
  omega

theorem counting_current {log : List Served} {windows : Windows} {now : Nat}
    (absent : windows key = none → log = [])
    (counting : ∀ window, windows key = some window → Counting config log window) :
    Counting config log (currentWindow config windows now key) := by
  rw [currentWindow]
  cases known : windows key with
  | none =>
    rw [absent known]
    simp only [Option.getD_none]
    split
    · exact counting_empty now
    · exact counting_empty now
  | some window =>
    simp only [Option.getD_some]
    split
    · rename_i past
      exact counting_fresh (counting window known) past
    · exact counting window known

/-- The clock reading is within the length of its window. -/
theorem read_le_current (windows : Windows) (now : Nat) :
    now ≤ (currentWindow config windows now key).started + config.window := by
  rw [currentWindow]
  split
  · exact Nat.le_add_right _ _
  · omega

/-- The entry of a request that is counted in the window. -/
def entryOf (config : RateLimitConfig) (window : Window) (request : LimitedRequest) : Served :=
  ⟨request, decide (min (window.count + 1) u32Max ≤ config.maxRequests), window.started⟩

theorem countedIn_cons (entry : Served) (started : Nat) (log : List Served) :
    countedIn started (entry :: log) =
      countedIn started log + if entry.started = started then 1 else 0 := by
  simp [countedIn, List.countP_cons]

theorem admittedIn_cons (entry : Served) (started : Nat) (log : List Served) :
    admittedIn started (entry :: log) =
      admittedIn started log + if entry.admitted ∧ entry.started = started then 1 else 0 := by
  simp [admittedIn, List.countP_cons]

theorem counting_step {log : List Served} {window : Window} {request : LimitedRequest}
    (counting : Counting config log window) (limit : config.maxRequests < u32Max) :
    Counting config (entryOf config window request :: log)
      ⟨window.started, min (window.count + 1) u32Max⟩ where
  latest entry among := by
    rcases List.mem_cons.mp among with rfl | earlier
    · exact .inl rfl
    · exact counting.latest entry earlier
  admitted := by
    have := counting.admitted
    have := counting.bounded
    rw [admittedIn_cons]
    simp only [entryOf, decide_eq_true_eq, and_true]
    split <;> omega
  counted := by
    have := counting.counted
    rw [countedIn_cons]
    simp only [entryOf, if_true]
    omega
  bounded := Nat.min_le_right _ _

theorem limited_step {log : List Served} {window : Window} {request : LimitedRequest}
    (limited : Limited config log) (counting : Counting config log window)
    (limit : config.maxRequests < u32Max)
    (recent : request.read ≤ window.started + config.window)
    (begun : window.started ≤ request.locked) :
    Limited config (entryOf config window request :: log) where
  spaced := limited.spaced.cons (by
    intro started among
    obtain ⟨entry, here, rfl⟩ := List.mem_map.mp among
    exact counting.latest entry here)
  few started := by
    have := limited.few started
    have := counting.admitted
    rw [admittedIn_cons]
    simp only [entryOf, decide_eq_true_eq]
    split
    · rename_i both
      obtain ⟨room, rfl⟩ := both
      omega
    · omega
  placed entry among := by
    rcases List.mem_cons.mp among with rfl | earlier
    · exact ⟨recent, begun⟩
    · exact limited.placed entry earlier
  justified := by
    refine ⟨?_, limited.justified⟩
    intro refused
    have full : config.maxRequests ≤ window.count := by
      have : ¬ min (window.count + 1) u32Max ≤ config.maxRequests := of_decide_eq_false refused
      omega
    refine full.trans (counting.counted.trans (List.countP_mono_left fun entry here same => ?_))
    have placed := limited.placed entry here
    simp only [decide_eq_true_eq] at same ⊢
    have recent : (entryOf config window request).request.read ≤ _ := recent
    omega

/-! ## Whole runs -/

theorem current_started (windows : Windows) (now : Nat) :
    (currentWindow config windows now key).started = now ∨ ∃ window, windows key = some window ∧
      (currentWindow config windows now key).started = window.started := by
  rw [currentWindow]
  split
  · exact .inl rfl
  · cases known : windows key with
    | none => exact .inl rfl
    | some window => exact .inr ⟨window, rfl, rfl⟩

theorem serve_eq (enabled : config.enabled = true) (limiter : Limiter) (request : LimitedRequest) :
    limiter.serve config request =
      let window := currentWindow config limiter.windows request.read request.key
      ⟨Function.update limiter.windows request.key
          (some ⟨window.started, min (window.count + 1) u32Max⟩),
        entryOf config window request :: limiter.log⟩ := by
  simp [Limiter.serve, rateLimit, check, enabled, entryOf]

theorem Timely.concat {wait : Nat} {history : List LimitedRequest} {request : LimitedRequest}
    (timely : Timely wait (history ++ [request])) :
    Timely wait history ∧ (∀ earlier ∈ history, earlier.locked ≤ request.locked) ∧
      request.read ≤ request.locked := by
  have order := List.pairwise_append.mp timely.order
  refine ⟨⟨order.1, ?_⟩, ?_, ?_⟩
  · intro earlier among
    exact timely.waits earlier (List.mem_append_left _ among)
  · intro earlier among
    exact order.2.2 earlier among request (List.mem_singleton_self _)
  · exact (timely.waits request (List.mem_append_right _ (List.mem_singleton_self _))).1

/-- What holds of the table and the requests under a key, after these requests. -/
structure Upheld (config : RateLimitConfig) (key : String) (history : List LimitedRequest)
    (limiter : Limiter) : Prop where
  limited : Limited config (under key limiter.log)
  absent : limiter.windows key = none → under key limiter.log = []
  counting : ∀ window, limiter.windows key = some window →
    Counting config (under key limiter.log) window
  begun : ∀ window, limiter.windows key = some window →
    ∃ earlier ∈ history, window.started = earlier.read

theorem upheld_serve {wait : Nat} {history : List LimitedRequest} {limiter : Limiter}
    {request : LimitedRequest} (enabled : config.enabled = true)
    (limit : config.maxRequests < u32Max) (timely : Timely wait (history ++ [request]))
    (upheld : Upheld config key history limiter) :
    Upheld config key (history ++ [request]) (limiter.serve config request) := by
  obtain ⟨earlier, order, waited⟩ := timely.concat
  rw [serve_eq enabled]
  by_cases mine : request.key = key
  · subst mine
    have counting : Counting config (under request.key limiter.log)
        (currentWindow config limiter.windows request.read request.key) :=
      counting_current upheld.absent upheld.counting
    have readBy : ∃ other ∈ history ++ [request],
        (currentWindow config limiter.windows request.read request.key).started = other.read := by
      rcases current_started limiter.windows request.read with now | ⟨window, known, same⟩
      · exact ⟨request, List.mem_append_right _ (List.mem_singleton_self _), now⟩
      · obtain ⟨other, here, begun⟩ := upheld.begun window known
        exact ⟨other, List.mem_append_left _ here, same.trans begun⟩
    have begun : (currentWindow config limiter.windows request.read request.key).started ≤
        request.locked := by
      obtain ⟨other, here, same⟩ := readBy
      rw [same]
      rcases List.mem_append.mp here with old | now
      · exact (earlier.waits other old).1.trans (order other old)
      · obtain rfl := List.mem_singleton.mp now
        exact waited
    have grown : ∀ log, under request.key (entryOf config
        (currentWindow config limiter.windows request.read request.key) request :: log) =
          entryOf config (currentWindow config limiter.windows request.read request.key) request ::
            under request.key log := by
      intro log
      simp [under, entryOf]
    refine ⟨?_, ?_, ?_, ?_⟩
    · rw [grown]
      exact limited_step upheld.limited counting limit (read_le_current _ _) begun
    · intro absent
      simp at absent
    · intro window known
      simp only [Function.update_self, Option.some.injEq] at known
      subst known
      rw [grown]
      exact counting_step counting limit
    · intro window known
      simp only [Function.update_self, Option.some.injEq] at known
      subst known
      exact readBy
  · have same : under key (entryOf config
        (currentWindow config limiter.windows request.read request.key) request :: limiter.log) =
          under key limiter.log := by
      simp [under, entryOf, mine]
    have kept : Function.update limiter.windows request.key (some
        ⟨(currentWindow config limiter.windows request.read request.key).started,
          min ((currentWindow config limiter.windows request.read request.key).count + 1)
            u32Max⟩) key = limiter.windows key :=
      Function.update_of_ne (Ne.symm mine) _ _
    refine ⟨?_, ?_, ?_, ?_⟩
    · dsimp only
      rw [same]
      exact upheld.limited
    · dsimp only
      rw [same, kept]
      exact upheld.absent
    · dsimp only
      rw [same, kept]
      exact upheld.counting
    · intro window known
      dsimp only at known
      rw [kept] at known
      obtain ⟨other, here, begun⟩ := upheld.begun window known
      exact ⟨other, List.mem_append_left _ here, begun⟩

theorem limited_served {wait : Nat} {requests : List LimitedRequest}
    (enabled : config.enabled = true) (limit : config.maxRequests < u32Max)
    (timely : Timely wait requests) : Limited config (under key (served config requests)) := by
  have empty : Upheld config key [] ⟨fun _ => none, []⟩ :=
    ⟨⟨by simp [FixedWindow.Spaced, under], by simp [under, admittedIn], by simp [under], trivial⟩,
      fun _ => rfl, by simp, by simp⟩
  have upheld : Timely wait requests → Upheld config key requests
      (Runs.run (Limiter.serve config) ⟨fun _ => none, []⟩ requests) :=
    Runs.run_history
      (fun history limiter => Timely wait history → Upheld config key history limiter)
      (fun _ => empty)
      (fun history limiter request ih timely =>
        upheld_serve enabled limit timely (ih timely.concat.1)) requests
  exact (upheld timely).limited

theorem request_mem_of_served {requests : List LimitedRequest} :
    ∀ entry ∈ served config requests, entry.request ∈ requests := by
  refine @Runs.run_history _ _ (Limiter.serve config)
    (fun history limiter => ∀ entry ∈ limiter.log, entry.request ∈ history) _ ?_ ?_ requests
  · intro entry among
    simp at among
  · intro history limiter request ih entry among
    rcases List.mem_cons.mp among with rfl | earlier
    · exact List.mem_append_right _ (List.mem_singleton_self _)
    · exact List.mem_append_left _ (ih entry earlier)

theorem Justified.split {log : List Served} (justified : Justified config log) :
    ∀ later entry earlier, log = later ++ entry :: earlier → entry.admitted = false →
      config.maxRequests ≤ earlier.countP fun other =>
        entry.request.read ≤ other.request.locked + config.window := by
  induction log with
  | nil => simp
  | cons first rest ih =>
    intro later entry earlier split refused
    cases later with
    | nil =>
      obtain ⟨rfl, rfl⟩ := List.cons.inj split
      exact justified.1 refused
    | cons last later =>
      exact ih justified.2 later entry earlier (List.cons.inj split).2 refused

/-- The admitted requests that got the lock in the length of a window from the time. -/
def admittedFrom (config : RateLimitConfig) (time : Nat) (log : List Served) : List Served :=
  log.filter fun entry => entry.admitted && decide (time ≤ entry.request.locked ∧
    entry.request.locked ≤ time + config.window)

theorem Limited.length_admittedFrom_le {log : List Served} {wait time : Nat}
    (limited : Limited config log)
    (waited : ∀ entry ∈ log, entry.request.locked ≤ entry.request.read + wait) :
    (admittedFrom config time log).length ≤
      (2 + (wait + config.window) / (config.window + 1)) * config.maxRequests := by
  -- the windows of these requests begin in this range
  have within : ∀ entry ∈ admittedFrom config time log,
      time - (wait + config.window) ≤ entry.started ∧
        entry.started ≤ time - (wait + config.window) + (wait + 2 * config.window) := by
    intro entry among
    obtain ⟨here, chosen⟩ := List.mem_filter.mp among
    have placed := limited.placed entry here
    have waited := waited entry here
    simp only [Bool.and_eq_true, decide_eq_true_eq] at chosen
    omega
  have few : ∀ started, (admittedFrom config time log).countP (fun entry => entry.started = started)
      ≤ config.maxRequests := by
    intro started
    refine le_trans ?_ (limited.few started)
    rw [admittedFrom, List.countP_filter, admittedIn]
    refine List.countP_mono_left fun entry _ both => ?_
    simp only [Bool.and_eq_true, decide_eq_true_eq] at both ⊢
    exact ⟨both.2.1, both.1⟩
  have spaced : FixedWindow.Spaced (config.window + 1)
      ((admittedFrom config time log).map Served.started) :=
    limited.spaced.sublist (List.map_subset _ (List.filter_subset_self _))
  have bound := FixedWindow.length_le (Nat.add_one_pos _) spaced within few
  have windows : (wait + 2 * config.window) / (config.window + 1) + 1 ≤
      2 + (wait + config.window) / (config.window + 1) := by
    have : (wait + 2 * config.window) / (config.window + 1) ≤
        (wait + config.window + (config.window + 1)) / (config.window + 1) :=
      Nat.div_le_div_right (by omega)
    rw [Nat.add_div_right _ (Nat.add_one_pos _)] at this
    omega
  exact bound.trans (Nat.mul_le_mul_right _ windows)

/-- However the requests of all clients follow each other, at most twice as many of one client on
    one path as the limit says get through in the length of a window, and as many again for each
    length that a request may wait for the lock.  One is refused only if that many of them came in
    the length of a window before it. -/
theorem requests_limited {wait : Nat} {requests : List LimitedRequest}
    (enabled : config.enabled = true) (limit : config.maxRequests < u32Max)
    (timely : Timely wait requests) (key : String) :
    (∀ time, (admittedFrom config time (under key (served config requests))).length ≤
      (2 + (wait + config.window) / (config.window + 1)) * config.maxRequests) ∧
    ∀ later entry earlier, under key (served config requests) = later ++ entry :: earlier →
      entry.admitted = false → config.maxRequests ≤ earlier.countP fun other =>
        entry.request.read ≤ other.request.locked + config.window := by
  have limited : Limited config (under key (served config requests)) :=
    limited_served enabled limit timely
  refine ⟨fun time => limited.length_admittedFrom_le fun entry among => ?_,
    limited.justified.split⟩
  exact (timely.waits entry.request
    (request_mem_of_served entry (List.mem_filter.mp among).1)).2

def sampleLimit : RateLimitConfig := ⟨true, 60, 1⟩

def sampleLimited (read locked : Nat) : LimitedRequest :=
  ⟨some "10.0.0.1, 10.0.0.2", none, none, "/session", read, locked⟩

example : (sampleLimited 0 2).key = "10.0.0.1|/session" := by decide

/-- Two requests that follow each other, of which the second is refused. -/
def sampleRequests : List LimitedRequest := [sampleLimited 0 2, sampleLimited 1 3]

theorem requests_limited_at_sample :
    let log := under (sampleLimited 0 2).key (served sampleLimit sampleRequests)
    (∀ time, (admittedFrom sampleLimit time log).length ≤ 3 * 1) ∧
      ∀ later entry earlier, log = later ++ entry :: earlier →
        entry.admitted = false → 1 ≤ earlier.countP fun other =>
          entry.request.read ≤ other.request.locked + 60 :=
  @requests_limited sampleLimit 2 sampleRequests rfl (by decide)
    ⟨by simp [sampleRequests, sampleLimited], by simp [sampleRequests, sampleLimited]⟩
    (sampleLimited 0 2).key

end

end OwlId.Issuer
