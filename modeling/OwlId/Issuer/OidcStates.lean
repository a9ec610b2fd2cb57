import Mathlib
import OwlId.Issuer.Database
import OwlId.Lib.Runs

/-! # Callbacks of the OIDC flow

A login stores an entry under a fresh state value; the callback that returns with this
value peeks at the entry, takes it, exchanges the code with the entry's PKCE verifier and
checks the id token against the entry's nonce.  Between any two of these points other
logins and callbacks, the clock and the clean-up go on.

The two looks at the store see the same entry because state values are fresh, and only one
callback can take it: that is all of `OidcInv`.
-/

namespace OwlId.Issuer

open OwlId.Lib

variable {Claims : Type}

/-! ## The store -/

structure StoredOidcState where
  state : String
  codeVerifier : String
  nonce : String
  providerId : String
  createdAt : Nat
  /-- `none` for the standalone login. -/
  sessionId : Option Uuid
deriving DecidableEq

def StoredOidcState.isExpired (entry : StoredOidcState) (ttl now : Nat) : Bool :=
  ttl < now - entry.createdAt

structure OidcStateStore where
  entries : Table StoredOidcState.state
  ttl : Nat

namespace OidcStateStore

/-- Ten minutes. -/
def defaultTtl : Nat := 600

def new (ttl : Nat) : OidcStateStore := ⟨Table.empty, ttl⟩

def insert (store : OidcStateStore) (entry : StoredOidcState) : OidcStateStore :=
  { store with entries := store.entries.insert entry }

/-- An expired entry is removed, any other stays. -/
def peek (store : OidcStateStore) (now : Nat) (state : String) :
    Option StoredOidcState × OidcStateStore :=
  match store.entries.find state with
  | some entry =>
    if entry.isExpired store.ttl now then
      (none, { store with entries := store.entries.erase state })
    else (some entry, store)
  | none => (none, store)

def take (store : OidcStateStore) (now : Nat) (state : String) :
    Option StoredOidcState × OidcStateStore :=
  match store.entries.find state with
  | some entry =>
    (if entry.isExpired store.ttl now then none else some entry,
      { store with entries := store.entries.erase state })
  | none => (none, store)

def cleanup (store : OidcStateStore) (now : Nat) : OidcStateStore :=
  { store with entries := store.entries.retain fun entry => ! entry.isExpired store.ttl now }

/-! ### What looking does -/

variable {store store' : OidcStateStore} {now : Nat} {state : String}

/-- Every look only removes entries, and what it finds was there. -/
theorem peek_rows {found : Option StoredOidcState}
    (peeks : store.peek now state = (found, store')) :
    (∀ entry ∈ store'.entries.rows, entry ∈ store.entries.rows) ∧
      ∀ entry, found = some entry → entry ∈ store.entries.rows ∧ entry.state = state := by
  unfold peek at peeks
  cases hit : store.entries.find state with
  | some entry =>
    simp only [hit] at peeks
    split at peeks
    · cases peeks
      exact ⟨fun entry member => (Table.mem_retain.mp member).1, fun _ absent => by cases absent⟩
    · cases peeks
      refine ⟨fun _ member => member, fun other same => ?_⟩
      obtain rfl := Option.some.inj same
      exact Table.find_eq_some.mp hit
  | none =>
    simp only [hit] at peeks
    cases peeks
    exact ⟨fun _ member => member, fun _ absent => by cases absent⟩

/-- What was taken is gone. -/
theorem take_rows {found : Option StoredOidcState}
    (takes : store.take now state = (found, store')) :
    (∀ entry ∈ store'.entries.rows, entry ∈ store.entries.rows) ∧
      ∀ entry, found = some entry → entry ∈ store.entries.rows ∧ entry.state = state ∧
        ∀ other ∈ store'.entries.rows, other.state ≠ state := by
  unfold take at takes
  cases hit : store.entries.find state with
  | some entry =>
    simp only [hit] at takes
    cases takes
    refine ⟨fun entry member => (Table.mem_retain.mp member).1, fun other same => ?_⟩
    split at same
    · cases same
    · obtain rfl := Option.some.inj same
      obtain ⟨member, named⟩ := Table.find_eq_some.mp hit
      refine ⟨member, named, fun rest kept => ?_⟩
      simpa using (Table.mem_retain.mp kept).2
  | none =>
    simp only [hit] at takes
    cases takes
    exact ⟨fun _ member => member, fun _ absent => by cases absent⟩

end OidcStateStore

/-! ## Callbacks -/

/-- Where a callback stands.  `sessionId` is what it read when it peeked, `pending` the entry it
    took. -/
inductive CallbackPhase (Claims : Type) where
  | arrived
  | previewed (sessionId : Option Uuid)
  | taken (pending : StoredOidcState) (sessionId : Option Uuid)
  | checking (pending : StoredOidcState) (sessionId : Option Uuid)
  | storing (pending : StoredOidcState) (sessionId : Uuid) (claims : Claims)
  | marking (pending : StoredOidcState) (sessionId : Uuid)
  | ended

/-- `providerId` is the last part of the callback's path. -/
structure OidcCallback (Claims : Type) where
  providerId : String
  state : String
  code : String
  phase : CallbackPhase Claims

/-- What comes back from the provider; anything else ends the callback. -/
inductive OidcAnswer (Claims : Type) where
  | unavailable
  | exchanged (succeeded : Bool)
  /-- `valid` stands for all checks of the token but the one of its nonce. -/
  | idToken (valid : Bool) (nonce : Option String) (claims : Claims)

inductive OidcEvent where
  | started (entry : StoredOidcState)
  | exchange (callback : Nat) (state providerId code codeVerifier : String) (succeeded : Bool)
  /-- The id token carried this nonce and was accepted. -/
  | idToken (callback : Nat) (nonce : String)
  /-- The session was marked verified, or the standalone login returned its claims. -/
  | succeeded (callback : Nat) (sessionId : Option Uuid)
deriving DecidableEq

/-- The service as far as this flow goes. -/
structure OidcService (Claims : Type) where
  store : OidcStateStore
  db : IdpDatabase Claims
  now : Nat
  callbacks : Nat → Option (OidcCallback Claims)
  log : List OidcEvent

inductive OidcStep (Claims : Type) where
  | login (state codeVerifier nonce providerId : String) (sessionId : Option Uuid)
  | callback (i : Nat) (providerId state code : String)
  | proceed (i : Nat) (answer : OidcAnswer Claims)
  | drop (i : Nat)
  | cleanup
  | tick (seconds : Nat)
  /-- All that other handlers do to the database. -/
  | others (db : IdpDatabase Claims)

namespace OidcService

def start (ttl : Nat) : OidcService Claims :=
  ⟨OidcStateStore.new ttl, IdpDatabase.new, 0, fun _ => none, []⟩

def setPhase (s : OidcService Claims) (i : Nat) (callback : OidcCallback Claims)
    (phase : CallbackPhase Claims) : OidcService Claims :=
  { s with callbacks := Function.update s.callbacks i (some { callback with phase := phase }) }

/-- `isOidc` says which provider ids the registry holds an OIDC provider for. -/
def proceed (isOidc : String → Bool) (s : OidcService Claims) (i : Nat)
    (callback : OidcCallback Claims) (answer : OidcAnswer Claims) : OidcService Claims :=
  match callback.phase with
  | .arrived =>
    match s.store.peek s.now callback.state with
    | (some preview, store) =>
      { s.setPhase i callback (if preview.providerId = callback.providerId then
          .previewed preview.sessionId else .ended) with store := store }
    | (none, store) => { s.setPhase i callback .ended with store := store }
  | .previewed (some sessionId) =>
    if isOidc callback.providerId then
      match s.store.take s.now callback.state with
      | (some pending, store) =>
        { s.setPhase i callback
            (if pending.providerId = callback.providerId ∧ pending.sessionId = some sessionId then
              .taken pending (some sessionId) else .ended) with store := store }
      | (none, store) => { s.setPhase i callback .ended with store := store }
    else s.setPhase i callback .ended
  -- the standalone login looks at the entry no more
  | .previewed none =>
    match s.store.take s.now callback.state with
    | (some pending, store) => { s.setPhase i callback (.taken pending none) with store := store }
    | (none, store) => { s.setPhase i callback .ended with store := store }
  | .taken pending sessionId =>
    match answer with
    | .exchanged succeeded =>
      { s.setPhase i callback (if succeeded then .checking pending sessionId else .ended) with
        log := s.log ++ [.exchange i callback.state callback.providerId callback.code
          pending.codeVerifier succeeded] }
    | _ => s.setPhase i callback .ended
  | .checking pending sessionId =>
    match answer with
    | .idToken valid nonce claims =>
      if valid ∧ nonce = some pending.nonce then
        match sessionId with
        | some sessionId =>
          { s.setPhase i callback (.storing pending sessionId claims) with
            log := s.log ++ [.idToken i pending.nonce] }
        | none =>
          { s.setPhase i callback .ended with
            log := s.log ++ [.idToken i pending.nonce, .succeeded i none] }
      else s.setPhase i callback .ended
    | _ => s.setPhase i callback .ended
  | .storing pending sessionId claims =>
    { s.setPhase i callback (.marking pending sessionId) with
      db := s.db.storeClaims sessionId claims }
  | .marking _ sessionId =>
    match s.db.markSessionVerified sessionId with
    | .ok db =>
      { s.setPhase i callback .ended with
        db := db
        log := s.log ++ [.succeeded i (some sessionId)] }
    | .error _ => s.setPhase i callback .ended
  | .ended => s

def step (isOidc : String → Bool) (s : OidcService Claims) : OidcStep Claims → OidcService Claims
  | .login state codeVerifier nonce providerId sessionId =>
    let entry := ⟨state, codeVerifier, nonce, providerId, s.now, sessionId⟩
    { s with store := s.store.insert entry, log := s.log ++ [.started entry] }
  | .callback i providerId state code =>
    match s.callbacks i with
    | none => s.setPhase i ⟨providerId, state, code, .arrived⟩ .arrived
    | some _ => s
  | .proceed i answer =>
    match s.callbacks i with
    | some callback => s.proceed isOidc i callback answer
    | none => s
  | .drop i =>
    match s.callbacks i with
    | some callback => s.setPhase i callback .ended
    | none => s
  | .cleanup => { s with store := s.store.cleanup s.now }
  | .tick seconds => { s with now := s.now + seconds }
  | .others db => { s with db := db }

abbrev run (isOidc : String → Bool) (ttl : Nat) (steps : List (OidcStep Claims)) :
    OidcService Claims :=
  Runs.run (step isOidc) (start ttl) steps

/-! ## The invariant -/

/-- A code is exchanged under this state value. -/
def exchangesFor (state : String) : OidcEvent → Bool
  | .exchange _ other _ _ _ _ => other = state
  | _ => false

/-- The entry was stored under the callback's state, for its provider and this session. -/
structure Matches (log : List OidcEvent) (callback : OidcCallback Claims) (entry : StoredOidcState)
    (sessionId : Option Uuid) : Prop where
  started : .started entry ∈ log
  state : entry.state = callback.state
  providerId : entry.providerId = callback.providerId
  sessionId : entry.sessionId = sessionId

def Exchanged (log : List OidcEvent) (i : Nat) (entry : StoredOidcState) : Prop :=
  ∃ code, .exchange i entry.state entry.providerId code entry.codeVerifier true ∈ log

/-- What a callback has behind it. -/
def Fits (log : List OidcEvent) (i : Nat) (callback : OidcCallback Claims) : Prop :=
  match callback.phase with
  | .previewed sessionId => ∃ preview, Matches log callback preview sessionId
  | .taken pending sessionId => Matches log callback pending sessionId
  | .checking pending sessionId =>
    Matches log callback pending sessionId ∧ Exchanged log i pending
  | .storing pending sessionId _ | .marking pending sessionId =>
    Matches log callback pending (some sessionId) ∧ Exchanged log i pending ∧
      .idToken i pending.nonce ∈ log
  | .arrived | .ended => True

/-- The entry a callback took and has not exchanged a code with yet. -/
def CallbackPhase.ready : CallbackPhase Claims → Option StoredOidcState
  | .taken pending _ => some pending
  | _ => none

/-- A success goes back to one entry of the store. -/
def Bound (log : List OidcEvent) (i : Nat) (sessionId : Option Uuid) : Prop :=
  ∃ entry, .started entry ∈ log ∧ entry.sessionId = sessionId ∧ Exchanged log i entry ∧
    .idToken i entry.nonce ∈ log

structure OidcInv (s : OidcService Claims) : Prop where
  /-- State values are fresh. -/
  distinct : ∀ entry other, .started entry ∈ s.log → .started other ∈ s.log →
    entry.state = other.state → entry = other
  stored : ∀ entry ∈ s.store.entries.rows,
    .started entry ∈ s.log ∧ s.log.countP (exchangesFor entry.state) = 0
  fits : ∀ i callback, s.callbacks i = some callback → Fits s.log i callback
  /-- An entry that was taken is out of the store and unspent. -/
  ready : ∀ i callback pending, s.callbacks i = some callback →
    CallbackPhase.ready callback.phase = some pending →
      s.log.countP (exchangesFor pending.state) = 0 ∧
        ∀ entry ∈ s.store.entries.rows, entry.state ≠ pending.state
  alone : ∀ i j callback other pending pending', s.callbacks i = some callback →
    s.callbacks j = some other → CallbackPhase.ready callback.phase = some pending →
      CallbackPhase.ready other.phase = some pending' → pending.state = pending'.state → i = j
  once : ∀ state, s.log.countP (exchangesFor state) ≤ 1
  known : ∀ state, 0 < s.log.countP (exchangesFor state) →
    ∃ entry, .started entry ∈ s.log ∧ entry.state = state
  bound : ∀ i sessionId, .succeeded i sessionId ∈ s.log → Bound s.log i sessionId

theorem start_inv (ttl : Nat) : OidcInv (start ttl : OidcService Claims) where
  distinct := by simp [start]
  stored := by simp [start, OidcStateStore.new, Table.empty]
  fits := by simp [start]
  ready := by simp [start]
  alone := by simp [start]
  once := by simp [start]
  known := by simp [start]
  bound := by simp [start]

theorem Matches.mono {log log' : List OidcEvent} {callback : OidcCallback Claims}
    {entry : StoredOidcState} {sessionId : Option Uuid} (within : log ⊆ log')
    (fits : Matches log callback entry sessionId) : Matches log' callback entry sessionId :=
  ⟨within fits.started, fits.state, fits.providerId, fits.sessionId⟩

theorem Matches.rephase {log : List OidcEvent} {callback : OidcCallback Claims}
    {entry : StoredOidcState} {sessionId : Option Uuid}
    (fits : Matches log callback entry sessionId) (phase : CallbackPhase Claims) :
    Matches log { callback with phase := phase } entry sessionId :=
  ⟨fits.started, fits.state, fits.providerId, fits.sessionId⟩

theorem Exchanged.mono {log log' : List OidcEvent} {i : Nat} {entry : StoredOidcState}
    (within : log ⊆ log') (exchanged : Exchanged log i entry) : Exchanged log' i entry := by
  obtain ⟨code, member⟩ := exchanged
  exact ⟨code, within member⟩

theorem Fits.mono {log log' : List OidcEvent} {i : Nat} {callback : OidcCallback Claims}
    (within : log ⊆ log') (fits : Fits log i callback) : Fits log' i callback := by
  unfold Fits at fits ⊢
  split at fits
  · obtain ⟨preview, matches_⟩ := fits
    exact ⟨preview, matches_.mono within⟩
  · exact fits.mono within
  · exact ⟨fits.1.mono within, fits.2.mono within⟩
  · exact ⟨fits.1.mono within, fits.2.1.mono within, within fits.2.2⟩
  · exact ⟨fits.1.mono within, fits.2.1.mono within, within fits.2.2⟩
  · trivial
  · trivial

theorem Bound.mono {log log' : List OidcEvent} {i : Nat} {sessionId : Option Uuid}
    (within : log ⊆ log') (bound : Bound log i sessionId) : Bound log' i sessionId := by
  obtain ⟨entry, started, same, exchanged, token⟩ := bound
  exact ⟨entry, within started, same, exchanged.mono within, within token⟩

variable {s : OidcService Claims} {i : Nat} {callback : OidcCallback Claims}

/-! ### Updates that keep it -/

/-- Entries may go from the store. -/
theorem OidcInv.withStore (inv : OidcInv s) {store : OidcStateStore}
    (within : ∀ entry ∈ store.entries.rows, entry ∈ s.store.entries.rows) :
    OidcInv { s with store := store } where
  distinct := inv.distinct
  stored entry member := inv.stored entry (within entry member)
  fits := inv.fits
  ready j other pending here taken := by
    obtain ⟨unspent, away⟩ := inv.ready j other pending here taken
    exact ⟨unspent, fun entry member => away entry (within entry member)⟩
  alone := inv.alone
  once := inv.once
  known := inv.known
  bound := inv.bound

/-- Nothing here is about the database. -/
theorem OidcInv.withDb (inv : OidcInv s) (db : IdpDatabase Claims) : OidcInv { s with db := db } :=
  ⟨inv.distinct, inv.stored, inv.fits, inv.ready, inv.alone, inv.once, inv.known, inv.bound⟩

/-- The callbacks after one of them changed its phase. -/
theorem callbacks_setPhase {phase : CallbackPhase Claims} {j : Nat} {other : OidcCallback Claims}
    (here : (s.setPhase i callback phase).callbacks j = some other) :
    j = i ∧ other = { callback with phase := phase } ∨ j ≠ i ∧ s.callbacks j = some other := by
  by_cases its : j = i
  · simp only [setPhase, its, Function.update_self, Option.some.injEq] at here
    exact .inl ⟨its, here.symm⟩
  · exact .inr ⟨its, by simpa [setPhase, its] using here⟩

/-- A callback may go on to a phase that fits and holds no unspent entry. -/
theorem OidcInv.rephase (inv : OidcInv s) {phase : CallbackPhase Claims}
    (fits : Fits s.log i { callback with phase := phase })
    (spent : CallbackPhase.ready phase = none) : OidcInv (s.setPhase i callback phase) where
  distinct := inv.distinct
  stored := inv.stored
  fits j other here := by
    rcases callbacks_setPhase here with ⟨rfl, rfl⟩ | ⟨_, before⟩
    · exact fits
    · exact inv.fits j other before
  ready j other pending here taken := by
    rcases callbacks_setPhase here with ⟨rfl, rfl⟩ | ⟨_, before⟩
    · rw [spent] at taken
      cases taken
    · exact inv.ready j other pending before taken
  alone j k first second pending pending' here there taken taken' same := by
    rcases callbacks_setPhase here with ⟨rfl, rfl⟩ | ⟨_, before⟩
    · rw [spent] at taken
      cases taken
    · rcases callbacks_setPhase there with ⟨rfl, rfl⟩ | ⟨_, before'⟩
      · rw [spent] at taken'
        cases taken'
      · exact inv.alone j k first second pending pending' before before' taken taken' same
  once := inv.once
  known := inv.known
  bound := inv.bound

/-- Events that neither start a flow nor exchange a code. -/
theorem OidcInv.logged (inv : OidcInv s) (events : List OidcEvent)
    (quiet : ∀ event ∈ events, (∀ entry, event ≠ .started entry) ∧
      ∀ state, exchangesFor state event = false)
    (bound : ∀ j sessionId, .succeeded j sessionId ∈ events →
      Bound (s.log ++ events) j sessionId) : OidcInv { s with log := s.log ++ events } := by
  have within : s.log ⊆ s.log ++ events := List.subset_append_left _ _
  have count (state : String) :
      (s.log ++ events).countP (exchangesFor state) = s.log.countP (exchangesFor state) := by
    have none : events.countP (exchangesFor state) = 0 :=
      List.countP_eq_zero.mpr fun event member => by simp [(quiet event member).2 state]
    rw [List.countP_append, none, Nat.add_zero]
  have old {entry : StoredOidcState} (member : .started entry ∈ s.log ++ events) :
      .started entry ∈ s.log := by
    rcases List.mem_append.mp member with before | new
    · exact before
    · exact absurd rfl ((quiet _ new).1 entry)
  constructor
  · intro entry other first second
    exact inv.distinct entry other (old first) (old second)
  · intro entry member
    obtain ⟨started, unspent⟩ := inv.stored entry member
    exact ⟨within started, (count _).trans unspent⟩
  · intro j other here
    exact (inv.fits j other here).mono within
  · intro j other pending here taken
    obtain ⟨unspent, away⟩ := inv.ready j other pending here taken
    exact ⟨(count _).trans unspent, away⟩
  · exact inv.alone
  · intro state
    exact (count state).trans_le (inv.once state)
  · intro state positive
    obtain ⟨entry, started, same⟩ := inv.known state ((count state).symm ▸ positive)
    exact ⟨entry, within started, same⟩
  · intro j sessionId member
    rcases List.mem_append.mp member with before | new
    · exact (inv.bound j sessionId before).mono within
    · exact bound j sessionId new

theorem fits_taken {pending : StoredOidcState} (fits : Fits s.log i callback)
    (taken : CallbackPhase.ready callback.phase = some pending) :
    ∃ sessionId, callback.phase = .taken pending sessionId ∧
      Matches s.log callback pending sessionId := by
  unfold CallbackPhase.ready at taken
  split at taken
  next entry sessionId phase =>
    obtain rfl := Option.some.inj taken
    refine ⟨sessionId, phase, ?_⟩
    simpa only [Fits, phase] using fits
  next => cases taken

/-- A callback takes its entry: it was in the store, so nobody else holds it. -/
theorem OidcInv.takes (inv : OidcInv s) {pending : StoredOidcState} {sessionId : Option Uuid}
    {store : OidcStateStore} (takes : s.store.take s.now callback.state = (some pending, store))
    (matches_ : Matches s.log callback pending sessionId) :
    OidcInv { s.setPhase i callback (.taken pending sessionId) with store := store } := by
  obtain ⟨within, from_⟩ := OidcStateStore.take_rows takes
  obtain ⟨member, named, away⟩ := from_ pending rfl
  have less := inv.withStore within
  constructor
  · exact inv.distinct
  · exact less.stored
  · intro j other here
    rcases callbacks_setPhase here with ⟨rfl, rfl⟩ | ⟨_, before⟩
    · exact matches_.rephase _
    · exact inv.fits j other before
  · intro j other held here taken
    rcases callbacks_setPhase here with ⟨rfl, rfl⟩ | ⟨_, before⟩
    · obtain rfl := Option.some.inj taken
      refine ⟨(inv.stored pending member).2, fun entry kept => ?_⟩
      rw [named]
      exact away entry kept
    · exact less.ready j other held before taken
  · have others {j : Nat} {other : OidcCallback Claims} {held : StoredOidcState}
        (before : s.callbacks j = some other)
        (taken : CallbackPhase.ready other.phase = some held) : pending.state ≠ held.state :=
      (inv.ready j other held before taken).2 pending member
    intro j k first second held held' here there taken taken' same
    rcases callbacks_setPhase here with ⟨rfl, rfl⟩ | ⟨_, before⟩
    · rcases callbacks_setPhase there with ⟨rfl, rfl⟩ | ⟨_, before'⟩
      · rfl
      · obtain rfl := Option.some.inj taken
        exact absurd same (others before' taken')
    · rcases callbacks_setPhase there with ⟨rfl, rfl⟩ | ⟨_, before'⟩
      · obtain rfl := Option.some.inj taken'
        exact absurd same.symm (others before taken)
      · exact inv.alone j k first second held held' before before' taken taken' same
  · exact inv.once
  · exact inv.known
  · exact inv.bound

/-- The one exchange for an entry: from now on it is spent. -/
theorem OidcInv.exchanges (inv : OidcInv s) {pending : StoredOidcState}
    {sessionId : Option Uuid} (here : s.callbacks i = some callback)
    (phase : callback.phase = .taken pending sessionId) (succeeded : Bool) :
    OidcInv
      { s.setPhase i callback (if succeeded then .checking pending sessionId else .ended) with
        log := s.log ++ [.exchange i callback.state callback.providerId callback.code
          pending.codeVerifier succeeded] } := by
  have mine : CallbackPhase.ready callback.phase = some pending := by rw [phase]; rfl
  obtain ⟨unspent, away⟩ := inv.ready i callback pending here mine
  have matches_ : Matches s.log callback pending sessionId := by
    simpa only [Fits, phase] using inv.fits i callback here
  have within : s.log ⊆ s.log ++ [.exchange i callback.state callback.providerId callback.code
      pending.codeVerifier succeeded] := List.subset_append_left _ _
  have count (state : String) :
      (s.log ++ [OidcEvent.exchange i callback.state callback.providerId callback.code
        pending.codeVerifier succeeded]).countP (exchangesFor state) =
      s.log.countP (exchangesFor state) + if pending.state = state then 1 else 0 := by
    rw [List.countP_append, List.countP_singleton]
    simp only [exchangesFor, decide_eq_true_eq, matches_.state]
  have other_ {state : String} (different : pending.state ≠ state)
      (zero : s.log.countP (exchangesFor state) = 0) :
      (s.log ++ [OidcEvent.exchange i callback.state callback.providerId callback.code
        pending.codeVerifier succeeded]).countP (exchangesFor state) = 0 := by
    rw [count, zero, if_neg different]
  have notReady : CallbackPhase.ready
      (if succeeded then CallbackPhase.checking pending sessionId else .ended :
        CallbackPhase Claims) = none := by
    cases succeeded <;> rfl
  constructor
  · intro entry other first second
    exact inv.distinct entry other (by simpa using first) (by simpa using second)
  · intro entry member
    obtain ⟨started, zero⟩ := inv.stored entry member
    exact ⟨within started, other_ (Ne.symm (away entry member)) zero⟩
  · intro j other there
    rcases callbacks_setPhase there with ⟨rfl, rfl⟩ | ⟨_, before⟩
    · cases succeeded with
      | false => trivial
      | true =>
        refine ⟨(matches_.mono within).rephase _, callback.code, ?_⟩
        rw [matches_.state, matches_.providerId]
        exact List.mem_append_right _ List.mem_cons_self
    · exact (inv.fits j other before).mono within
  · intro j other held there taken
    rcases callbacks_setPhase there with ⟨rfl, rfl⟩ | ⟨different, before⟩
    · rw [notReady] at taken
      cases taken
    · obtain ⟨zero, away'⟩ := inv.ready j other held before taken
      refine ⟨other_ (fun same => different ?_) zero, away'⟩
      exact inv.alone j i other callback held pending before here taken mine same.symm
  · intro j k first second held held' there there' taken taken' same
    rcases callbacks_setPhase there with ⟨rfl, rfl⟩ | ⟨_, before⟩
    · rw [notReady] at taken
      cases taken
    · rcases callbacks_setPhase there' with ⟨rfl, rfl⟩ | ⟨_, before'⟩
      · rw [notReady] at taken'
        cases taken'
      · exact inv.alone j k first second held held' before before' taken taken' same
  · intro state
    rw [count]
    split
    next same => exact Nat.succ_le_succ (same ▸ unspent).le
    next => exact inv.once state
  · intro state positive
    rw [count] at positive
    split at positive
    next same => exact ⟨pending, within matches_.started, same⟩
    next =>
      obtain ⟨entry, started, same⟩ := inv.known state positive
      exact ⟨entry, within started, same⟩
  · intro j target member
    exact (inv.bound j target (by simpa using member)).mono within

/-- A login under a fresh state value. -/
theorem OidcInv.logsIn (inv : OidcInv s) {entry : StoredOidcState}
    (fresh : ∀ other, .started other ∈ s.log → other.state ≠ entry.state) :
    OidcInv { s with store := s.store.insert entry, log := s.log ++ [.started entry] } := by
  have within : s.log ⊆ s.log ++ [.started entry] := List.subset_append_left _ _
  have count (state : String) :
      (s.log ++ [OidcEvent.started entry]).countP (exchangesFor state) =
        s.log.countP (exchangesFor state) := by
    rw [List.countP_append]
    rfl
  constructor
  · intro first second started started' same
    simp only [List.mem_append, List.mem_singleton, OidcEvent.started.injEq] at started started'
    rcases started with before | rfl
    · rcases started' with before' | rfl
      · exact inv.distinct first second before before' same
      · exact absurd same (fresh first before)
    · rcases started' with before' | rfl
      · exact absurd same.symm (fresh second before')
      · rfl
  · intro other member
    rw [count]
    rcases Table.mem_insert member with rfl | before
    · refine ⟨List.mem_append_right _ List.mem_cons_self, ?_⟩
      by_contra spent
      obtain ⟨earlier, started, same⟩ := inv.known other.state (Nat.pos_of_ne_zero spent)
      exact fresh earlier started same
    · obtain ⟨started, unspent⟩ := inv.stored other before
      exact ⟨within started, unspent⟩
  · intro j other here
    exact (inv.fits j other here).mono within
  · intro j other pending here taken
    obtain ⟨unspent, away⟩ := inv.ready j other pending here taken
    refine ⟨(count _).trans unspent, fun stored member => ?_⟩
    rcases Table.mem_insert member with rfl | before
    · obtain ⟨_, _, matches_⟩ := fits_taken (inv.fits j other here) taken
      exact Ne.symm (fresh pending matches_.started)
    · exact away stored before
  · exact inv.alone
  · intro state
    exact (count state).trans_le (inv.once state)
  · intro state positive
    obtain ⟨earlier, started, same⟩ := inv.known state ((count state).symm ▸ positive)
    exact ⟨earlier, within started, same⟩
  · intro j target member
    exact (inv.bound j target (by simpa using member)).mono within

/-! ## Steps and runs -/

theorem OidcInv.ends (inv : OidcInv s) : OidcInv (s.setPhase i callback .ended) :=
  inv.rephase trivial rfl

/-- The callback looks at its entry for the first time. -/
theorem OidcInv.peeks (inv : OidcInv s) {found : Option StoredOidcState} {store : OidcStateStore}
    (peeks : s.store.peek s.now callback.state = (found, store)) {phase : CallbackPhase Claims}
    (next : phase = .ended ∨ ∃ preview, found = some preview ∧
      preview.providerId = callback.providerId ∧ phase = .previewed preview.sessionId) :
    OidcInv { s.setPhase i callback phase with store := store } := by
  obtain ⟨within, from_⟩ := OidcStateStore.peek_rows peeks
  have less := inv.withStore within
  rcases next with rfl | ⟨preview, rfl, provider, rfl⟩
  · exact less.ends
  · obtain ⟨member, named⟩ := from_ preview rfl
    exact less.rephase ⟨preview, (inv.stored preview member).1, named, provider, rfl⟩ rfl

/-- What was taken under the state of a callback that peeked is what it peeked at. -/
theorem OidcInv.takes_previewed (inv : OidcInv s) {sessionId : Option Uuid}
    {pending : StoredOidcState} {store : OidcStateStore}
    (fits : ∃ preview, Matches s.log callback preview sessionId)
    (takes : s.store.take s.now callback.state = (some pending, store)) :
    OidcInv { s.setPhase i callback (.taken pending sessionId) with store := store } := by
  obtain ⟨preview, matches_⟩ := fits
  obtain ⟨member, named, _⟩ := (OidcStateStore.take_rows takes).2 pending rfl
  have same := inv.distinct pending preview (inv.stored pending member).1 matches_.started
    (named.trans matches_.state.symm)
  exact inv.takes takes (same ▸ matches_)

theorem OidcInv.gone (inv : OidcInv s) {found : Option StoredOidcState} {store : OidcStateStore}
    (takes : s.store.take s.now callback.state = (found, store)) :
    OidcInv { s.setPhase i callback .ended with store := store } :=
  (inv.withStore (OidcStateStore.take_rows takes).1).ends

/-- The id token is accepted. -/
theorem OidcInv.checks (inv : OidcInv s) {pending : StoredOidcState} {sessionId : Option Uuid}
    (fits : Matches s.log callback pending sessionId ∧ Exchanged s.log i pending) (claims : Claims) :
    OidcInv
      (match sessionId with
        | some sessionId =>
          { s.setPhase i callback (.storing pending sessionId claims) with
            log := s.log ++ [.idToken i pending.nonce] }
        | none =>
          { s.setPhase i callback .ended with
            log := s.log ++ [.idToken i pending.nonce, .succeeded i none] }) := by
  obtain ⟨matches_, exchanged⟩ := fits
  cases sessionId with
  | some sessionId =>
    have logged := inv.logged [.idToken i pending.nonce] (by simp [exchangesFor]) (by simp)
    have within : s.log ⊆ s.log ++ [.idToken i pending.nonce] := List.subset_append_left _ _
    refine logged.rephase ⟨(matches_.mono within).rephase _, exchanged.mono within, ?_⟩ rfl
    exact List.mem_append_right _ List.mem_cons_self
  | none =>
    have within : s.log ⊆ s.log ++ [.idToken i pending.nonce, .succeeded i none] :=
      List.subset_append_left _ _
    refine (inv.logged _ (by simp [exchangesFor]) fun j target member => ?_).ends
    obtain ⟨rfl, rfl⟩ : j = i ∧ target = none := by simpa using member
    exact ⟨pending, within matches_.started, matches_.sessionId, exchanged.mono within,
      List.mem_append_right _ List.mem_cons_self⟩

theorem proceed_inv (isOidc : String → Bool) (inv : OidcInv s)
    (here : s.callbacks i = some callback) (answer : OidcAnswer Claims) :
    OidcInv (s.proceed isOidc i callback answer) := by
  have fits := inv.fits i callback here
  unfold proceed
  split
  next => -- arrived
    split
    next preview store peeks =>
      refine inv.peeks peeks ?_
      split
      next provider => exact .inr ⟨preview, rfl, provider, rfl⟩
      next => exact .inl rfl
    next store peeks => exact inv.peeks peeks (.inl rfl)
  next sessionId phase => -- previewed by a session
    have fits : ∃ preview, Matches s.log callback preview (some sessionId) := by
      simpa only [Fits, phase] using fits
    split
    · split
      next pending store takes =>
        split
        · exact inv.takes_previewed fits takes
        · exact inv.gone takes
      next store takes => exact inv.gone takes
    · exact inv.ends
  next phase => -- previewed by the standalone login
    have fits : ∃ preview, Matches s.log callback preview none := by
      simpa only [Fits, phase] using fits
    split
    next pending store takes => exact inv.takes_previewed fits takes
    next store takes => exact inv.gone takes
  next pending sessionId phase => -- taken
    split
    next succeeded => exact inv.exchanges here phase succeeded
    next => exact inv.ends
  next pending sessionId phase => -- checking
    have fits : Matches s.log callback pending sessionId ∧ Exchanged s.log i pending := by
      simpa only [Fits, phase] using fits
    split
    next valid nonce claims =>
      split
      · exact inv.checks fits claims
      · exact inv.ends
    next => exact inv.ends
  next pending sessionId claims phase => -- storing
    have fits : Matches s.log callback pending (some sessionId) ∧ Exchanged s.log i pending ∧
        .idToken i pending.nonce ∈ s.log := by
      simpa only [Fits, phase] using fits
    have marking : OidcInv (s.setPhase i callback (.marking pending sessionId)) :=
      inv.rephase ⟨fits.1.rephase _, fits.2⟩ rfl
    exact marking.withDb _
  next pending sessionId phase => -- marking
    have ⟨matches_, exchanged, token⟩ : Matches s.log callback pending (some sessionId) ∧
        Exchanged s.log i pending ∧ .idToken i pending.nonce ∈ s.log := by
      simpa only [Fits, phase] using fits
    split
    next db verifies =>
      have within : s.log ⊆ s.log ++ [.succeeded i (some sessionId)] :=
        List.subset_append_left _ _
      have logged := inv.logged [.succeeded i (some sessionId)] (by simp [exchangesFor])
        fun j target member => by
          obtain ⟨rfl, rfl⟩ : j = i ∧ target = some sessionId := by simpa using member
          exact ⟨pending, within matches_.started, matches_.sessionId, exchanged.mono within,
            within token⟩
      exact logged.ends.withDb db
    next => exact inv.ends
  next => exact inv

/-- The state values that were drawn for logins. -/
def drawnStates (steps : List (OidcStep Claims)) : List String :=
  steps.filterMap fun
    | .login state _ _ _ _ => some state
    | _ => none

/-- Every flow that was started was started by a login of the run. -/
def StartedBy (s : OidcService Claims) (steps : List (OidcStep Claims)) : Prop :=
  ∀ entry, .started entry ∈ s.log → entry.state ∈ drawnStates steps

theorem started_proceed (isOidc : String → Bool) (answer : OidcAnswer Claims)
    {entry : StoredOidcState} (member : .started entry ∈ (s.proceed isOidc i callback answer).log) :
    .started entry ∈ s.log := by
  unfold proceed at member
  repeat' split at member
  all_goals simpa [setPhase] using member

theorem step_inv (isOidc : String → Bool) {past : List (OidcStep Claims)} (inv : OidcInv s)
    (by_ : StartedBy s past) (input : OidcStep Claims)
    (fresh : (drawnStates (past ++ [input])).Nodup) : OidcInv (s.step isOidc input) := by
  cases input with
  | login state codeVerifier nonce providerId sessionId =>
    refine inv.logsIn fun other started same => ?_
    simp only [drawnStates, List.filterMap_append, List.nodup_append] at fresh
    exact fresh.2.2 other.state (by_ other started) state List.mem_cons_self same
  | callback j providerId state code =>
    simp only [step]
    split
    next =>
      exact @OidcInv.rephase Claims s j ⟨providerId, state, code, .arrived⟩ inv .arrived trivial rfl
    next => exact inv
  | proceed j answer =>
    simp only [step]
    split
    next callback here => exact proceed_inv isOidc inv here answer
    next => exact inv
  | drop j =>
    simp only [step]
    split
    next => exact inv.ends
    next => exact inv
  | cleanup => exact inv.withStore fun entry member => (Table.mem_retain.mp member).1
  | tick seconds =>
    exact ⟨inv.distinct, inv.stored, inv.fits, inv.ready, inv.alone, inv.once, inv.known, inv.bound⟩
  | others db => exact inv.withDb db

theorem step_startedBy (isOidc : String → Bool) {past : List (OidcStep Claims)}
    (by_ : StartedBy s past) (input : OidcStep Claims) :
    StartedBy (s.step isOidc input) (past ++ [input]) := by
  have earlier {entry : StoredOidcState} (member : .started entry ∈ s.log) :
      entry.state ∈ drawnStates (past ++ [input]) := by
    rw [drawnStates, List.filterMap_append]
    exact List.mem_append_left _ (by_ entry member)
  intro entry member
  cases input with
  | login state codeVerifier nonce providerId sessionId =>
    rcases List.mem_append.mp member with before | new
    · exact earlier before
    · obtain rfl := OidcEvent.started.inj (List.mem_singleton.mp new)
      simp [drawnStates]
  | callback j providerId state code =>
    simp only [step] at member
    split at member <;> exact earlier member
  | proceed j answer =>
    simp only [step] at member
    split at member
    · exact earlier (started_proceed isOidc answer member)
    · exact earlier member
  | drop j =>
    simp only [step] at member
    split at member <;> exact earlier member
  | cleanup => exact earlier member
  | tick seconds => exact earlier member
  | others db => exact earlier member

theorem run_inv (isOidc : String → Bool) (ttl : Nat) (steps : List (OidcStep Claims))
    (fresh : (drawnStates steps).Nodup) : OidcInv (run isOidc ttl steps) := by
  -- freshness of the whole run gives freshness of each of its beginnings
  have both : (drawnStates steps).Nodup →
      OidcInv (run isOidc ttl steps) ∧ StartedBy (run isOidc ttl steps) steps := by
    refine Runs.run_history (fun past (s : OidcService Claims) =>
      (drawnStates past).Nodup → OidcInv s ∧ StartedBy s past) ?_ ?_ steps
    · intro _
      exact ⟨start_inv ttl, by simp [StartedBy, start]⟩
    · intro past s input ih fresh
      have less : (drawnStates past).Nodup := by
        rw [drawnStates, List.filterMap_append] at fresh
        exact (List.nodup_append.mp fresh).1
      obtain ⟨inv, by_⟩ := ih less
      exact ⟨step_inv isOidc inv by_ input fresh, step_startedBy isOidc by_ input⟩
  exact (both fresh).1

/-! ## The result -/

/-- Callbacks are single use and bound. -/
structure CallbacksBound (log : List OidcEvent) : Prop where
  /-- Under a state value a code is exchanged at most once, successfully or not. -/
  once : ∀ state, log.countP (exchangesFor state) ≤ 1
  /-- A callback that succeeds has exchanged its code under the state, with the provider and the
      PKCE verifier of one started entry, its id token carried this entry's nonce, and the
      session it marks is this entry's. -/
  bound : ∀ i sessionId, .succeeded i sessionId ∈ log → ∃ entry, .started entry ∈ log ∧
    entry.sessionId = sessionId ∧
    (∃ code, .exchange i entry.state entry.providerId code entry.codeVerifier true ∈ log) ∧
    .idToken i entry.nonce ∈ log

/-- What callback `i` may do to the database in one step. -/
structure WritesBound (i : Nat) (before after : OidcService Claims) : Prop where
  /-- If it writes at all, then under the session of the entry it has exchanged a code and checked
      an id token for. -/
  written : after.db = before.db ∨ ∃ sessionId, Bound before.log i (some sessionId) ∧
    ∀ other, other ≠ sessionId → after.db.getSession other = before.db.getSession other ∧
      after.db.getClaims other = before.db.getClaims other
  /-- Its success is the one of the session that it has just marked. -/
  marked : ∀ sessionId, after.log = before.log ++ [.succeeded i (some sessionId)] →
    ∃ session, after.db.getSession sessionId = some session ∧ session.status = .verified

theorem proceed_writes (isOidc : String → Bool) (inv : OidcInv s)
    (here : s.callbacks i = some callback) (answer : OidcAnswer Claims) :
    WritesBound i s (s.proceed isOidc i callback answer) := by
  have fits := inv.fits i callback here
  cases phase : callback.phase with
  | storing pending sessionId claims =>
    simp only [Fits, phase] at fits
    obtain ⟨matches_, exchanged, token⟩ := fits
    have stores : s.proceed isOidc i callback answer =
        { s.setPhase i callback (.marking pending sessionId) with
          db := s.db.storeClaims sessionId claims } := by
      simp only [proceed, phase]
    rw [stores]
    refine ⟨.inr ⟨sessionId, ⟨pending, matches_.started, matches_.sessionId, exchanged, token⟩,
      fun other elsewhere => ⟨rfl, ?_⟩⟩, fun target logs => ?_⟩
    · exact (IdpDatabase.getClaims_storeClaims other).trans (if_neg elsewhere)
    · simp [setPhase] at logs
  | marking pending sessionId =>
    simp only [Fits, phase] at fits
    obtain ⟨matches_, exchanged, token⟩ := fits
    simp only [proceed, phase]
    cases verifies : s.db.markSessionVerified sessionId with
    | error e => exact ⟨.inl rfl, fun target logs => by simp [setPhase] at logs⟩
    | ok db =>
      refine ⟨.inr ⟨sessionId, ⟨pending, matches_.started, matches_.sessionId, exchanged, token⟩,
        fun other elsewhere => ⟨?_, ?_⟩⟩, fun target logs => ?_⟩
      · exact (IdpDatabase.getSession_updateSession verifies other).trans (if_neg elsewhere)
      · show db.getClaims other = s.db.getClaims other
        rw [IdpDatabase.getClaims, IdpDatabase.claims_updateSession verifies, IdpDatabase.getClaims]
      · obtain rfl : sessionId = target := by simpa [setPhase] using logs
        obtain ⟨session, found, _⟩ := IdpDatabase.updateSession_eq_ok.mp verifies
        refine ⟨{ session.verify with id := sessionId }, ?_, rfl⟩
        exact (IdpDatabase.getSession_updateSession verifies sessionId).trans (by simp [found])
  | previewed sessionId =>
    cases sessionId with
    | none =>
      simp only [proceed, phase]
      split <;> exact ⟨.inl rfl, fun target logs => by simp [setPhase] at logs⟩
    | some sessionId =>
      simp only [proceed, phase]
      split
      · split <;> exact ⟨.inl rfl, fun target logs => by simp [setPhase] at logs⟩
      · exact ⟨.inl rfl, fun target logs => by simp [setPhase] at logs⟩
  | arrived | taken _ _ | checking _ _ | ended =>
    unfold proceed
    simp only [phase]
    refine ⟨.inl ?_, fun target logs => ?_⟩
    · repeat' split
      all_goals rfl
    · revert logs
      repeat' split
      all_goals simp [setPhase]

/-- Every callback is single use and bound, in what it logs and in what it writes. -/
theorem oidc_callbacks_bound (isOidc : String → Bool) (ttl : Nat) (steps : List (OidcStep Claims))
    (fresh : (drawnStates steps).Nodup) :
    CallbacksBound (run isOidc ttl steps).log ∧
      ∀ past i answer, past ++ [.proceed i answer] <+: steps →
        WritesBound i (run isOidc ttl past) (run isOidc ttl (past ++ [.proceed i answer])) := by
  have inv := run_inv isOidc ttl steps fresh
  refine ⟨⟨inv.once, inv.bound⟩, fun past i answer reached => ?_⟩
  have before : past <+: steps := (List.prefix_append past _).trans reached
  have drawn : (drawnStates past).Nodup := fresh.sublist (before.sublist.filterMap _)
  rw [run, run, Runs.run_concat, step]
  split
  · next callback here => exact proceed_writes isOidc (run_inv isOidc ttl past drawn) here answer
  · exact ⟨.inl rfl, fun target logs => by simp at logs⟩

/-! ### Samples -/

/-- Two callbacks race for one state; the one that takes the entry first succeeds. -/
def racingCallbacks : List (OidcStep Unit) :=
  [.others (IdpDatabase.new.createSessionWithFlow
      (VerificationSession.new 7 "" "google" .oidcRedirect 0)),
    .login "s" "v" "n" "google" (some 7), .callback 0 "google" "s" "c",
    .callback 1 "google" "s" "c", .proceed 0 .unavailable, .proceed 1 .unavailable,
    .proceed 1 .unavailable, .proceed 0 .unavailable, .proceed 1 (.exchanged true),
    .proceed 1 (.idToken true (some "n") ()), .proceed 1 .unavailable, .proceed 1 .unavailable]

theorem oidc_callbacks_bound_at_sample :
    .succeeded 1 (some 7) ∈ (run (fun _ => true) OidcStateStore.defaultTtl racingCallbacks).log ∧
      CallbacksBound (run (fun _ => true) OidcStateStore.defaultTtl racingCallbacks).log :=
  ⟨by decide, (oidc_callbacks_bound (fun _ => true) OidcStateStore.defaultTtl racingCallbacks
    (by decide)).1⟩

end OidcService

end OwlId.Issuer
