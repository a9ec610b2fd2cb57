import Mathlib
import OwlId.Sidecar.DiffApply

/-! # The event stream of one connection

A client of `/events` first gets a snapshot and then the events of the bus.  The
snapshot is a generator: it reads the ledger of a section when it gets there and
yields one event per entry, and the handler waits for each to be written.  Only when
the generator is done does the handler subscribe, so what changes in between reaches
nobody.

`stream_shows_ledgers_iff` says what a consumer that applies every frame can rely on:
it has the current ledgers whenever it has caught up, if and only if at the moment of
subscribing the ledgers say what the sections of the snapshot read.
-/

namespace OwlId.Sidecar

open OwlId.Lib OwlId.Lib.Writes OwlId.Contracts OwlId.ProofSystem OwlId.Verification

/-! ## The ledgers -/

/-- The ledger of each contract, once there is one. -/
structure LedgerSet where
  issuers : Option Issuers
  registry : Option Registry
  predicates : List (Option (List Bytes32))

/-- The sections of a snapshot. -/
inductive Section where
  | issuers
  | revocations
  | predicate (slot : Nat)
deriving DecidableEq

namespace LedgerSet

/-- The mirror of the ledgers. -/
def view (ledgers : LedgerSet) : View where
  trusted := trustedIn ledgers.issuers
  status := statusIn ledgers.registry
  attested key := ledgers.predicates.any fun attestations => attestedIn attestations key

def empty (contracts : Nat) : LedgerSet := ⟨none, none, List.replicate contracts none⟩

/-- The entries of a section; `none` is the error of a ledger that is not there yet. -/
def entries (ledgers : LedgerSet) : Section → Option (List SidecarEvent)
  | .issuers => ledgers.issuers.map snapshotIssuers
  | .revocations => ledgers.registry.map snapshotRevocations
  | .predicate slot => (ledgers.predicates[slot]?.join).map snapshotAttestations

/-- What has been seen, with one section as it is now. -/
def see (ledgers seen : LedgerSet) : Section → LedgerSet
  | .issuers => { seen with issuers := ledgers.issuers }
  | .revocations => { seen with registry := ledgers.registry }
  | .predicate slot =>
    { seen with predicates := seen.predicates.set slot ledgers.predicates[slot]?.join }

/-- The predicate contracts are listed in the order they are joined in. -/
def sections (ledgers : LedgerSet) : List Section :=
  .issuers :: .revocations :: (List.range ledgers.predicates.length).map .predicate

end LedgerSet

/-! ## The handler -/

inductive Phase where
  | idle
  /-- The sections the generator has not reached, and the entries of the current one. -/
  | snapshot (rest : List Section) (pending : List SidecarEvent)
  /-- The snapshot stopped with an error frame. -/
  | failed
  | tailing
deriving DecidableEq

structure Stream where
  live : LedgerSet
  /-- The contracts the client has joined; the others have no section. -/
  joined : Section → Bool
  /-- Whether it has gone through all of them. -/
  connected : Bool
  phase : Phase
  /-- The ledgers the sections have read. -/
  seen : LedgerSet
  /-- Events of the bus that are not yet written. -/
  queue : List SidecarEvent
  /-- The frames written, in order. -/
  frames : List SidecarEvent

/-- What the generator does when it is asked for the next event. -/
inductive Pulled where
  | frame (event : SidecarEvent) (rest : List Section) (pending : List SidecarEvent)
      (seen : LedgerSet)
  | done (seen : LedgerSet)
  | thrown (seen : LedgerSet)

def pull (live : LedgerSet) (joined : Section → Bool) :
    List Section → List SidecarEvent → LedgerSet → Pulled
  | rest, event :: pending, seen => .frame event rest pending seen
  | [], [], seen => .done seen
  | current :: rest, [], seen =>
    if joined current then
      match live.entries current with
      | some entries => pull live joined rest entries (live.see seen current)
      | none => .thrown seen
    else pull live joined rest [] seen

/-- What happens around the stream.  A ledger only moves forward. -/
inductive StreamStep where
  /-- A client opens `/events`. -/
  | request
  /-- The handler goes on after its last write. -/
  | resume
  /-- The oldest queued event is written. -/
  | flush
  /-- A contract's initial query is answered, and later the contract counts as joined. -/
  | joinIssuers (owner : KeyOrAddress) (txs : List Issuers.IssuerTransaction)
  | changeIssuers (txs : List Issuers.IssuerTransaction)
  | joinRegistry (owner : KeyOrAddress) (txs : List Registry.RegistryTransaction)
  | changeRegistry (txs : List Registry.RegistryTransaction)
  /-- The attestation set of a contract; it only grows. -/
  | changePredicate (slot : Nat) (next : List Bytes32)
  | joined (contract : Section)
  | connected

namespace Stream

/-- No ledger yet, and no connection. -/
def start (contracts : Nat) : Stream where
  live := LedgerSet.empty contracts
  joined _ := false
  connected := false
  phase := .idle
  seen := LedgerSet.empty contracts
  queue := []
  frames := []

/-- The bus calls the listener of the handler, if it has subscribed. -/
def emit (st : Stream) (events : List SidecarEvent) : Stream :=
  if st.phase = .tailing then { st with queue := st.queue ++ events } else st

def setIssuers (st : Stream) (next : Issuers) : Stream :=
  { st.emit (diffIssuer st.live.issuers next) with
    live := { st.live with issuers := some next } }

def setRegistry (st : Stream) (next : Registry) : Stream :=
  { st.emit (diffRevocation st.live.registry next) with
    live := { st.live with registry := some next } }

def setPredicate (st : Stream) (slot : Nat) (prev : Option (List Bytes32)) (next : List Bytes32) :
    Stream :=
  { st.emit (diffPredicate prev next) with
    live := { st.live with predicates := st.live.predicates.set slot (some next) } }

def resume (st : Stream) : Stream :=
  match st.phase with
  | .snapshot rest pending =>
    match pull st.live st.joined rest pending st.seen with
    | .frame event rest pending seen =>
      { st with phase := .snapshot rest pending, seen, frames := st.frames ++ [event] }
    | .done seen => { st with phase := .tailing, seen }
    | .thrown seen => { st with phase := .failed, seen }
  | .failed => { st with phase := .tailing }
  | .idle | .tailing => st

def step (H : Hashes) (st : Stream) : StreamStep → Stream
  | .request =>
    if st.phase = .idle then
      -- without a connected client the snapshot is an error frame
      { st with phase := if st.connected then .snapshot st.live.sections [] else .failed }
    else st
  | .resume => st.resume
  | .flush =>
    match st.queue with
    | event :: queue => { st with queue, frames := st.frames ++ [event] }
    | [] => st
  | .joinIssuers owner txs =>
    match st.live.issuers, Issuers.deploy owner with
    | none, .ok start => st.setIssuers (Runs.run (Issuers.step H) start txs)
    | _, _ => st
  | .changeIssuers txs =>
    match st.live.issuers with
    | some ledger => st.setIssuers (Runs.run (Issuers.step H) ledger txs)
    | none => st
  | .joinRegistry owner txs =>
    match st.live.registry, Registry.deploy owner with
    | none, .ok start => st.setRegistry (Runs.run Registry.step start txs)
    | _, _ => st
  | .changeRegistry txs =>
    match st.live.registry with
    | some ledger => st.setRegistry (Runs.run Registry.step ledger txs)
    | none => st
  | .changePredicate slot next =>
    match st.live.predicates[slot]? with
    | some prev =>
      if ∀ key ∈ prev.getD [], key ∈ next then st.setPredicate slot prev next else st
    | none => st
  | .joined contract =>
    if st.connected then st else { st with joined := Function.update st.joined contract true }
  | .connected => { st with connected := true }

end Stream

/-! ## Entries as writes -/

theorem snapshotIssuers_eq (ledger : Issuers) : snapshotIssuers ledger = diffIssuer none ledger := by
  simp [snapshotIssuers, diffIssuer]

theorem snapshotRevocations_eq (ledger : Registry) :
    snapshotRevocations ledger = diffRevocation none ledger := by
  simp [snapshotRevocations, diffRevocation]

theorem snapshotAttestations_eq (attestations : List Bytes32) :
    snapshotAttestations attestations = diffPredicate none attestations := by
  simp [snapshotAttestations, diffPredicate]

section Views

variable {replica : Replica} {view : View} (shows : replica.view = view)

include shows

/-- Events about issuers change what is trusted and nothing else. -/
theorem view_diffIssuer (prev : Option Issuers) (next : Issuers) :
    (handleAll replica (diffIssuer prev next)).view =
      { view with
        trusted := writeAll view.trusted ((diffIssuer prev next).filterMap issuerWrite) } := by
  rw [view_handleAll, shows,
    List.filterMap_eq_nil_iff.mpr fun _ member => (diffIssuer_kind member).1,
    List.filterMap_eq_nil_iff.mpr fun _ member => (diffIssuer_kind member).2]
  rfl

theorem view_diffRevocation (prev : Option Registry) (next : Registry) :
    (handleAll replica (diffRevocation prev next)).view =
      { view with
        status := writeAll view.status
          ((diffRevocation prev next).filterMap revocationWrite) } := by
  rw [view_handleAll, shows,
    List.filterMap_eq_nil_iff.mpr fun _ member => (diffRevocation_kind member).1,
    List.filterMap_eq_nil_iff.mpr fun _ member => (diffRevocation_kind member).2]
  rfl

theorem view_diffPredicate (prev : Option (List Bytes32)) (next : List Bytes32) :
    (handleAll replica (diffPredicate prev next)).view =
      { view with
        attested := writeAll view.attested
          ((diffPredicate prev next).filterMap attestationWrite) } := by
  rw [view_handleAll, shows,
    List.filterMap_eq_nil_iff.mpr fun _ member => (diffPredicate_kind member).1,
    List.filterMap_eq_nil_iff.mpr fun _ member => (diffPredicate_kind member).2]
  rfl

end Views

/-- The keys that are announced are added. -/
theorem attested_after (attested : String → Bool) (prev : Option (List Bytes32))
    (next : List Bytes32) (key : String) :
    writeAll attested ((diffPredicate prev next).filterMap attestationWrite) key = true ↔
      attested key = true ∨ ∃ k ∈ next, k ∉ prev.getD [] ∧ bytesHex k = key := by
  have toward : Toward (fun _ => true) ((diffPredicate prev next).filterMap attestationWrite) := by
    intro w written
    obtain ⟨_, _, _, rfl⟩ := mem_attestationWrites.mp written
    rfl
  by_cases written : key ∈ ((diffPredicate prev next).filterMap attestationWrite).map Prod.fst
  · obtain ⟨w, announced, rfl⟩ := List.mem_map.mp written
    obtain ⟨k, member, fresh, rfl⟩ := mem_attestationWrites.mp announced
    rw [writeAll_of_mem toward written]
    simp only [true_iff]
    exact .inr ⟨k, member, fresh, rfl⟩
  · rw [writeAll_of_notMem written]
    constructor
    · exact .inl
    · rintro (old | ⟨k, member, fresh, rfl⟩)
      · exact old
      · exact absurd (List.mem_map_of_mem (f := Prod.fst)
          (mem_attestationWrites.mpr ⟨k, member, fresh, rfl⟩)) written

theorem attested_iff {ledgers : LedgerSet} {key : String} :
    ledgers.view.attested key = true ↔
      ∃ (slot : Nat) (attestations : List Bytes32),
        ledgers.predicates[slot]? = some (some attestations) ∧
        ∃ k ∈ attestations, bytesHex k = key := by
  simp only [LedgerSet.view, List.any_eq_true, attestedIn, decide_eq_true_eq, List.mem_map]
  constructor
  · rintro ⟨entry, member, k, inside, same⟩
    obtain ⟨slot, found⟩ := List.mem_iff_getElem?.mp member
    cases entry with
    | none => cases inside
    | some attestations => exact ⟨slot, attestations, found, k, inside, same⟩
  · rintro ⟨slot, attestations, found, k, inside, same⟩
    exact ⟨some attestations, List.mem_of_getElem? found, k, inside, same⟩

/-- Replacing the set of one contract by a larger one adds the keys that are new. -/
theorem attested_set {ledgers : LedgerSet} {slot : Nat} {prev : Option (List Bytes32)}
    {next : List Bytes32} (found : ledgers.predicates[slot]? = some prev)
    (grown : ∀ key ∈ prev.getD [], key ∈ next) :
    writeAll ledgers.view.attested ((diffPredicate prev next).filterMap attestationWrite) =
      (LedgerSet.view
        { ledgers with predicates := ledgers.predicates.set slot (some next) }).attested := by
  have inside : slot < ledgers.predicates.length := (List.getElem?_eq_some_iff.mp found).1
  funext key
  rw [Bool.eq_iff_iff, attested_after, attested_iff, attested_iff]
  constructor
  · rintro (⟨other, attestations, listed, k, member, same⟩ | ⟨k, member, _, same⟩)
    · by_cases here : other = slot
      · subst here
        rw [found, Option.some.injEq] at listed
        exact ⟨other, next, by simp [inside], k, grown k (by simp [listed, member]), same⟩
      · exact ⟨other, attestations, by simpa [Ne.symm here] using listed, k, member, same⟩
    · exact ⟨slot, next, by simp [inside], k, member, same⟩
  · rintro ⟨other, attestations, listed, k, member, same⟩
    by_cases here : other = slot
    · subst here
      have isNext : next = attestations := by simpa [inside] using listed
      subst isNext
      by_cases old : k ∈ prev.getD []
      · cases prev with
        | none => cases old
        | some before => exact .inl ⟨other, before, found, k, old, same⟩
      · exact .inr ⟨k, member, old, same⟩
    · exact .inl ⟨other, attestations, by simpa [Ne.symm here] using listed, k, member, same⟩

/-! ## The snapshot -/

section Snapshot

variable {H : Hashes} {live seen : LedgerSet}

/-- Applying the entries of a section that was not seen shows that section. -/
theorem view_see {replica : Replica} {current : Section} {entries : List SidecarEvent}
    (coherent : ∀ ledger, live.issuers = some ledger → ledger.Coherent H)
    (sizes : seen.predicates.length = live.predicates.length)
    (found : live.entries current = some entries) (unread : seen.entries current = none)
    (shows : replica.view = seen.view) :
    (handleAll replica entries).view = (live.see seen current).view := by
  cases current with
  | issuers =>
    obtain ⟨ledger, isLive, rfl⟩ := Option.map_eq_some_iff.mp found
    have before : seen.issuers = none := Option.map_eq_none_iff.mp unread
    have none_coherent : ∀ prev, (none : Option Issuers) = some prev → prev.Coherent H := by
      intro _ isNone
      cases isNone
    have arrives := (issuer_diff_applied_iff none_coherent (coherent ledger isLive)).mpr
      (fun _ isNone => by cases isNone)
    rw [snapshotIssuers_eq, view_diffIssuer shows]
    simp only [LedgerSet.view, LedgerSet.see, isLive, before, arrives]
  | revocations =>
    obtain ⟨ledger, isLive, rfl⟩ := Option.map_eq_some_iff.mp found
    have before : seen.registry = none := Option.map_eq_none_iff.mp unread
    rw [snapshotRevocations_eq, view_diffRevocation shows]
    simp only [LedgerSet.view, LedgerSet.see, isLive, before, revocation_diff_applied]
  | predicate slot =>
    obtain ⟨attestations, isLive, rfl⟩ := Option.map_eq_some_iff.mp found
    have inside : slot < seen.predicates.length := by
      rw [sizes]
      by_contra outside
      rw [List.getElem?_eq_none (by omega)] at isLive
      cases isLive
    have before : seen.predicates[slot]? = some none := by
      have absent : seen.predicates[slot]?.join = none := Option.map_eq_none_iff.mp unread
      rw [List.getElem?_eq_getElem inside] at absent ⊢
      simpa using absent
    have fresh : ∀ key ∈ (none : Option (List Bytes32)).getD [], key ∈ attestations := by simp
    have added := attested_set before fresh
    rw [snapshotAttestations_eq, view_diffPredicate shows, added]
    simp only [LedgerSet.view, LedgerSet.see, isLive]

theorem see_entries {current other : Section} (different : other ≠ current) :
    (live.see seen current).entries other = seen.entries other := by
  cases current with
  | issuers => cases other <;> first | rfl | exact absurd rfl different
  | revocations => cases other <;> first | rfl | exact absurd rfl different
  | predicate slot =>
    cases other with
    | issuers => rfl
    | revocations => rfl
    | predicate other =>
      have apart : slot ≠ other := fun same => different (same ▸ rfl)
      simp [LedgerSet.entries, LedgerSet.see, List.getElem?_set_ne apart]

theorem see_length (current : Section) :
    (live.see seen current).predicates.length = seen.predicates.length := by
  cases current <;> simp [LedgerSet.see]

/-- Where the generator stands: the sections ahead have not been seen, and the frames together
with the pending entries show those that have. -/
structure Ready (live seen : LedgerSet) (replica : Replica) (rest : List Section)
    (pending : List SidecarEvent) : Prop where
  sizes : seen.predicates.length = live.predicates.length
  nodup : rest.Nodup
  unread : ∀ section_ ∈ rest, seen.entries section_ = none
  shows : (handleAll replica pending).view = seen.view

/-- Where it stands after it was asked for the next event. -/
def PulledReady (live : LedgerSet) (replica : Replica) : Pulled → Prop
  | .frame event rest pending seen => Ready live seen (handle replica event) rest pending
  | .done seen | .thrown seen => Ready live seen replica [] []

/-- The generator keeps its place. -/
theorem pull_ready {joined : Section → Bool} {replica : Replica} {rest : List Section}
    {pending : List SidecarEvent}
    (coherent : ∀ ledger, live.issuers = some ledger → ledger.Coherent H)
    (ready : Ready live seen replica rest pending) :
    PulledReady live replica (pull live joined rest pending seen) := by
  induction rest generalizing pending seen with
  | nil =>
    cases pending with
    | nil => exact ready
    | cons event pending => exact ⟨ready.sizes, ready.nodup, ready.unread, ready.shows⟩
  | cons current rest ih =>
    cases pending with
    | cons event pending => exact ⟨ready.sizes, ready.nodup, ready.unread, ready.shows⟩
    | nil =>
      obtain ⟨fresh, nodup⟩ := List.nodup_cons.mp ready.nodup
      have ahead : ∀ other ∈ rest, seen.entries other = none := fun other member =>
        ready.unread other (List.mem_cons_of_mem _ member)
      by_cases isJoined : joined current = true
      · rw [pull, if_pos isJoined]
        cases found : live.entries current with
        | none =>
          exact ⟨ready.sizes, List.nodup_nil, fun _ member => absurd member List.not_mem_nil,
            ready.shows⟩
        | some entries =>
          apply ih
          refine ⟨(see_length current).trans ready.sizes, nodup, ?_, ?_⟩
          · intro other member
            have different : other ≠ current := fun same => fresh (same ▸ member)
            rw [see_entries different]
            exact ahead other member
          · exact view_see coherent ready.sizes found (ready.unread current List.mem_cons_self)
              ready.shows
      · rw [pull, if_neg isJoined]
        exact ih ⟨ready.sizes, nodup, ahead, ready.shows⟩

end Snapshot

/-! ## What holds along a run -/

/-- The consumer that has applied the frames so far. -/
def Stream.consumer (st : Stream) : Replica := handleAll Replica.empty st.frames

/-- The sections ahead and the pending entries, until the handler subscribes. -/
def Phase.place : Phase → Option (List Section × List SidecarEvent)
  | .idle | .failed => some ([], [])
  | .snapshot rest pending => some (rest, pending)
  | .tailing => none

structure Sound (H : Hashes) (st : Stream) : Prop where
  coherent : ∀ ledger, st.live.issuers = some ledger → ledger.Coherent H
  waiting : st.phase ≠ .tailing → st.queue = []
  ready : ∀ rest pending, st.phase.place = some (rest, pending) →
    Ready st.live st.seen st.consumer rest pending
  untouched : st.phase = .idle → ∀ contract, st.seen.entries contract = none

theorem sections_nodup (ledgers : LedgerSet) : ledgers.sections.Nodup := by
  have distinct : ((List.range ledgers.predicates.length).map Section.predicate).Nodup :=
    List.nodup_range.map fun _ _ same => Section.predicate.inj same
  simp [LedgerSet.sections, distinct]

section Run

variable {H : Hashes} {st : Stream}

@[simp] theorem emit_phase (events : List SidecarEvent) : (st.emit events).phase = st.phase := by
  unfold Stream.emit
  split <;> rfl

@[simp] theorem emit_frames (events : List SidecarEvent) : (st.emit events).frames = st.frames := by
  unfold Stream.emit
  split <;> rfl

@[simp] theorem emit_seen (events : List SidecarEvent) : (st.emit events).seen = st.seen := by
  unfold Stream.emit
  split <;> rfl

theorem emit_queue (events : List SidecarEvent) :
    (st.emit events).queue = if st.phase = .tailing then st.queue ++ events else st.queue := by
  unfold Stream.emit
  split <;> rfl

/-- A ledger changes: the bus hears of it, and the handler stays where it is. -/
theorem changed_sound (sound : Sound H st) {live : LedgerSet} {events : List SidecarEvent}
    (coherent : ∀ ledger, live.issuers = some ledger → ledger.Coherent H)
    (sizes : live.predicates.length = st.live.predicates.length) :
    Sound H { st.emit events with live } where
  coherent := coherent
  waiting := by
    intro unsubscribed
    have before : st.phase ≠ .tailing := by simpa using unsubscribed
    show (st.emit events).queue = []
    rw [emit_queue, if_neg before, sound.waiting before]
  ready := by
    intro rest pending place
    have before := sound.ready rest pending (by simpa using place)
    exact ⟨by simpa [sizes] using before.sizes, before.nodup, by simpa using before.unread,
      by simpa [Stream.consumer] using before.shows⟩
  untouched := by
    intro idle contract
    simpa using sound.untouched (by simpa using idle) contract

theorem setIssuers_sound (sound : Sound H st) {next : Issuers} (coherent : next.Coherent H) :
    Sound H (st.setIssuers next) := by
  apply changed_sound sound
  · intro ledger isNext
    obtain rfl := Option.some.inj isNext
    exact coherent
  · rfl

/-- Once the handler has subscribed, only the ledgers matter. -/
theorem tailing_sound (coherent : ∀ ledger, st.live.issuers = some ledger → ledger.Coherent H)
    (tailing : st.phase = .tailing) : Sound H st where
  coherent := coherent
  waiting unsubscribed := absurd tailing unsubscribed
  ready := by
    intro rest pending place
    rw [tailing] at place
    cases place
  untouched := by
    intro idle
    rw [tailing] at idle
    cases idle

theorem resume_sound (sound : Sound H st) : Sound H st.resume := by
  unfold Stream.resume
  cases phase : st.phase with
  | idle => exact sound
  | tailing => exact sound
  | failed =>
    exact tailing_sound sound.coherent rfl
  | snapshot rest pending =>
    have unsubscribed : st.phase ≠ .tailing := by
      rw [phase]
      exact Phase.noConfusion
    have pulled : PulledReady st.live st.consumer
        (pull st.live st.joined rest pending st.seen) :=
      pull_ready sound.coherent (sound.ready rest pending (by rw [phase]; rfl))
    dsimp only
    cases outcome : pull st.live st.joined rest pending st.seen with
    | frame event rest' pending' seen' =>
      rw [outcome] at pulled
      refine ⟨sound.coherent, fun _ => sound.waiting unsubscribed, ?_, fun idle => by cases idle⟩
      intro rest'' pending'' place
      obtain ⟨rfl, rfl⟩ := Prod.mk.inj (Option.some.inj place)
      have applied : Stream.consumer
          { st with phase := .snapshot rest' pending', seen := seen', frames := st.frames ++ [event] } =
            handle st.consumer event := by
        simp [Stream.consumer, handleAll]
      rw [applied]
      exact pulled
    | done seen' =>
      exact tailing_sound sound.coherent rfl
    | thrown seen' =>
      rw [outcome] at pulled
      refine ⟨sound.coherent, fun _ => sound.waiting unsubscribed, ?_, fun idle => by cases idle⟩
      intro rest'' pending'' place
      obtain ⟨rfl, rfl⟩ := Prod.mk.inj (Option.some.inj place)
      exact pulled

theorem request_sound (sound : Sound H st) : Sound H (st.step H .request) := by
  simp only [Stream.step]
  split
  · rename_i idle
    have before := sound.ready [] [] (by rw [idle]; rfl)
    have waiting := sound.waiting (by rw [idle]; exact Phase.noConfusion)
    refine ⟨sound.coherent, fun _ => waiting, ?_, ?_⟩
    · intro rest pending place
      by_cases connected : st.connected = true
      · simp only [connected, if_true, Phase.place, Option.some.injEq, Prod.mk.injEq] at place
        obtain ⟨rfl, rfl⟩ := place
        exact ⟨before.sizes, sections_nodup st.live,
          fun contract _ => sound.untouched idle contract, before.shows⟩
      · simp only [connected, Bool.false_eq_true, if_false, Phase.place, Option.some.injEq,
          Prod.mk.injEq] at place
        obtain ⟨rfl, rfl⟩ := place
        exact before
    · intro isIdle
      split at isIdle <;> cases isIdle
  · exact sound

theorem step_sound (sound : Sound H st) (s : StreamStep) : Sound H (st.step H s) := by
  cases s with
  | request => exact request_sound sound
  | resume => exact resume_sound sound
  | flush =>
    simp only [Stream.step]
    split
    · rename_i event queue queued
      -- only a subscribed handler has events in its queue
      have tailing : st.phase = .tailing := by
        by_contra unsubscribed
        rw [sound.waiting unsubscribed] at queued
        cases queued
      exact tailing_sound sound.coherent tailing
    · exact sound
  | joinIssuers owner txs =>
    simp only [Stream.step]
    split
    · rename_i start _ deployed
      exact setIssuers_sound sound (Issuers.run_coherent (Issuers.deploy_coherent deployed) txs)
    · exact sound
  | changeIssuers txs =>
    simp only [Stream.step]
    split
    · rename_i ledger isLive
      exact setIssuers_sound sound (Issuers.run_coherent (sound.coherent ledger isLive) txs)
    · exact sound
  | joinRegistry owner txs =>
    simp only [Stream.step]
    split
    · exact changed_sound sound sound.coherent rfl
    · exact sound
  | changeRegistry txs =>
    simp only [Stream.step]
    split
    · exact changed_sound sound sound.coherent rfl
    · exact sound
  | changePredicate slot next =>
    simp only [Stream.step]
    split
    · split
      · exact changed_sound sound sound.coherent (by simp)
      · exact sound
    · exact sound
  | joined contract =>
    simp only [Stream.step]
    split
    · exact sound
    · exact ⟨sound.coherent, sound.waiting, sound.ready, sound.untouched⟩
  | connected => exact ⟨sound.coherent, sound.waiting, sound.ready, sound.untouched⟩

theorem Replica.empty_view :
    Replica.empty.view = ⟨fun _ => false, fun _ => .active, fun _ => false⟩ := by
  simp only [Replica.view, Replica.empty, View.mk.injEq]
  exact ⟨rfl, rfl, by simp⟩

theorem LedgerSet.empty_view (contracts : Nat) :
    (LedgerSet.empty contracts).view = ⟨fun _ => false, fun _ => .active, fun _ => false⟩ := by
  simp only [LedgerSet.view, LedgerSet.empty, View.mk.injEq]
  exact ⟨rfl, rfl, by simp [attestedIn]⟩

theorem start_sound (contracts : Nat) : Sound H (Stream.start contracts) where
  coherent := by
    intro ledger isLive
    cases isLive
  waiting _ := rfl
  ready := by
    intro rest pending place
    obtain ⟨rfl, rfl⟩ := Prod.mk.inj (Option.some.inj place)
    refine ⟨rfl, List.nodup_nil, fun _ member => absurd member List.not_mem_nil, ?_⟩
    show Replica.empty.view = (LedgerSet.empty contracts).view
    rw [Replica.empty_view, LedgerSet.empty_view]
  untouched := by
    intro _ contract
    cases contract with
    | issuers => rfl
    | revocations => rfl
    | predicate slot =>
      simp only [Stream.start, LedgerSet.empty, LedgerSet.entries, List.getElem?_replicate]
      split <;> rfl

/-! ## Subscribing and tailing -/

theorem handleAll_append (replica : Replica) (first second : List SidecarEvent) :
    handleAll replica (first ++ second) = handleAll (handleAll replica first) second := by
  simp [handleAll]

/-- Only the handler itself subscribes. -/
theorem resumes_of_subscribed {s : StreamStep} (unsubscribed : st.phase ≠ .tailing)
    (subscribed : (st.step H s).phase = .tailing) : s = .resume := by
  by_contra other
  apply unsubscribed
  cases s with
  | resume => exact absurd rfl other
  | request =>
    simp only [Stream.step] at subscribed
    split at subscribed
    · dsimp only at subscribed
      split at subscribed <;> cases subscribed
    · exact subscribed
  | flush =>
    simp only [Stream.step] at subscribed
    split at subscribed <;> exact subscribed
  | joinIssuers owner txs =>
    simp only [Stream.step] at subscribed
    split at subscribed <;> simpa [Stream.setIssuers] using subscribed
  | changeIssuers txs =>
    simp only [Stream.step] at subscribed
    split at subscribed <;> simpa [Stream.setIssuers] using subscribed
  | joinRegistry owner txs =>
    simp only [Stream.step] at subscribed
    split at subscribed <;> simpa [Stream.setRegistry] using subscribed
  | changeRegistry txs =>
    simp only [Stream.step] at subscribed
    split at subscribed <;> simpa [Stream.setRegistry] using subscribed
  | changePredicate slot next =>
    simp only [Stream.step] at subscribed
    split at subscribed
    · split at subscribed <;> simpa [Stream.setPredicate] using subscribed
    · exact subscribed
  | joined contract =>
    simp only [Stream.step] at subscribed
    split at subscribed <;> exact subscribed
  | connected => exact subscribed

/-- Subscribing leaves the consumer with what the sections have read. -/
theorem subscribed_shows_seen (sound : Sound H st) (unsubscribed : st.phase ≠ .tailing)
    (subscribed : st.resume.phase = .tailing) :
    st.resume.queue = [] ∧ st.resume.consumer.view = st.resume.seen.view := by
  have waiting := sound.waiting unsubscribed
  unfold Stream.resume at subscribed ⊢
  cases phase : st.phase with
  | idle => simp [phase] at subscribed
  | tailing => exact absurd phase unsubscribed
  | failed => exact ⟨waiting, (sound.ready [] [] (by rw [phase]; rfl)).shows⟩
  | snapshot rest pending =>
    have pulled : PulledReady st.live st.consumer (pull st.live st.joined rest pending st.seen) :=
      pull_ready sound.coherent (sound.ready rest pending (by rw [phase]; rfl))
    dsimp only
    cases outcome : pull st.live st.joined rest pending st.seen with
    | frame event rest' pending' seen' => simp [phase, outcome] at subscribed
    | thrown seen' => simp [phase, outcome] at subscribed
    | done seen' =>
      rw [outcome] at pulled
      exact ⟨waiting, pulled.shows⟩

/-- The frames and the queue together show the ledgers. -/
def Caught (st : Stream) : Prop :=
  (handleAll Replica.empty (st.frames ++ st.queue)).view = st.live.view

/-- A change whose events turn the mirror of the old ledgers into that of the new. -/
theorem changed_caught (tailing : st.phase = .tailing) (caught : Caught st) {live : LedgerSet}
    {events : List SidecarEvent}
    (arrives : ∀ replica : Replica, replica.view = st.live.view →
      (handleAll replica events).view = live.view) :
    Caught { st.emit events with live } := by
  show (handleAll Replica.empty ((st.emit events).frames ++ (st.emit events).queue)).view = live.view
  rw [emit_frames, emit_queue, if_pos tailing, ← List.append_assoc, handleAll_append]
  exact arrives _ caught

theorem setIssuers_caught (tailing : st.phase = .tailing) (caught : Caught st) {next : Issuers}
    (sound : Sound H st) (coherent : next.Coherent H) (keeps : KeepsIssuers st.live.issuers next) :
    Caught (st.setIssuers next) := by
  apply changed_caught tailing caught
  intro replica shows
  rw [view_diffIssuer shows]
  simp only [LedgerSet.view, (issuer_diff_applied_iff sound.coherent coherent).mpr keeps]

theorem setRegistry_caught (tailing : st.phase = .tailing) (caught : Caught st)
    (next : Registry) : Caught (st.setRegistry next) := by
  apply changed_caught tailing caught
  intro replica shows
  rw [view_diffRevocation shows]
  simp only [LedgerSet.view, revocation_diff_applied]

theorem setPredicate_caught (tailing : st.phase = .tailing) (caught : Caught st) {slot : Nat}
    {prev : Option (List Bytes32)} {next : List Bytes32}
    (found : st.live.predicates[slot]? = some prev) (grown : ∀ key ∈ prev.getD [], key ∈ next) :
    Caught (st.setPredicate slot prev next) := by
  apply changed_caught tailing caught
  intro replica shows
  rw [view_diffPredicate shows, attested_set found grown]
  rfl

/-- A subscribed handler stays so, and loses nothing. -/
theorem step_caught (sound : Sound H st) (tailing : st.phase = .tailing) (caught : Caught st)
    (s : StreamStep) : Caught (st.step H s) := by
  cases s with
  | request =>
    have busy : st.phase ≠ .idle := by
      rw [tailing]
      exact Phase.noConfusion
    rw [Stream.step, if_neg busy]
    exact caught
  | resume =>
    rw [Stream.step, Stream.resume, tailing]
    exact caught
  | flush =>
    simp only [Stream.step]
    split
    · rename_i event queue queued
      show (handleAll Replica.empty ((st.frames ++ [event]) ++ queue)).view = st.live.view
      rw [List.append_assoc, List.singleton_append, ← queued]
      exact caught
    · exact caught
  | joinIssuers owner txs =>
    simp only [Stream.step]
    split
    · rename_i start isNone deployed
      apply setIssuers_caught tailing caught sound
        (Issuers.run_coherent (Issuers.deploy_coherent deployed) txs)
      intro ledger isLive
      rw [isNone] at isLive
      cases isLive
    · exact caught
  | changeIssuers txs =>
    simp only [Stream.step]
    split
    · rename_i ledger isLive
      have coherent := sound.coherent ledger isLive
      apply setIssuers_caught tailing caught sound (Issuers.run_coherent coherent txs)
      rw [isLive]
      exact keepsIssuers_of_run coherent txs
    · exact caught
  | joinRegistry owner txs =>
    simp only [Stream.step]
    split
    · exact setRegistry_caught tailing caught _
    · exact caught
  | changeRegistry txs =>
    simp only [Stream.step]
    split
    · exact setRegistry_caught tailing caught _
    · exact caught
  | changePredicate slot next =>
    simp only [Stream.step]
    split
    · rename_i prev found
      split
      · rename_i grown
        exact setPredicate_caught tailing caught found grown
      · exact caught
    · exact caught
  | joined contract =>
    simp only [Stream.step]
    split
    · exact caught
    · exact caught
  | connected => exact caught

end Run

/-! ## Every run -/

def streamRun (H : Hashes) (contracts : Nat) (steps : List StreamStep) : Stream :=
  Runs.run (Stream.step H) (Stream.start contracts) steps

/-- The handler tails the bus and has written every event it was given. -/
def Settled (st : Stream) : Prop := st.phase = .tailing ∧ st.queue = []

/-- The consumer holds what the ledgers say, and its cache the ids that are revoked or
suspended. -/
structure ShowsLedgers (st : Stream) : Prop where
  view : st.consumer.view = st.live.view
  cached : ∀ id, st.consumer.revocations.cache.isRevoked id = (st.live.view.status id).isBlocking

theorem streamRun_sound (H : Hashes) (contracts : Nat) (steps : List StreamStep) :
    Sound H (streamRun H contracts steps) :=
  Runs.run_invariant (Sound H) (start_sound contracts) (fun _ s sound => step_sound sound s) steps

theorem showsLedgers_iff (st : Stream) : ShowsLedgers st ↔ st.consumer.view = st.live.view := by
  constructor
  · exact ShowsLedgers.view
  · intro shows
    refine ⟨shows, ?_⟩
    intro id
    have coherent : st.consumer.revocations.Coherent :=
      handleAll_coherent (RevocationRepository.initializeCache_coherent _) st.frames
    rw [coherent, RevocationTable.blocks_eq, ← shows]
    rfl

/-- What subscribing must find: the ledgers say what the sections of the snapshot read. -/
def SubscribesInTime (H : Hashes) (contracts : Nat) (past : List StreamStep) (next : StreamStep) :
    Prop :=
  (streamRun H contracts past).phase ≠ .tailing →
  (streamRun H contracts (past ++ [next])).phase = .tailing →
  (streamRun H contracts (past ++ [next])).seen.view =
    (streamRun H contracts (past ++ [next])).live.view

/-- Along every run, a consumer that has applied every frame holds what the ledgers say whenever
the handler is tailing with nothing left to write, if and only if when the handler subscribes the
ledgers say what the sections of its snapshot read. -/
theorem stream_shows_ledgers_iff (H : Hashes) (contracts : Nat) (steps : List StreamStep) :
    (∀ past, past <+: steps → Settled (streamRun H contracts past) →
        ShowsLedgers (streamRun H contracts past)) ↔
      ∀ past next, past ++ [next] <+: steps → SubscribesInTime H contracts past next := by
  have stepped : ∀ past next, streamRun H contracts (past ++ [next]) =
      (streamRun H contracts past).step H next := fun past next => Runs.run_concat _ _ past next
  constructor
  · intro shown past next reached unsubscribed subscribed
    have settled := shown (past ++ [next]) reached
    have resumes : next = .resume :=
      resumes_of_subscribed unsubscribed (stepped past next ▸ subscribed)
    subst resumes
    rw [stepped] at settled subscribed ⊢
    obtain ⟨written, seen⟩ :=
      subscribed_shows_seen (streamRun_sound H contracts past) unsubscribed subscribed
    have shows := (showsLedgers_iff _).mp (settled ⟨subscribed, written⟩)
    exact seen.symm.trans shows
  · intro inTime
    -- from the subscription on, nothing is lost
    have caught : ∀ past, past <+: steps → (streamRun H contracts past).phase = .tailing →
        Caught (streamRun H contracts past) := by
      refine Runs.reached_induction (fun tailing => ?_) fun past next reached ih tailing => ?_
      · cases tailing
      · have sound := streamRun_sound H contracts past
        by_cases before : (streamRun H contracts past).phase = .tailing
        · rw [stepped]
          exact step_caught sound before (ih before) next
        · have same := inTime past next reached before tailing
          have resumes : next = .resume :=
            resumes_of_subscribed before (stepped past next ▸ tailing)
          subst resumes
          rw [stepped] at same tailing ⊢
          obtain ⟨written, seen⟩ := subscribed_shows_seen sound before tailing
          show (handleAll Replica.empty (_ ++ _)).view = _
          rw [Stream.step, written, List.append_nil]
          exact seen.trans same
    intro past reached ⟨tailing, written⟩
    have shows := caught past reached tailing
    rw [Caught, written, List.append_nil] at shows
    exact (showsLedgers_iff _).mpr shows

/-! ## A revocation that nobody hears of -/

/-- The snapshot has written the suspended credential when its revocation is announced; then the
handler goes on, finds nothing more and subscribes. -/
def sampleStream : List StreamStep :=
  let owner := padBytes [1]
  [.joinRegistry (.inl owner)
      [⟨owner, .suspend (padBytes [7]) (padBytes [9]) "lost device"⟩],
    .joined .revocations, .connected, .request, .resume,
    .changeRegistry [⟨owner, .revoke (padBytes [7]) (padBytes [9]) "fraud"⟩], .resume]

theorem announced_before_subscribing :
    Settled (streamRun sampleHashes 0 sampleStream) ∧
      (streamRun sampleHashes 0 sampleStream).live.view.status (bytesHex (padBytes [7])) =
        .revoked ∧
      (streamRun sampleHashes 0 sampleStream).consumer.view.status (bytesHex (padBytes [7])) =
        .suspended ∧
      ¬ ShowsLedgers (streamRun sampleHashes 0 sampleStream) := by
  have settled : (streamRun sampleHashes 0 sampleStream).phase = .tailing ∧
      (streamRun sampleHashes 0 sampleStream).queue = [] := by decide
  have live : (streamRun sampleHashes 0 sampleStream).live.view.status
      (bytesHex (padBytes [7])) = .revoked := by decide
  have mirrored : (streamRun sampleHashes 0 sampleStream).consumer.view.status
      (bytesHex (padBytes [7])) = .suspended := by decide
  refine ⟨settled, live, mirrored, ?_⟩
  intro shows
  rw [shows.view, live] at mirrored
  cases mirrored

end OwlId.Sidecar
