import Mathlib
import OwlId.Sidecar.DiffApply

/-! # Two sources for one ledger

The sidecar learns the state of the revocation registry from a subscription and,
every 30 seconds, from a query.  Both hand what they got to the same function, which
announces the difference to the ledger stored last and then stores it.  Nothing
compares how old the two states are.

REVOKED is final on chain, so an announcement can only take it back when a state
arrives that is older than the stored one.  `revocations_stay_announced_iff` is the
exact condition on the states that arrive; `keepsRevoked_of_run` says that a state
reached from the stored one always meets it.
-/

namespace OwlId.Sidecar

open OwlId.Lib OwlId.Contracts

/-! ## The watcher -/

structure Watch where
  /-- The states of the contract so far, oldest first. -/
  chain : List Registry
  /-- Whether the initial query has been answered. -/
  joined : Bool
  /-- `currentLedger`. -/
  current : Option Registry
  /-- For each open query, the newest state when it was sent. -/
  polls : List Nat
  /-- The newest state the subscription has delivered. -/
  pushed : Nat
  emitted : List SidecarEvent

inductive WatchStep where
  | transact (tx : Registry.RegistryTransaction)
  | pollSend
  /-- An open query is answered with a state. -/
  | pollAnswer (slot index : Nat)
  /-- An open query fails, or finds no state. -/
  | pollFail (slot : Nat)
  /-- The subscription delivers a state. -/
  | push (index : Nat)

def WatchStep.handsOver : WatchStep → Bool
  | .pollAnswer _ _ | .push _ => true
  | _ => false

namespace Watch

/-- The initial query is open; the poller and the subscription start once it is answered. -/
def start (registry : Registry) : Watch := ⟨[registry], false, none, [0], 0, []⟩

/-- The state a step hands over: an answer is no older than its query, and the subscription
delivers in order. -/
def delivered (w : Watch) : WatchStep → Option Registry
  | .pollAnswer slot index =>
    (w.polls[slot]?).bind fun sent => if sent ≤ index then w.chain[index]? else none
  | .push index => if w.joined = true ∧ w.pushed ≤ index then w.chain[index]? else none
  | _ => none

/-- `onChange(currentLedger, next)`, then `currentLedger = next`. -/
def onChange (w : Watch) (next : Registry) : Watch :=
  { w with current := some next, emitted := w.emitted ++ diffRevocation w.current next }

/-- What a step changes besides handing over a state. -/
def advance (w : Watch) : WatchStep → Watch
  | .transact tx =>
    match w.chain.getLast? with
    | some registry => { w with chain := w.chain ++ [registry.step tx] }
    | none => w
  | .pollSend => if w.joined then { w with polls := w.polls ++ [w.chain.length - 1] } else w
  | .pollAnswer slot _ => { w with polls := w.polls.eraseIdx slot, joined := true }
  | .pollFail slot => { w with polls := w.polls.eraseIdx slot, joined := true }
  | .push index => { w with pushed := index }

/-- An answer or a delivery that cannot happen is not a step. -/
def step (w : Watch) (s : WatchStep) : Watch :=
  match w.delivered s with
  | some next => (w.onChange next).advance s
  | none => if s.handsOver then w else w.advance s

theorem advance_current (w : Watch) (s : WatchStep) :
    (w.advance s).current = w.current ∧ (w.advance s).emitted = w.emitted := by
  cases s with
  | transact tx =>
    simp only [advance]
    split <;> exact ⟨rfl, rfl⟩
  | pollSend =>
    simp only [advance]
    split <;> exact ⟨rfl, rfl⟩
  | pollAnswer slot index => exact ⟨rfl, rfl⟩
  | pollFail slot => exact ⟨rfl, rfl⟩
  | push index => exact ⟨rfl, rfl⟩

/-- What a step does to the stored ledger and the announcements. -/
theorem step_cases (w : Watch) (s : WatchStep) :
    (w.delivered s = none ∧ (w.step s).current = w.current ∧ (w.step s).emitted = w.emitted) ∨
    ∃ next, w.delivered s = some next ∧ (w.step s).current = some next ∧
      (w.step s).emitted = w.emitted ++ diffRevocation w.current next := by
  cases handed : w.delivered s with
  | some next =>
    obtain ⟨current, emitted⟩ := (w.onChange next).advance_current s
    have stepped : w.step s = (w.onChange next).advance s := by simp only [step, handed]
    exact .inr ⟨next, rfl, by rw [stepped, current]; rfl, by rw [stepped, emitted]; rfl⟩
  | none =>
    refine .inl ⟨rfl, ?_⟩
    simp only [step, handed]
    split
    · exact ⟨rfl, rfl⟩
    · exact w.advance_current s

end Watch

/-! ## Announcements about one credential -/

/-- The event announces the status of the credential. -/
def Announces (event : SidecarEvent) (rootHash status : String) : Prop :=
  ∃ issuerKeyHash reason, event = .revocation rootHash status issuerKeyHash reason

/-- What a diff announces about a credential is its status in the new ledger. -/
theorem announced_of_mem {prev : Option Registry} {next : Registry} {event : SidecarEvent}
    {rootHash : Bytes32} {status : String} (member : event ∈ diffRevocation prev next)
    (announces : Announces event (bytesHex rootHash) status) :
    status = credStatusName ((next.credentialStatuses.get? rootHash).getD .active) := by
  obtain ⟨issuerKeyHash, reason, rfl⟩ := announces
  cases mem_diffRevocation.mp member with
  | inl changed =>
    obtain ⟨other, current, found, _, same⟩ := changed
    simp only [revocationEvent, SidecarEvent.revocation.injEq, bytesHex_inj] at same
    obtain ⟨rfl, rfl, _, _⟩ := same
    rw [found, Option.getD_some]
  | inr removed =>
    obtain ⟨other, _, _, _, _, absent, same⟩ := removed
    simp only [removedEvent, SidecarEvent.revocation.injEq, bytesHex_inj] at same
    obtain ⟨rfl, rfl, _, _⟩ := same
    rw [absent, Option.getD_none]
    rfl

theorem exists_announced {prev : Option Registry} {next : Registry} {event : SidecarEvent}
    {id status : String} (member : event ∈ diffRevocation prev next)
    (announces : Announces event id status) : ∃ rootHash, id = bytesHex rootHash := by
  obtain ⟨issuerKeyHash, reason, rfl⟩ := announces
  cases mem_diffRevocation.mp member with
  | inl changed =>
    obtain ⟨other, _, _, _, same⟩ := changed
    exact ⟨other, by simpa [revocationEvent] using (SidecarEvent.revocation.inj same).1⟩
  | inr removed =>
    obtain ⟨other, _, _, _, _, _, same⟩ := removed
    exact ⟨other, by simpa [removedEvent] using (SidecarEvent.revocation.inj same).1⟩

/-- A status that changed is announced. -/
theorem announced_of_changed {prev : Option Registry} {next : Registry} {rootHash : Bytes32}
    {old : CredentialStatus}
    (before : (prev.bind fun ledger => ledger.credentialStatuses.get? rootHash) = some old)
    (changed : next.credentialStatuses.get? rootHash ≠ some old) :
    ∃ event ∈ diffRevocation prev next, Announces event (bytesHex rootHash)
      (credStatusName ((next.credentialStatuses.get? rootHash).getD .active)) := by
  cases after : next.credentialStatuses.get? rootHash with
  | some status =>
    have differs : (prev.bind fun ledger => ledger.credentialStatuses.get? rootHash) ≠
        some status := by
      rw [before, ← after]
      exact changed.symm
    exact ⟨_, mem_diffRevocation.mpr (.inl ⟨rootHash, status, after, differs, rfl⟩), _, _, rfl⟩
  | none =>
    obtain ⟨ledger, isPrev, found⟩ := Option.bind_eq_some_iff.mp before
    exact ⟨_, mem_diffRevocation.mpr (.inr ⟨rootHash, ledger, old, isPrev, found, after, rfl⟩),
      _, _, rfl⟩

theorem credStatusName_inj {a b : CredentialStatus} : credStatusName a = credStatusName b ↔ a = b := by
  cases a <;> cases b <;> decide

/-! ## Runs -/

/-- No announcement that a credential is REVOKED is followed by one that it is not. -/
def RevocationsStay (events : List SidecarEvent) : Prop :=
  events.Pairwise fun earlier later => ∀ rootHash, Announces earlier rootHash "REVOKED" →
    ¬ Announces later rootHash "ACTIVE" ∧ ¬ Announces later rootHash "SUSPENDED"

/-- A state that is handed over keeps every credential revoked that the stored ledger has so. -/
def KeepsRevoked (w : Watch) (s : WatchStep) : Prop :=
  ∀ next ledger, w.delivered s = some next → w.current = some ledger → ∀ rootHash,
    ledger.credentialStatuses.get? rootHash = some .revoked →
    next.credentialStatuses.get? rootHash = some .revoked

/-- A state reached from the stored one undoes nothing. -/
theorem keepsRevoked_of_run {w : Watch} {s : WatchStep} {ledger : Registry}
    {txs : List Registry.RegistryTransaction} (stored : w.current = some ledger)
    (newer : w.delivered s = some (Runs.run Registry.step ledger txs)) : KeepsRevoked w s := by
  intro next ledger' handed stored' rootHash revoked
  obtain rfl := Option.some.inj (newer.symm.trans handed)
  obtain rfl := Option.some.inj (stored.symm.trans stored')
  exact (Registry.run_revokedAs ⟨revoked, rfl, rfl⟩ txs).status

/-- What the stored ledger has as revoked has been announced so. -/
def RevokedAnnounced (w : Watch) : Prop :=
  ∀ ledger, w.current = some ledger → ∀ rootHash,
    ledger.credentialStatuses.get? rootHash = some .revoked →
    ∃ event ∈ w.emitted, Announces event (bytesHex rootHash) "REVOKED"

/-- What has been announced as revoked is so in the stored ledger. -/
def AnnouncedRevoked (w : Watch) : Prop :=
  ∀ event ∈ w.emitted, ∀ rootHash, Announces event (bytesHex rootHash) "REVOKED" →
    ∃ ledger, w.current = some ledger ∧
      ledger.credentialStatuses.get? rootHash = some .revoked

theorem step_revokedAnnounced {w : Watch} (announced : RevokedAnnounced w) (s : WatchStep) :
    RevokedAnnounced (w.step s) := by
  intro ledger stored rootHash revoked
  rcases w.step_cases s with ⟨_, current, emitted⟩ | ⟨next, _, current, emitted⟩
  · rw [emitted]
    exact announced ledger (current ▸ stored) rootHash revoked
  · rw [current] at stored
    obtain rfl := Option.some.inj stored
    rw [emitted]
    by_cases before :
        (w.current.bind fun ledger => ledger.credentialStatuses.get? rootHash) = some .revoked
    · obtain ⟨old, isOld, found⟩ := Option.bind_eq_some_iff.mp before
      obtain ⟨event, member, announces⟩ := announced old isOld rootHash found
      exact ⟨event, List.mem_append_left _ member, announces⟩
    · exact ⟨_, List.mem_append_right _
        (mem_diffRevocation.mpr (.inl ⟨rootHash, .revoked, revoked, before, rfl⟩)), _, _, rfl⟩

/-- One step that keeps what is revoked keeps the announcements in order. -/
theorem step_revocationsStay {w : Watch} {s : WatchStep} (keeps : KeepsRevoked w s)
    (stay : RevocationsStay w.emitted) (announced : AnnouncedRevoked w) :
    RevocationsStay (w.step s).emitted ∧ AnnouncedRevoked (w.step s) := by
  rcases w.step_cases s with ⟨_, current, emitted⟩ | ⟨next, handed, current, emitted⟩
  · rw [RevocationsStay, AnnouncedRevoked, current, emitted]
    exact ⟨stay, announced⟩
  · -- every announcement of REVOKED, old or new, is backed by the new ledger
    have backed : ∀ event ∈ w.emitted ++ diffRevocation w.current next, ∀ rootHash,
        Announces event (bytesHex rootHash) "REVOKED" →
        next.credentialStatuses.get? rootHash = some .revoked := by
      intro event member rootHash announces
      cases List.mem_append.mp member with
      | inl old =>
        obtain ⟨ledger, stored, revoked⟩ := announced event old rootHash announces
        exact keeps next ledger handed stored rootHash revoked
      | inr new =>
        have status := announced_of_mem new announces
        have same : CredentialStatus.revoked =
            (next.credentialStatuses.get? rootHash).getD .active := credStatusName_inj.mp status
        cases found : next.credentialStatuses.get? rootHash with
        | none => simp [found] at same
        | some current => simp [found] at same; rw [same]
    have later : ∀ event ∈ diffRevocation w.current next, ∀ rootHash,
        next.credentialStatuses.get? rootHash = some .revoked →
        ¬ Announces event (bytesHex rootHash) "ACTIVE" ∧
          ¬ Announces event (bytesHex rootHash) "SUSPENDED" := by
      intro event member rootHash revoked
      constructor <;>
      · intro announces
        have status := announced_of_mem member announces
        rw [revoked] at status
        exact absurd status (by decide)
    have ordered : ∀ earlier ∈ w.emitted ++ diffRevocation w.current next,
        ∀ event ∈ diffRevocation w.current next, ∀ id, Announces earlier id "REVOKED" →
        ¬ Announces event id "ACTIVE" ∧ ¬ Announces event id "SUSPENDED" := by
      intro earlier before event member id revoked
      by_cases hex : ∃ rootHash, id = bytesHex rootHash
      · obtain ⟨rootHash, rfl⟩ := hex
        exact later event member rootHash (backed earlier before rootHash revoked)
      · exact ⟨fun announces => hex (exists_announced member announces),
          fun announces => hex (exists_announced member announces)⟩
    constructor
    · rw [emitted, RevocationsStay, List.pairwise_append]
      refine ⟨stay, ?_, ?_⟩
      · exact List.pairwise_of_forall_mem_list fun earlier before event member =>
          ordered earlier (List.mem_append_right _ before) event member
      · intro earlier before event member
        exact ordered earlier (List.mem_append_left _ before) event member
    · intro event member rootHash announces
      rw [emitted] at member
      exact ⟨next, current, backed event member rootHash announces⟩

/-- A step that does not keep what is revoked takes an announcement back. -/
theorem keepsRevoked_of_stay {w : Watch} {s : WatchStep} (announced : RevokedAnnounced w)
    (stay : RevocationsStay (w.step s).emitted) : KeepsRevoked w s := by
  intro next ledger handed stored rootHash revoked
  rcases w.step_cases s with ⟨none, _, _⟩ | ⟨next', handed', _, emitted⟩
  · rw [handed] at none
    cases none
  · obtain rfl := Option.some.inj (handed'.symm.trans handed)
    obtain ⟨earlier, before, wasRevoked⟩ := announced ledger stored rootHash revoked
    by_contra undone
    have old : (w.current.bind fun ledger => ledger.credentialStatuses.get? rootHash) =
        some .revoked := by rw [stored, Option.bind_some, revoked]
    obtain ⟨event, member, announces⟩ := announced_of_changed old undone
    rw [emitted, RevocationsStay, List.pairwise_append] at stay
    obtain ⟨notActive, notSuspended⟩ := stay.2.2 earlier before event member _ wasRevoked
    cases found : next'.credentialStatuses.get? rootHash with
    | none =>
      rw [found] at announces
      exact notActive announces
    | some status =>
      rw [found] at announces undone
      cases status with
      | active => exact notActive announces
      | suspended => exact notSuspended announces
      | revoked => exact undone rfl

theorem emitted_grows (w : Watch) (steps : List WatchStep) :
    w.emitted <+: (Runs.run Watch.step w steps).emitted := by
  apply Runs.run_invariant fun w' : Watch => w.emitted <+: w'.emitted
  · exact List.prefix_refl _
  · intro w' s reached
    rcases w'.step_cases s with ⟨_, _, emitted⟩ | ⟨_, _, _, emitted⟩
    · rwa [emitted]
    · rw [emitted]
      exact reached.trans (List.prefix_append _ _)

theorem run_revokedAnnounced (registry : Registry) (steps : List WatchStep) :
    RevokedAnnounced (Runs.run Watch.step (Watch.start registry) steps) :=
  Runs.run_invariant RevokedAnnounced (fun _ stored => by cases stored)
    (fun _ s announced => step_revokedAnnounced announced s) steps

/-- In every run of the contract, the poller and the subscription, no announcement of REVOKED is
taken back, if and only if every state handed over keeps what the stored ledger has as revoked. -/
theorem revocations_stay_announced_iff (registry : Registry) (steps : List WatchStep) :
    RevocationsStay (Runs.run Watch.step (Watch.start registry) steps).emitted ↔
      ∀ past next, past ++ [next] <+: steps →
        KeepsRevoked (Runs.run Watch.step (Watch.start registry) past) next := by
  constructor
  · intro stay past next reached
    obtain ⟨rest, rfl⟩ := reached
    apply keepsRevoked_of_stay (run_revokedAnnounced registry past)
    rw [Runs.run_append, Runs.run_concat] at stay
    exact stay.sublist (emitted_grows _ rest).sublist
  · intro keeps
    have both : RevocationsStay (Runs.run Watch.step (Watch.start registry) steps).emitted ∧
        AnnouncedRevoked (Runs.run Watch.step (Watch.start registry) steps) := by
      induction steps using List.reverseRecOn with
      | nil => exact ⟨List.Pairwise.nil, fun _ member => by cases member⟩
      | append_singleton past next ih =>
        obtain ⟨stay, announced⟩ := ih fun past' next' reached =>
          keeps past' next' (reached.trans (List.prefix_append _ _))
        rw [Runs.run_concat]
        exact step_revocationsStay (keeps past next (List.prefix_refl _)) stay announced
    exact both.1

/-! ## A late answer -/

/-- A query is sent while the credential is suspended, the subscription delivers its revocation,
and then the query is answered with the state it was sent in. -/
def sampleWatch : List WatchStep :=
  let owner := padBytes [1]
  [.transact ⟨owner, .suspend (padBytes [7]) (padBytes [9]) "lost device"⟩, .pollAnswer 0 1,
    .pollSend, .transact ⟨owner, .revoke (padBytes [7]) (padBytes [9]) "fraud"⟩, .push 2,
    .pollAnswer 0 1]

theorem late_answer_unrevokes :
    Registry.deploy (.inl (padBytes [1])) = .ok Registry.sampleRegistry ∧
      (Runs.run Watch.step (Watch.start Registry.sampleRegistry) sampleWatch).emitted =
        [.revocation (bytesHex (padBytes [7])) "SUSPENDED" (bytesHex (padBytes [9]))
            (some "lost device"),
          .revocation (bytesHex (padBytes [7])) "REVOKED" (bytesHex (padBytes [9])) (some "fraud"),
          .revocation (bytesHex (padBytes [7])) "SUSPENDED" (bytesHex (padBytes [9]))
            (some "lost device")] ∧
      ¬ RevocationsStay
        (Runs.run Watch.step (Watch.start Registry.sampleRegistry) sampleWatch).emitted := by
  have emitted : (Runs.run Watch.step (Watch.start Registry.sampleRegistry) sampleWatch).emitted =
      [.revocation (bytesHex (padBytes [7])) "SUSPENDED" (bytesHex (padBytes [9]))
          (some "lost device"),
        .revocation (bytesHex (padBytes [7])) "REVOKED" (bytesHex (padBytes [9])) (some "fraud"),
        .revocation (bytesHex (padBytes [7])) "SUSPENDED" (bytesHex (padBytes [9]))
          (some "lost device")] := by
    decide
  refine ⟨rfl, emitted, ?_⟩
  rw [emitted]
  intro stay
  have ordered := (List.pairwise_cons.mp (List.pairwise_cons.mp stay).2).1 _
    (List.mem_singleton_self _) _ ⟨_, _, rfl⟩
  exact ordered.2 ⟨_, _, rfl⟩

end OwlId.Sidecar
