import Mathlib
import OwlId.Issuer.SessionHandlers

/-! # Claims and their sessions

`store_claims` does not look at the sessions, and the clean-up removes the claims of the
sessions it removes, so claims without a session are never removed again.  They appear when
a session goes while a handler is on its way to store claims for it.  `Housed` says that no
claims and no handler about to store some are without their session; all steps keep it
except the two that `Careful` rules out.
-/

namespace OwlId.Issuer

open OwlId.Lib

variable {Claims : Type}

/-! ## Writes that store claims -/

namespace SessionWrite

def IsStore : SessionWrite Claims → Prop
  | .storeClaims _ => True
  | _ => False

/-- One of the writes stores claims. -/
def Stores (writes : List (SessionWrite Claims)) : Prop := ∃ write ∈ writes, write.IsStore

theorem Stores.tail {write : SessionWrite Claims} {rest : List (SessionWrite Claims)}
    (stores : Stores rest) : Stores (write :: rest) := by
  obtain ⟨store, member, isStore⟩ := stores
  exact ⟨store, List.mem_cons_of_mem write member, isStore⟩

end SessionWrite

open SessionWrite

namespace SessionService

/-! ## The invariant -/

/-- Every key of the claims is a key of the sessions. -/
def NoOrphans (db : IdpDatabase Claims) : Prop :=
  ∀ id, (db.getClaims id).isSome → (db.getSession id).isSome

/-- The claims, and those about to be stored, have their session. -/
structure Housed (s : SessionService Claims) : Prop where
  claims : NoOrphans s.db
  pending : ∀ i handler, s.handlers i = some handler → Stores handler.pending →
    (s.db.getSession handler.session).isSome

theorem start_housed : Housed (start : SessionService Claims) := ⟨nofun, nofun⟩

variable {s : SessionService Claims} {i : Nat}

theorem Housed.goesAhead (housed : Housed s) {handler : SessionHandler Claims}
    {writes : List (SessionWrite Claims)}
    (stored : Stores writes → (s.db.getSession handler.session).isSome) :
    Housed (s.setHandler i (ahead handler writes)) where
  claims := housed.claims
  pending j other here stores := by
    rcases handlers_ahead here with ⟨_, rfl⟩ | ⟨_, before⟩
    · exact stored stores
    · exact housed.pending j other before stores

theorem Housed.shrunk (housed : Housed s) {handler : SessionHandler Claims}
    {write : SessionWrite Claims} {rest : List (SessionWrite Claims)}
    (here : s.handlers i = some handler) (pending : handler.pending = write :: rest) :
    Housed (s.setHandler i (ahead handler rest)) :=
  housed.goesAhead fun stores => housed.pending i handler here (pending ▸ stores.tail)

/-- A write keeps every session, and claims are stored only where there is one. -/
theorem Housed.written (housed : Housed s) {handler : SessionHandler Claims}
    {write : SessionWrite Claims} {rest : List (SessionWrite Claims)} {db : IdpDatabase Claims}
    (here : s.handlers i = some handler) (pending : handler.pending = write :: rest)
    (applied : write.apply s.db handler.session s.now = .ok db) :
    Housed { s.setHandler i (ahead handler rest) with db := db } := by
  have same := SessionWrite.isSome_getSession_apply applied
  constructor
  · intro id some
    rw [same]
    rcases SessionWrite.apply_cases applied with
      ⟨claims, rfl, rfl⟩ | ⟨_, _, _, replaces, _, _⟩
    · rw [IdpDatabase.getClaims_storeClaims] at some
      split at some
      next mine =>
        exact mine ▸ housed.pending i handler here (pending ▸ ⟨_, List.mem_cons_self, trivial⟩)
      next => exact housed.claims id some
    · rw [IdpDatabase.getClaims, replaces.claims] at some
      exact housed.claims id some
  · intro j other there stores
    exact (same other.session).trans ((housed.shrunk here pending).pending j other there stores)

theorem Housed.created (housed : Housed s) (session : VerificationSession) (drawn : Uuid) :
    Housed { s with db := s.db.createSessionWithFlow session, drawn := drawn } := by
  have kept {id : Uuid} (stored : (s.db.getSession id).isSome) :
      ((s.db.createSessionWithFlow session).getSession id).isSome := by
    rw [IdpDatabase.getSession_createSessionWithFlow]
    split
    · rfl
    · exact stored
  constructor
  · intro id some
    exact kept (housed.claims id some)
  · intro j handler here stores
    exact kept (housed.pending j handler here stores)

/-- The clean-up takes the claims with the session. -/
theorem Housed.cleaned (housed : Housed s)
    (spares : ∀ i handler, s.handlers i = some handler → Stores handler.pending →
      handler.session ∉ s.db.expiredIds s.now) :
    Housed { s with db := s.db.cleanupExpired s.now } := by
  have kept {id : Uuid} (fresh : id ∉ s.db.expiredIds s.now)
      (stored : (s.db.getSession id).isSome) :
      ((s.db.cleanupExpired s.now).getSession id).isSome := by
    obtain ⟨session, found⟩ := Option.isSome_iff_exists.mp stored
    rw [IdpDatabase.getSession_cleanupExpired, found]
    have current : session.isExpired s.now = false := by
      by_contra late
      exact fresh (IdpDatabase.mem_expiredIds.mpr ⟨session, found, by simpa using late⟩)
    simp [current]
  constructor
  · intro id some
    rw [IdpDatabase.getClaims_cleanupExpired] at some
    split at some
    next => cases some
    next fresh => exact kept fresh (housed.claims id some)
  · intro j handler here stores
    exact kept (spares j handler here stores) (housed.pending j handler here stores)

/-! ## Careful steps -/

/-- An answer with claims arrives while the session is there, and the clean-up spares the
    sessions for which claims are about to be stored. -/
def Careful (s : SessionService Claims) : ServiceStep Claims → Prop
  | .answer i answer => ∀ session goesOn asked,
    s.handlers i = some ⟨session, goesOn, .asking asked⟩ → Stores (asked.writes answer) →
      (s.db.getSession session).isSome
  | .cleanup => ∀ i handler, s.handlers i = some handler → Stores handler.pending →
      handler.session ∉ s.db.expiredIds s.now
  | _ => True

theorem startStage_stores {id : Uuid} {goesOn : Bool} (providerId : String) :
    ¬ Stores (⟨id, goesOn, startStage providerId⟩ : SessionHandler Claims).pending := by
  unfold startStage
  split
  · simp [SessionHandler.pending, Stores, IsStore]
  · simp [SessionHandler.pending, Stores]

theorem step_housed (config : HandlerConfig Claims) (housed : Housed s)
    (input : ServiceStep Claims) (careful : Careful s input) : Housed (s.step config input) := by
  have moves := s.step_moves config input
  generalize s.step config input = after at moves ⊢
  cases moves with
  | stays => exact housed
  | created i fresh providerId flowType free =>
    have created := housed.created
      (VerificationSession.new s.drawn fresh providerId flowType s.now) (s.drawn + 1)
    refine ⟨created.claims, fun j other here stores => ?_⟩
    rcases handlers_put here with ⟨_, rfl⟩ | ⟨_, before⟩
    · exact absurd stores (startStage_stores providerId)
    · exact created.pending j other before stores
  | called i call handler free begins =>
    refine ⟨housed.claims, fun j other here stores => ?_⟩
    rcases handlers_put here with ⟨_, rfl⟩ | ⟨_, before⟩
    · -- whoever decides to store when it begins has just read the session
      rcases (begin_opens begins).2 with stored | ⟨_, asks⟩
      · exact stored
      · rw [asks] at stores
        obtain ⟨_, member, _⟩ := stores
        cases member
    · exact housed.pending j other before stores
  | answered i answer session goesOn asked here =>
    exact housed.goesAhead (careful session goesOn asked here)
  | written i handler write rest db here pending applied =>
    exact housed.written here pending applied
  | skipped i handler write rest here pending => exact housed.shrunk here pending
  | ended input i =>
    exact ⟨housed.claims, fun j other here => housed.pending j other (handlers_ended here)⟩
  | ticked seconds => exact ⟨housed.claims, housed.pending⟩
  | cleaned => exact housed.cleaned careful

/-! ## Runs -/

/-- Whenever no handler is in flight, no claims are left without their session. -/
def ClaimsHoused (config : HandlerConfig Claims) (steps : List (ServiceStep Claims)) : Prop :=
  ∀ past, past <+: steps → (∀ i, (run config past).handlers i = none) →
    NoOrphans (run config past).db

theorem claims_housed (config : HandlerConfig Claims) (steps : List (ServiceStep Claims))
    (careful : ∀ past next, past ++ [next] <+: steps → Careful (run config past) next) :
    ClaimsHoused config steps := by
  have housed : ∀ past, past <+: steps → Housed (run config past) := by
    refine Runs.reached_induction start_housed fun past next reached before => ?_
    rw [run, Runs.run_concat]
    exact step_housed config before next (careful past next reached)
  intro past reached _
  exact (housed past reached).claims

/-! ### Samples -/

def hostedConfig : HandlerConfig Unit := ⟨⟨2, 90⟩, fun _ => true, (), ()⟩

/-- A hosted verification whose result is being asked for. -/
def awaitingResult : List (ServiceStep Unit) :=
  [.createSession 0 "" "didit" .webhookAsync, .answer 0 (.started (some "ext")), .write 0,
    .call 1 (.completeVerification 0)]

theorem claims_housed_at_sample :
    ClaimsHoused hostedConfig
      (awaitingResult ++ [.answer 1 (.claims ()), .write 1, .write 1]) := by
  refine claims_housed hostedConfig _ (Runs.forall_reached ?_)
  intro n bound
  match n, bound with
  | 0, _ => trivial
  | 1, _ =>
    intro session goesOn asked here _
    obtain ⟨rfl, _⟩ := SessionHandler.mk.inj (Option.some.inj here)
    rfl
  | 2, _ => trivial
  | 3, _ => trivial
  | 4, _ =>
    intro session goesOn asked here _
    obtain ⟨rfl, _⟩ := SessionHandler.mk.inj (Option.some.inj here)
    rfl
  | 5, _ => trivial
  | 6, _ => trivial

/-- The session expires and is cleaned up before the provider answers. -/
theorem claims_outlive_session :
    ¬ ClaimsHoused hostedConfig
      (awaitingResult ++ [.tick 1801, .cleanup, .answer 1 (.claims ()), .write 1, .write 1]) := by
  intro housed
  have orphan := housed _ List.prefix_rfl (fun
    | 0 => rfl
    | 1 => rfl
    | _ + 2 => rfl) 0 rfl
  cases orphan

end SessionService

end OwlId.Issuer
