import Mathlib
import OwlId.Lib.Runs
import OwlId.Verification.Revocations

/-! # Concurrent calls on the revocation repository

A call runs its database statement, then waits for the write lock of the cache,
then updates the cache and drops the lock; `is_revoked` only tries the lock.  The
steps of any number of calls interleave freely.

Between its statement and its cache update a call is a `writer`.  The invariant
`Tracks` says what the cache will be once the writers are done, in the order their
statements ran: for every id, the last writer's verdict, or the cache's own when
there is none.  It survives every step except a cache update out of that order,
and a cleanup that deletes a row the cache still holds.
-/

namespace OwlId.Verification

open OwlId.Lib

/-! ## Calls -/

inductive Operation where
  | revoke (credentialId issuerPublicKey : String) (reason : Option String)
      (expiresAt : Option Int)
  | suspend (credentialId issuerPublicKey : String) (reason : Option String)
  | reactivate (credentialId : String)
  | cleanupExpired
  | isRevoked (hash : String)
deriving DecidableEq

/-- A call in flight. -/
structure Task where
  call : Nat
  op : Operation
deriving DecidableEq

/-- An `is_revoked` call that returned. -/
structure Read where
  call : Nat
  hash : String
  result : Bool
deriving DecidableEq

/-- The id whose cache entry the operation will write. -/
def Operation.subject : Operation → Option String
  | .revoke credentialId _ _ _ => some credentialId
  | .suspend credentialId _ _ => some credentialId
  | .reactivate credentialId => some credentialId
  | .cleanupExpired => none
  | .isRevoked _ => none

/-- Whether the cache will hold that id. -/
def Operation.blocks : Operation → Bool
  | .revoke _ _ _ _ => true
  | .suspend _ _ _ => true
  | _ => false

/-- The section under the write lock. -/
def Operation.updateCache (cache : RevocationCache) : Operation → RevocationCache
  | .revoke credentialId _ _ _ => cache.add credentialId
  | .suspend credentialId _ _ => cache.add credentialId
  | .reactivate credentialId => cache.remove credentialId
  | .cleanupExpired => cache
  | .isRevoked _ => cache

/-! ## States and steps -/

structure Shared where
  repo : RevocationRepository
  /-- Calls that have not run their statement. -/
  started : Table Task.call
  /-- Calls that have, in the order of their statements, and have not updated the cache. -/
  writers : List Task
  /-- The call that holds the write lock. -/
  lock : Option Nat
  reads : List Read

inductive Event where
  | start (call : Nat) (op : Operation)
  /-- The database statement of a started call, with the database's clock. -/
  | statement (call : Nat) (now : Int)
  | acquire (call : Nat)
  /-- The cache update of the lock's holder, which drops the lock and returns. -/
  | update (call : Nat)
  | tryRead (call : Nat)
deriving DecidableEq

def Shared.inFlight (st : Shared) (call : Nat) : Bool :=
  (st.started.find call).isSome || st.writers.any fun task => task.call = call

/-- The statement of an operation, and whether a cache section follows. -/
def runStatement (table : RevocationTable) (now : Int) : Operation → RevocationTable × Bool
  | .revoke credentialId issuer reason expiresAt =>
    (table.revoke credentialId issuer reason expiresAt, true)
  | .suspend credentialId issuer reason => (table.suspend credentialId issuer reason, true)
  | .reactivate credentialId =>
    match table.reactivate credentialId with
    | some table' => (table', true)
    -- not found: the call returns its error
    | none => (table, false)
  | .cleanupExpired => (table.cleanupExpired now, false)
  | .isRevoked _ => (table, false)

/-- The lookup: an unavailable lock reads as not revoked. -/
def Shared.isRevoked (st : Shared) (hash : String) : Bool :=
  match st.lock with
  | none => st.repo.cache.isRevoked hash
  | some _ => false

/-- A step that is not enabled changes nothing. -/
def sharedStep (st : Shared) : Event → Shared
  | .start call op =>
    if st.inFlight call then st else { st with started := st.started.insert ⟨call, op⟩ }
  | .statement call now =>
    match st.started.find call with
    | none => st
    | some ⟨_, .isRevoked _⟩ => st
    | some task =>
      let (table, caching) := runStatement st.repo.table now task.op
      { st with
        repo := { st.repo with table := table }
        started := st.started.erase call
        writers := if caching then st.writers ++ [task] else st.writers }
  | .acquire call =>
    if st.lock = none ∧ st.writers.any (fun task => task.call = call) then
      { st with lock := some call }
    else st
  | .update call =>
    if st.lock = some call then
      match st.writers.find? fun task => task.call = call with
      | none => st
      | some task =>
        { st with
          repo := { st.repo with cache := task.op.updateCache st.repo.cache }
          writers := st.writers.eraseP fun task => task.call = call
          lock := none }
    else st
  | .tryRead call =>
    match st.started.find call with
    | some ⟨_, .isRevoked hash⟩ =>
      { st with
        started := st.started.erase call
        reads := st.reads ++ [⟨call, hash, st.isRevoked hash⟩] }
    | _ => st

/-- The service has loaded its cache and serves no call yet. -/
def sharedStart (table : RevocationTable) : Shared :=
  ⟨RevocationRepository.initializeCache table, Table.empty, [], none, []⟩

/-- No call is in flight. -/
def Shared.Quiescent (st : Shared) : Prop := st.started.rows = [] ∧ st.writers = []

/-! ## What the writers will leave in the cache -/

/-- The verdict of the last writer on an id, or the cache's. -/
def Shared.settled (st : Shared) (id : String) : Bool :=
  match (st.writers.filter fun task => task.op.subject = some id).getLast? with
  | some task => task.op.blocks
  | none => st.repo.cache.isRevoked id

def Tracks (st : Shared) : Prop := ∀ id, st.settled id = st.repo.table.blocks id

theorem Tracks.coherent {st : Shared} (tracks : Tracks st) (idle : st.writers = []) :
    st.repo.Coherent := by
  intro id
  simpa [Shared.settled, idle] using tracks id

theorem isRevoked_updateCache (cache : RevocationCache) (op : Operation) (id : String) :
    (op.updateCache cache).isRevoked id =
      if op.subject = some id then op.blocks else cache.isRevoked id := by
  cases op with
  | revoke credentialId issuer reason expiresAt =>
    by_cases here : id = credentialId <;>
      simp [Operation.updateCache, Operation.subject, Operation.blocks, here, eq_comm]
  | suspend credentialId issuer reason =>
    by_cases here : id = credentialId <;>
      simp [Operation.updateCache, Operation.subject, Operation.blocks, here, eq_comm]
  | reactivate credentialId =>
    by_cases here : id = credentialId <;>
      simp [Operation.updateCache, Operation.subject, Operation.blocks, here, eq_comm]
  | cleanupExpired => simp [Operation.updateCache, Operation.subject]
  | isRevoked hash => simp [Operation.updateCache, Operation.subject]

/-! ## Orderly steps -/

/-- The step neither overtakes nor deletes: it updates no cache entry that an earlier statement
    still has to update, and cleans up no row that blocks. -/
structure Orderly (st : Shared) (e : Event) : Prop where
  order : ∀ call, e = .update call → st.lock = some call →
    ∀ earlier task later, st.writers = earlier ++ task :: later → task.call = call →
      ∀ other ∈ earlier, other.op.subject ≠ task.op.subject
  cleanup : ∀ call now, e = .statement call now →
    (st.started.find call).map Task.op = some .cleanupExpired →
    ∀ row ∈ st.repo.table.rows, row.status.isBlocking = true →
      ∀ expiry, row.expiresAt = some expiry → now ≤ expiry

theorem blocks_eq_any (table : RevocationTable) (id : String) :
    table.blocks id = (table.find id).any fun row => row.status.isBlocking := by
  rw [RevocationTable.blocks]
  cases table.find id <;> rfl

/-- A cleanup that finds no blocking row expired blocks what was blocked before. -/
theorem blocks_cleanupExpired {table : RevocationTable} {now : Int}
    (kept : ∀ row ∈ table.rows, row.status.isBlocking = true →
      ∀ expiry, row.expiresAt = some expiry → now ≤ expiry) (id : String) :
    (table.cleanupExpired now).blocks id = table.blocks id := by
  rw [blocks_eq_any, blocks_eq_any, RevocationTable.cleanupExpired, Table.find_retain,
    Option.any_filter]
  cases found : table.find id with
  | none => rfl
  | some row =>
    have member := (Table.find_eq_some.mp found).1
    by_cases blocking : row.status.isBlocking = true
    · cases expires : row.expiresAt with
      | none => simp [expires]
      | some expiry =>
        have live := kept row member blocking expiry expires
        simp [expires, live]
    · simp [blocking]

/-- The statement of a call that goes on to the cache gives its verdict to its subject. -/
theorem blocks_of_caching {table table' : RevocationTable} {now : Int} {op : Operation}
    (ran : runStatement table now op = (table', true)) (id : String) :
    table'.blocks id = if op.subject = some id then op.blocks else table.blocks id := by
  cases op with
  | revoke credentialId issuer reason expiresAt =>
    simp only [runStatement, Prod.mk.injEq, and_true] at ran
    subst ran
    by_cases here : id = credentialId <;>
      simp [Operation.subject, Operation.blocks, here, eq_comm]
  | suspend credentialId issuer reason =>
    simp only [runStatement, Prod.mk.injEq, and_true] at ran
    subst ran
    by_cases here : id = credentialId <;>
      simp [Operation.subject, Operation.blocks, here, eq_comm]
  | reactivate credentialId =>
    cases updated : table.reactivate credentialId with
    | none => simp [runStatement, updated] at ran
    | some table'' =>
      simp only [runStatement, updated, Prod.mk.injEq, and_true] at ran
      subst ran
      by_cases here : id = credentialId <;>
        simp [RevocationTable.blocks_reactivate updated, Operation.subject, Operation.blocks,
          here, eq_comm]
  | cleanupExpired => simp [runStatement] at ran
  | isRevoked hash => simp [runStatement] at ran

theorem blocks_of_not_caching {table table' : RevocationTable} {now : Int} {op : Operation}
    (ran : runStatement table now op = (table', false))
    (kept : op = .cleanupExpired → ∀ row ∈ table.rows, row.status.isBlocking = true →
      ∀ expiry, row.expiresAt = some expiry → now ≤ expiry) (id : String) :
    table'.blocks id = table.blocks id := by
  cases op with
  | revoke credentialId issuer reason expiresAt => simp [runStatement] at ran
  | suspend credentialId issuer reason => simp [runStatement] at ran
  | reactivate credentialId =>
    cases updated : table.reactivate credentialId with
    | none =>
      simp only [runStatement, updated, Prod.mk.injEq, and_true] at ran
      rw [ran]
    | some table'' => simp [runStatement, updated] at ran
  | cleanupExpired =>
    simp only [runStatement, Prod.mk.injEq, and_true] at ran
    rw [← ran]
    exact blocks_cleanupExpired (kept rfl) id
  | isRevoked hash =>
    simp only [runStatement, Prod.mk.injEq, and_true] at ran
    rw [ran]

/-! ## The invariant along a run -/

theorem tracks_statement {st : Shared} (tracks : Tracks st) (call : Nat) (now : Int)
    (orderly : Orderly st (.statement call now)) : Tracks (sharedStep st (.statement call now)) := by
  unfold sharedStep
  dsimp only
  split
  · exact tracks
  · exact tracks
  · rename_i task _ found
    cases ran : runStatement st.repo.table now task.op with
    | mk table caching =>
      cases caching with
      | true =>
        intro id
        have before := tracks id
        rw [blocks_of_caching ran]
        by_cases subject : task.op.subject = some id
        · simp [Shared.settled, subject]
        · simpa [Shared.settled, subject] using before
      | false =>
        intro id
        have kept : task.op = .cleanupExpired → ∀ row ∈ st.repo.table.rows,
            row.status.isBlocking = true → ∀ expiry, row.expiresAt = some expiry →
              now ≤ expiry := fun cleaning =>
          orderly.cleanup call now rfl (by rw [found, Option.map_some, cleaning])
        rw [blocks_of_not_caching ran kept]
        exact tracks id

theorem tracks_update {st : Shared} (tracks : Tracks st) (call : Nat)
    (orderly : Orderly st (.update call)) : Tracks (sharedStep st (.update call)) := by
  unfold sharedStep
  dsimp only
  split
  · rename_i held
    split
    · exact tracks
    · rename_i task found
      obtain ⟨own, earlier, later, writers, others⟩ := List.find?_eq_some_iff_append.mp found
      have erased : (st.writers.eraseP fun t => t.call = call) = earlier ++ later := by
        rw [writers, List.eraseP_append_right _ (by simpa using others),
          List.eraseP_cons_of_pos (by simpa using own)]
      have first := orderly.order call rfl held earlier task later writers (by simpa using own)
      intro id
      have before := tracks id
      simp only [Shared.settled, erased, isRevoked_updateCache, List.filter_append] at before ⊢
      rw [← before, writers]
      by_cases subject : task.op.subject = some id
      · -- nobody before the task has its subject, so the task is the first writer on the id
        have none : earlier.filter (fun t => t.op.subject = some id) = [] := by
          rw [List.filter_eq_nil_iff]
          intro other member
          simpa [subject] using first other member
        cases rest : later.filter (fun t => t.op.subject = some id) with
        | nil => simp [none, rest, subject]
        | cons next more => simp [none, rest, subject, List.getLast?_cons]
      · simp [subject]
  · exact tracks

theorem tracks_sharedStep {st : Shared} (tracks : Tracks st) (e : Event)
    (orderly : Orderly st e) : Tracks (sharedStep st e) := by
  cases e with
  | start call op =>
    unfold sharedStep
    dsimp only
    split <;> exact tracks
  | statement call now => exact tracks_statement tracks call now orderly
  | acquire call =>
    unfold sharedStep
    dsimp only
    split <;> exact tracks
  | update call => exact tracks_update tracks call orderly
  | tryRead call =>
    unfold sharedStep
    dsimp only
    split <;> exact tracks

theorem sharedStart_tracks (table : RevocationTable) : Tracks (sharedStart table) := by
  intro id
  exact RevocationRepository.initializeCache_coherent table id

theorem run_tracks (table : RevocationTable) (events : List Event)
    (orderly : ∀ past next, past ++ [next] <+: events →
      Orderly (Runs.run sharedStep (sharedStart table) past) next) :
    ∀ past, past <+: events → Tracks (Runs.run sharedStep (sharedStart table) past) := by
  refine Runs.reached_induction (sharedStart_tracks table) fun past next reached before => ?_
  rw [Runs.run_concat]
  exact tracks_sharedStep before next (orderly past next reached)

/-- Every interleaving: when its steps are orderly, the cache agrees with the table whenever no
    call is in flight; and a lookup returns `true` exactly when the id is cached and no writer
    holds the lock at the time. -/
theorem revocation_cache_coherent (table : RevocationTable) (events : List Event) :
    ((∀ past next, past ++ [next] <+: events →
        Orderly (Runs.run sharedStep (sharedStart table) past) next) →
      ∀ past, past <+: events → (Runs.run sharedStep (sharedStart table) past).Quiescent →
        (Runs.run sharedStep (sharedStart table) past).repo.Coherent) ∧
    (∀ call hash,
      ⟨call, .isRevoked hash⟩ ∈ (Runs.run sharedStep (sharedStart table) events).started.rows →
      ∃ result, (Runs.run sharedStep (sharedStart table) (events ++ [.tryRead call])).reads =
          (Runs.run sharedStep (sharedStart table) events).reads ++ [⟨call, hash, result⟩] ∧
        (result = true ↔ (Runs.run sharedStep (sharedStart table) events).lock = none ∧
          hash ∈ (Runs.run sharedStep (sharedStart table) events).repo.cache.revokedHashes)) := by
  constructor
  · intro orderly past reached quiescent
    exact (run_tracks table events orderly past reached).coherent quiescent.2
  · intro call hash waiting
    have found := Table.find_eq_some.mpr ⟨waiting, rfl⟩
    refine ⟨(Runs.run sharedStep (sharedStart table) events).isRevoked hash, ?_, ?_⟩
    · rw [Runs.run_concat]
      simp [sharedStep, found]
    · unfold Shared.isRevoked
      cases (Runs.run sharedStep (sharedStart table) events).lock with
      | none => simp [RevocationCache.isRevoked]
      | some holder => simp

/-- A step with at most one writer in flight, and no cleanup, is orderly. -/
theorem Orderly.of_alone {st : Shared} {e : Event} (alone : st.writers.length ≤ 1)
    (noCleanup : ∀ call now, e = .statement call now →
      (st.started.find call).map Task.op ≠ some .cleanupExpired) : Orderly st e where
  order := by
    intro call _ _ earlier task later writers _ other member
    have length := congrArg List.length writers
    have nonempty := List.length_pos_of_mem member
    simp only [List.length_append, List.length_cons] at length
    omega
  cleanup call now is cleaning := absurd cleaning (noCleanup call now is)

/-- A revocation from start to end, then a lookup. -/
def undisturbed : List Event :=
  [.start 1 (.revoke "cred" "issuer" none none), .statement 1 0, .acquire 1, .update 1,
    .start 2 (.isRevoked "cred")]

theorem undisturbed_orderly {past : List Event} {next : Event}
    (reached : past ++ [next] <+: undisturbed) :
    Orderly (Runs.run sharedStep (sharedStart Table.empty) past) next := by
  obtain ⟨rest, whole⟩ := reached
  have steps : ∀ n < 5, (Runs.run sharedStep (sharedStart Table.empty)
      (undisturbed.take n)).writers.length ≤ 1 ∧
        ((Runs.run sharedStep (sharedStart Table.empty) (undisturbed.take n)).started.rows.map
          Task.op).contains .cleanupExpired = false := by
    decide
  have bound : past.length < 5 := by
    have length := congrArg List.length whole
    simp only [List.append_assoc, List.length_append, List.length_cons, undisturbed] at length
    simp only [List.length_nil] at length
    omega
  have past_eq : undisturbed.take past.length = past := by
    rw [← whole, List.append_assoc, List.take_left]
  obtain ⟨alone, noCleanup⟩ := steps past.length bound
  rw [past_eq] at alone noCleanup
  refine Orderly.of_alone alone fun call now _ cleaning => ?_
  obtain ⟨task, found, op⟩ := Option.map_eq_some_iff.mp cleaning
  have listed := List.mem_map.mpr ⟨task, (Table.find_eq_some.mp found).1, op⟩
  rw [← List.contains_iff_mem, noCleanup] at listed
  cases listed

theorem revocation_cache_coherent_at_sample :
    (Runs.run sharedStep (sharedStart Table.empty) (undisturbed.take 4)).repo.Coherent ∧
      ∃ result, (Runs.run sharedStep (sharedStart Table.empty)
          (undisturbed ++ [.tryRead 2])).reads = [⟨2, "cred", result⟩] ∧ result = true := by
  obtain ⟨coherent, lookup⟩ := revocation_cache_coherent Table.empty undisturbed
  refine ⟨coherent (fun _ _ => undisturbed_orderly) _ (List.take_prefix 4 _)
    ⟨by decide, by decide⟩, ?_⟩
  obtain ⟨result, reads, isTrue⟩ := lookup 2 "cred" (by decide)
  have none : (Runs.run sharedStep (sharedStart Table.empty) undisturbed).reads = [] := by
    decide
  rw [none, List.nil_append] at reads
  exact ⟨result, reads, isTrue.mpr ⟨by decide, by decide⟩⟩

/-! ## A lost reactivation and a skipped lookup -/

/-- A revocation and a reactivation of one credential, whose cache updates run in the other order
    than their statements. -/
def overtaken : List Event :=
  [.start 1 (.revoke "cred" "issuer" none none), .statement 1 0,
    .start 2 (.reactivate "cred"), .statement 2 0,
    .acquire 2, .update 2, .acquire 1, .update 1]

/-- A credential is revoked; then it is looked up, by call 3, while the suspension of another one
    holds the lock. -/
def contended : List Event :=
  [.start 1 (.revoke "cred" "issuer" none none), .statement 1 0, .acquire 1, .update 1,
    .start 2 (.suspend "other" "issuer" none), .statement 2 0, .acquire 2,
    .start 3 (.isRevoked "cred"), .tryRead 3]

/-- After the first run the cache still holds a reactivated credential although no call is in
    flight.  In the second, the credential is cached from before the lookup starts until it has
    returned, and the lookup returns `false`. -/
theorem revocation_cache_not_coherent :
    (Runs.run sharedStep (sharedStart Table.empty) overtaken).Quiescent ∧
      ¬ (Runs.run sharedStep (sharedStart Table.empty) overtaken).repo.Coherent ∧
      (∀ n ∈ [7, 8, 9], "cred" ∈ (Runs.run sharedStep (sharedStart Table.empty)
        (contended.take n)).repo.cache.revokedHashes) ∧
      (Runs.run sharedStep (sharedStart Table.empty) contended).reads = [⟨3, "cred", false⟩] := by
  refine ⟨⟨by decide, by decide⟩, fun coherent => ?_, by decide,
    by decide⟩
  have lookup := coherent "cred"
  revert lookup
  decide

end OwlId.Verification
