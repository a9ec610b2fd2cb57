import Mathlib
import OwlId.Lib.Runs
import OwlId.Sdk.Wallet

/-! # The wallet's credential list

`CredentialStorageManager` keeps the list of credential ids, the credentials and their
wrapped keys as separate items of an asynchronous store.  `addCredential` and
`removeCredential` read the list, wait, and then write the whole new list beside the
two items of their own credential; nothing orders the reads and writes of one call with
those of another.

`StorageState` is the store together with what each call in flight has read and written.
The questions are what a step may do to the list, and which runs end with the list that
the calls together ask for.
-/

namespace OwlId.Sdk

open OwlId.Lib

/-! ## The store -/

/-- The items `owl_wallet_index`, `owl_wallet_cred:<id>` and `owl_wallet_key:<id>`, read back from
their JSON text.  `index` is `none` where there is no text or it is no array. -/
structure CredentialStore where
  index : Option (List String)
  credentials : String → Option WalletCredential
  wrappedKeys : String → Option String

namespace CredentialStore

def readIndex (store : CredentialStore) : List String := store.index.getD []

/-- All credentials in insertion order. -/
def listCredentials (store : CredentialStore) : List WalletCredential :=
  store.readIndex.filterMap store.credentials

/-- Every listed id has its credential and its key. -/
def Intact (store : CredentialStore) : Prop :=
  ∀ id ∈ store.readIndex, (∃ credential, store.credentials id = some credential ∧
    credential.credentialId = id) ∧ (store.wrappedKeys id).isSome

theorem Intact.map_listCredentials {store : CredentialStore} (intact : store.Intact) :
    store.listCredentials.map WalletCredential.credentialId = store.readIndex := by
  unfold listCredentials
  have listed : ∀ ids ⊆ store.readIndex,
      (ids.filterMap store.credentials).map WalletCredential.credentialId = ids := by
    intro ids
    induction ids with
    | nil => exact fun _ => rfl
    | cons id rest ih =>
      intro within
      obtain ⟨⟨credential, found, named⟩, _⟩ := intact id (within List.mem_cons_self)
      rw [List.filterMap_cons_some found, List.map_cons, named,
        ih fun other member => within (List.mem_cons_of_mem id member)]
  exact listed _ (List.Subset.refl _)

end CredentialStore

/-! ## Calls -/

inductive StorageCall where
  | addCredential (credential : WalletCredential) (wrappedKey : String)
  | removeCredential (credentialId : String)

namespace StorageCall

def credentialId : StorageCall → String
  | addCredential credential _ => credential.credentialId
  | removeCredential credentialId => credentialId

def isAdd : StorageCall → Bool
  | addCredential _ _ => true
  | removeCredential _ => false

/-- The credential and the key a call leaves under its id. -/
def credential : StorageCall → Option WalletCredential
  | addCredential credential _ => some credential
  | removeCredential _ => none

def wrappedKey : StorageCall → Option String
  | addCredential _ wrappedKey => some wrappedKey
  | removeCredential _ => none

/-- The list a call writes, from the list it has read. -/
def newIndex (ids : List String) : StorageCall → List String
  | addCredential credential _ =>
    if credential.credentialId ∈ ids then ids else ids ++ [credential.credentialId]
  | removeCredential credentialId => ids.filter (· ≠ credentialId)

theorem mem_newIndex {ids : List String} (call : StorageCall) (id : String) :
    id ∈ call.newIndex ids ↔ if id = call.credentialId then call.isAdd = true else id ∈ ids := by
  cases call with
  | addCredential credential wrappedKey =>
    simp only [newIndex, credentialId, isAdd]
    by_cases here : id = credential.credentialId
    · subst here
      split <;> simp_all
    · split <;> simp [here]
  | removeCredential removed =>
    by_cases here : id = removed <;> simp [newIndex, credentialId, isAdd, here]

end StorageCall

/-- The three writes a call makes in parallel. -/
inductive StoredItem where
  | credential | wrappedKey | index
deriving DecidableEq

/-- One write of a call that has read `seen`. -/
def StorageCall.write (call : StorageCall) (seen : List String) (store : CredentialStore) :
    StoredItem → CredentialStore
  | .credential =>
    { store with
      credentials := Function.update store.credentials call.credentialId call.credential }
  | .wrappedKey =>
    { store with
      wrappedKeys := Function.update store.wrappedKeys call.credentialId call.wrappedKey }
  | .index => { store with index := some (call.newIndex seen) }

/-! ## Interleavings -/

/-- How far a call has come: the list it has read, and which of its writes have happened. -/
structure Progress where
  seen : Option (List String)
  written : StoredItem → Bool

structure StorageState where
  store : CredentialStore
  progress : Nat → Progress

/-- One access to the store, by the call at a position of the list of calls. -/
inductive StorageEvent where
  | read (position : Nat)
  | write (position : Nat) (item : StoredItem)

def startOf (store : CredentialStore) : StorageState := ⟨store, fun _ => ⟨none, fun _ => false⟩⟩

/-- The call at a position reads once and then makes each of its writes once; an access that is
not its turn is no access. -/
def storageStep (calls : List StorageCall) (state : StorageState) : StorageEvent → StorageState
  | .read position =>
    let progress := state.progress position
    match calls[position]?, progress.seen with
    | some _, none =>
      { state with
        progress := Function.update state.progress position
          { progress with seen := some state.store.readIndex } }
    | _, _ => state
  | .write position item =>
    let progress := state.progress position
    match calls[position]?, progress.seen with
    | some call, some seen =>
      if progress.written item then state
      else
        { store := call.write seen state.store item
          progress := Function.update state.progress position
            { progress with written := Function.update progress.written item true } }
    | _, _ => state

/-- Every call has returned. -/
def Completed (calls : List StorageCall) (state : StorageState) : Prop :=
  ∀ position < calls.length, ∀ item, (state.progress position).written item = true

/-! ## One access -/

/-- What an access does, if it does anything. -/
inductive StorageAccess (calls : List StorageCall) (state : StorageState) :
    StorageEvent → StorageState → Prop where
  | read {position : Nat} {call : StorageCall} (at_position : calls[position]? = some call) :
      StorageAccess calls state (.read position)
        { state with
          progress := Function.update state.progress position
            { state.progress position with seen := some state.store.readIndex } }
  | write {position : Nat} {item : StoredItem} {call : StorageCall} {seen : List String}
      (at_position : calls[position]? = some call)
      (has_read : (state.progress position).seen = some seen)
      (fresh : (state.progress position).written item = false) :
      StorageAccess calls state (.write position item)
        { store := call.write seen state.store item
          progress := Function.update state.progress position
            { state.progress position with
              written := Function.update (state.progress position).written item true } }

/-- A write whose turn it is. -/
def Due (calls : List StorageCall) (state : StorageState) (event : StorageEvent) (position : Nat)
    (item : StoredItem) (call : StorageCall) (seen : List String) : Prop :=
  event = .write position item ∧ calls[position]? = some call ∧
    (state.progress position).seen = some seen ∧ (state.progress position).written item = false

theorem storageStep_cases (calls : List StorageCall) (state : StorageState)
    (event : StorageEvent) :
    (storageStep calls state event = state ∧
        ∀ position item call seen, ¬Due calls state event position item call seen) ∨
      StorageAccess calls state event (storageStep calls state event) := by
  cases event with
  | read position =>
    have noWrite : ∀ other item call seen,
        ¬Due calls state (.read position) other item call seen := by
      rintro _ _ _ _ ⟨isWrite, _⟩
      cases isWrite
    simp only [storageStep]
    split
    case h_1 call at_position _ => exact .inr (.read at_position)
    case h_2 => exact .inl ⟨rfl, noWrite⟩
  | write position item =>
    simp only [storageStep]
    split
    case h_1 call seen at_position has_read =>
      split
      case isTrue again =>
        refine .inl ⟨rfl, ?_⟩
        rintro _ _ _ _ ⟨sameEvent, _, _, fresh⟩
        cases sameEvent
        rw [again] at fresh
        cases fresh
      case isFalse fresh =>
        exact .inr (.write at_position has_read ((Bool.not_eq_true _).mp fresh))
    case h_2 noMatch =>
      refine .inl ⟨rfl, ?_⟩
      rintro _ _ call seen ⟨sameEvent, at_position, has_read, _⟩
      cases sameEvent
      exact noMatch call seen at_position has_read

/-- The positions whose call has written an item. -/
def StorageState.done (state : StorageState) (item : StoredItem) (position : Nat) : Bool :=
  (state.progress position).written item

theorem done_read (state : StorageState) (position : Nat) (seen : Option (List String))
    (store : CredentialStore) (item : StoredItem) :
    StorageState.done
        { store := store
          progress := Function.update state.progress position
            { state.progress position with seen := seen } } item = state.done item := by
  funext other
  by_cases here : other = position
  · subst here
    simp [StorageState.done]
  · simp [StorageState.done, here]

theorem done_write (state : StorageState) (position : Nat) (item written : StoredItem)
    (store : CredentialStore) :
    StorageState.done
        { store := store
          progress := Function.update state.progress position
            { state.progress position with
              written := Function.update (state.progress position).written written true } } item =
      if item = written then Function.update (state.done item) position true
      else state.done item := by
  funext other
  by_cases here : other = position
  · subst here
    by_cases same : item = written <;> simp [StorageState.done, same]
  · by_cases same : item = written <;> simp [StorageState.done, same, here]

/-! ## What the writes add up to -/

/-- Of the calls that are done each stands as it wants, and no other id is touched. -/
structure Effected {V : Sort*} (calls : List StorageCall) (done : Nat → Bool)
    (outcome : StorageCall → V) (before after : String → V) : Prop where
  stands : ∀ position call, calls[position]? = some call → done position = true →
    after call.credentialId = outcome call
  untouched : ∀ id, (∀ position call, calls[position]? = some call → call.credentialId = id →
    done position = false) → after id = before id

section Effects

variable {V : Sort*} {calls : List StorageCall} {done : Nat → Bool} {outcome : StorageCall → V}
  {before after : String → V}

theorem Effected.unique {other : String → V} (first : Effected calls done outcome before after)
    (second : Effected calls done outcome before other) : after = other := by
  funext id
  by_cases written : ∃ position call, calls[position]? = some call ∧ call.credentialId = id ∧
      done position = true
  · obtain ⟨position, call, at_position, rfl, isDone⟩ := written
    rw [first.stands position call at_position isDone, second.stands position call at_position isDone]
  · have pending : ∀ position call, calls[position]? = some call → call.credentialId = id →
        done position = false := by
      intro position call at_position named
      exact Bool.eq_false_iff.mpr fun isDone =>
        written ⟨position, call, at_position, named, isDone⟩
    rw [first.untouched id pending, second.untouched id pending]

theorem position_unique (distinct : (calls.map StorageCall.credentialId).Nodup) {i j : Nat}
    {first second : StorageCall} (at_first : calls[i]? = some first)
    (at_second : calls[j]? = some second) (same : first.credentialId = second.credentialId) :
    i = j := by
  have bound : i < (calls.map StorageCall.credentialId).length := by
    rw [List.length_map]
    exact (List.getElem?_eq_some_iff.mp at_first).1
  refine (List.getElem?_inj bound distinct).mp ?_
  rw [List.getElem?_map, List.getElem?_map, at_first, at_second, Option.map_some, Option.map_some,
    same]

/-- One more write, of a call whose id no other call has. -/
theorem Effected.write (distinct : (calls.map StorageCall.credentialId).Nodup) {position : Nat}
    {call : StorageCall} (effected : Effected calls done outcome before after)
    (at_position : calls[position]? = some call) :
    Effected calls (Function.update done position true) outcome before
      (Function.update after call.credentialId (outcome call)) where
  stands other otherCall at_other isDone := by
    by_cases here : other = position
    · subst here
      obtain rfl := Option.some.inj (at_position.symm.trans at_other)
      rw [Function.update_self]
    · rw [Function.update_of_ne here] at isDone
      have apart : otherCall.credentialId ≠ call.credentialId := fun same =>
        here (position_unique distinct at_other at_position same)
      rw [Function.update_of_ne apart]
      exact effected.stands other otherCall at_other isDone
  untouched id pending := by
    have apart : id ≠ call.credentialId := by
      rintro rfl
      have written := pending position call at_position rfl
      rw [Function.update_self] at written
      cases written
    rw [Function.update_of_ne apart]
    refine effected.untouched id fun other otherCall at_other named => ?_
    have notHere : other ≠ position := by
      rintro rfl
      exact apart (Option.some.inj (at_position.symm.trans at_other) ▸ named.symm)
    have := pending other otherCall at_other named
    rwa [Function.update_of_ne notHere] at this

end Effects

/-! ## The list and the run -/

/-- Whether an id is listed. -/
def Listed (store : CredentialStore) (id : String) : Prop := id ∈ store.readIndex

/-- The calls that have written the list are the only ones to have changed it, and each of them
shows in it. -/
def IndexKept (calls : List StorageCall) (start : CredentialStore) (state : StorageState) : Prop :=
  Effected calls (state.done .index) (fun call => call.isAdd = true) (Listed start)
    (Listed state.store)

/-- A list is written back only while it still is, apart from the writer's own id, the list that
the call has read. -/
def Undisturbed (calls : List StorageCall) (state : StorageState) (event : StorageEvent) : Prop :=
  ∀ position call seen, Due calls state event position .index call seen →
    ∀ id ≠ call.credentialId, id ∈ seen ↔ id ∈ state.store.readIndex

theorem listed_newIndex {call : StorageCall} {seen : List String} {store : CredentialStore} :
    Listed (call.write seen store .index) =
      Function.update (fun id => id ∈ seen) call.credentialId (call.isAdd = true) := by
  funext id
  have member : id ∈ call.newIndex seen ↔
      if id = call.credentialId then call.isAdd = true else id ∈ seen := call.mem_newIndex id
  by_cases here : id = call.credentialId
  · subst here
    rw [Function.update_self]
    rw [if_pos rfl] at member
    exact propext member
  · rw [Function.update_of_ne here]
    rw [if_neg here] at member
    exact propext member

variable {calls : List StorageCall} {start : CredentialStore} {state : StorageState}

/-- An access that writes no list leaves the list right. -/
theorem storageStep_index_of_not_due (kept : IndexKept calls start state) {event : StorageEvent}
    (noList : ∀ position call seen, ¬Due calls state event position .index call seen) :
    IndexKept calls start (storageStep calls state event) := by
  rcases storageStep_cases calls state event with ⟨still, _⟩ | moves
  · rw [still]
    exact kept
  · unfold IndexKept at kept ⊢
    generalize storageStep calls state event = after at moves ⊢
    cases moves with
    | read at_position =>
      rw [done_read]
      exact kept
    | @write position item call seen at_position has_read fresh =>
      have notIndex : StoredItem.index ≠ item := by
        rintro rfl
        exact noList position call seen ⟨rfl, at_position, has_read, fresh⟩
      rw [done_write, if_neg notIndex]
      cases item with
      | index => exact absurd rfl notIndex
      | credential => exact kept
      | wrappedKey => exact kept

/-- The list a write leaves is right exactly when the write is undisturbed. -/
theorem storageStep_index_of_due (distinct : (calls.map StorageCall.credentialId).Nodup)
    (kept : IndexKept calls start state) {event : StorageEvent} {position : Nat}
    {call : StorageCall} {seen : List String}
    (due : Due calls state event position .index call seen) :
    IndexKept calls start (storageStep calls state event) ↔
      ∀ id ≠ call.credentialId, id ∈ seen ↔ id ∈ state.store.readIndex := by
  obtain ⟨rfl, at_position, has_read, fresh⟩ := due
  have wanted := kept.write distinct at_position
  have written : storageStep calls state (.write position .index) =
      { store := call.write seen state.store .index
        progress := Function.update state.progress position
          { state.progress position with
            written := Function.update (state.progress position).written .index true } } := by
    simp [storageStep, at_position, has_read, fresh]
  unfold IndexKept
  rw [written, done_write, if_pos rfl, listed_newIndex]
  refine ⟨fun after id apart => ?_, fun same => ?_⟩
  · -- two lists that both show the same calls agree
    have agree := congrFun (after.unique wanted) id
    rw [Function.update_of_ne apart, Function.update_of_ne apart] at agree
    exact iff_of_eq agree
  · have agree : Function.update (fun id => id ∈ seen) call.credentialId (call.isAdd = true) =
        Function.update (Listed state.store) call.credentialId (call.isAdd = true) := by
      funext id
      by_cases here : id = call.credentialId
      · rw [here, Function.update_self, Function.update_self]
      · rw [Function.update_of_ne here, Function.update_of_ne here]
        exact propext (same id here)
    rw [agree]
    exact wanted

/-- One access keeps the list right exactly when it is undisturbed. -/
theorem storageStep_index_iff (distinct : (calls.map StorageCall.credentialId).Nodup)
    (kept : IndexKept calls start state) (event : StorageEvent) :
    IndexKept calls start (storageStep calls state event) ↔ Undisturbed calls state event := by
  by_cases due : ∃ position call seen, Due calls state event position .index call seen
  · obtain ⟨position, call, seen, due⟩ := due
    rw [storageStep_index_of_due distinct kept due]
    refine ⟨?_, fun undisturbed => undisturbed position call seen due⟩
    intro same _ _ _ otherDue
    obtain ⟨rfl, at_position, has_read, _⟩ := due
    obtain ⟨sameEvent, at_other, other_read, _⟩ := otherDue
    cases sameEvent
    obtain rfl := Option.some.inj (at_position.symm.trans at_other)
    obtain rfl := Option.some.inj (has_read.symm.trans other_read)
    exact same
  · have noList : ∀ position call seen, ¬Due calls state event position .index call seen :=
      fun position call seen isDue => due ⟨position, call, seen, isDue⟩
    refine iff_of_true (storageStep_index_of_not_due kept noList) ?_
    exact fun position call seen isDue => absurd isDue (noList position call seen)

/-- The credentials and the keys come out right in every interleaving: no two calls write the
same item. -/
structure ItemsKept (calls : List StorageCall) (start : CredentialStore) (state : StorageState) :
    Prop where
  credentials : Effected calls (state.done .credential) StorageCall.credential start.credentials
    state.store.credentials
  wrappedKeys : Effected calls (state.done .wrappedKey) StorageCall.wrappedKey start.wrappedKeys
    state.store.wrappedKeys

theorem storageStep_items (distinct : (calls.map StorageCall.credentialId).Nodup)
    (kept : ItemsKept calls start state) (event : StorageEvent) :
    ItemsKept calls start (storageStep calls state event) := by
  rcases storageStep_cases calls state event with ⟨still, _⟩ | moves
  · rw [still]
    exact kept
  · generalize storageStep calls state event = after at moves ⊢
    cases moves with
    | read at_position =>
      refine ⟨?_, ?_⟩
      · rw [done_read]
        exact kept.credentials
      · rw [done_read]
        exact kept.wrappedKeys
    | @write position item call seen at_position has_read fresh =>
      refine ⟨?_, ?_⟩
      · rw [done_write]
        cases item with
        | credential => exact kept.credentials.write distinct at_position
        | wrappedKey => exact kept.credentials
        | index => exact kept.credentials
      · rw [done_write]
        cases item with
        | credential => exact kept.wrappedKeys
        | wrappedKey => exact kept.wrappedKeys.write distinct at_position
        | index => exact kept.wrappedKeys

/-! ## Whole runs -/

/-- The state after a run of accesses. -/
def afterAccesses (calls : List StorageCall) (start : CredentialStore)
    (events : List StorageEvent) : StorageState :=
  Runs.run (storageStep calls) (startOf start) events

theorem startOf_index : IndexKept calls start (startOf start) where
  stands := nofun
  untouched _ _ := rfl

theorem run_items (distinct : (calls.map StorageCall.credentialId).Nodup)
    (events : List StorageEvent) : ItemsKept calls start (afterAccesses calls start events) := by
  refine Runs.run_invariant (ItemsKept calls start) ⟨⟨?_, ?_⟩, ⟨?_, ?_⟩⟩ ?_ events
  · nofun
  · exact fun _ _ => rfl
  · nofun
  · exact fun _ _ => rfl
  · exact fun state event kept => storageStep_items distinct kept event

/-- The ids the calls together ask for: added, or listed before and left alone. -/
def Wanted (calls : List StorageCall) (start : CredentialStore) (id : String) : Prop :=
  (∃ call ∈ calls, call.credentialId = id ∧ call.isAdd = true) ∨
    id ∈ start.readIndex ∧ ∀ call ∈ calls, call.credentialId ≠ id

structure NothingLost (calls : List StorageCall) (start store : CredentialStore) : Prop where
  listed : ∀ id, id ∈ store.readIndex ↔ Wanted calls start id
  added : ∀ call ∈ calls, call.isAdd = true →
    store.credentials call.credentialId = call.credential ∧
      store.wrappedKeys call.credentialId = call.wrappedKey
  leftAlone : ∀ id, (∀ call ∈ calls, call.credentialId ≠ id) →
    store.credentials id = start.credentials id ∧ store.wrappedKeys id = start.wrappedKeys id

theorem Effected.at_call {V : Sort*} {done : Nat → Bool} {outcome : StorageCall → V}
    {before after : String → V} (effected : Effected calls done outcome before after)
    (all : ∀ position < calls.length, done position = true) {call : StorageCall}
    (member : call ∈ calls) : after call.credentialId = outcome call := by
  obtain ⟨position, at_position⟩ := List.getElem?_of_mem member
  exact effected.stands position call at_position
    (all position (List.getElem?_eq_some_iff.mp at_position).1)

theorem Effected.away {V : Sort*} {done : Nat → Bool} {outcome : StorageCall → V}
    {before after : String → V} (effected : Effected calls done outcome before after) {id : String}
    (away : ∀ call ∈ calls, call.credentialId ≠ id) : after id = before id :=
  effected.untouched id fun _ call at_position named =>
    absurd named (away call (List.mem_of_getElem? at_position))

theorem nothingLost_of_completed (index : IndexKept calls start state)
    (items : ItemsKept calls start state) (completed : Completed calls state) :
    NothingLost calls start state.store where
  listed id := by
    by_cases named : ∃ call ∈ calls, call.credentialId = id
    · obtain ⟨call, member, rfl⟩ := named
      have stands := index.at_call (fun position bound => completed position bound .index) member
      refine (iff_of_eq stands).trans ⟨fun isAdd => .inl ⟨call, member, rfl, isAdd⟩, ?_⟩
      rintro (⟨other, isOther, same, isAdd⟩ | ⟨_, away⟩)
      · have agree := index.at_call (fun position bound => completed position bound .index) isOther
        rw [same] at agree
        exact (iff_of_eq (stands.symm.trans agree)).mpr isAdd
      · exact absurd rfl (away call member)
    · have away : ∀ call ∈ calls, call.credentialId ≠ id := fun call member same =>
        named ⟨call, member, same⟩
      refine (iff_of_eq (index.away away)).trans ⟨fun before => .inr ⟨before, away⟩, ?_⟩
      rintro (⟨call, member, same, _⟩ | ⟨before, _⟩)
      · exact absurd same (away call member)
      · exact before
  added call member _ :=
    ⟨items.credentials.at_call (fun position bound => completed position bound .credential) member,
      items.wrappedKeys.at_call (fun position bound => completed position bound .wrappedKey) member⟩
  leftAlone id away := ⟨items.credentials.away away, items.wrappedKeys.away away⟩

/-- A wallet that had every listed credential and key still has, and lists exactly its ids. -/
theorem NothingLost.intact {store : CredentialStore} (nothingLost : NothingLost calls start store)
    (intact : start.Intact) : store.Intact := by
  intro id member
  rcases (nothingLost.listed id).mp member with ⟨call, isCall, rfl, isAdd⟩ | ⟨before, away⟩
  · obtain ⟨credential, wrappedKey⟩ := nothingLost.added call isCall isAdd
    cases call with
    | addCredential added key => exact ⟨⟨added, credential, rfl⟩, by rw [wrappedKey]; rfl⟩
    | removeCredential _ => cases isAdd
  · obtain ⟨credential, wrappedKey⟩ := nothingLost.leftAlone id away
    rw [credential, wrappedKey]
    exact intact id before

/-- A run in which every list is written back undisturbed ends with nothing lost; and the list is
right all along a run exactly when every write of it is undisturbed. -/
theorem undisturbed_loses_nothing (calls : List StorageCall) (start : CredentialStore)
    (events : List StorageEvent) (distinct : (calls.map StorageCall.credentialId).Nodup) :
    ((∀ past next, past ++ [next] <+: events →
        Undisturbed calls (afterAccesses calls start past) next) →
      Completed calls (afterAccesses calls start events) →
      NothingLost calls start (afterAccesses calls start events).store ∧
        (start.Intact → (afterAccesses calls start events).store.Intact ∧
          (afterAccesses calls start events).store.listCredentials.map
              WalletCredential.credentialId =
            (afterAccesses calls start events).store.readIndex)) ∧
    ((∀ past, past <+: events → IndexKept calls start (afterAccesses calls start past)) ↔
      ∀ past next, past ++ [next] <+: events →
        Undisturbed calls (afterAccesses calls start past) next) := by
  have one (past : List StorageEvent) (next : StorageEvent) :
      afterAccesses calls start (past ++ [next]) =
        storageStep calls (afterAccesses calls start past) next := Runs.run_concat ..
  have whole : (∀ past next, past ++ [next] <+: events →
      Undisturbed calls (afterAccesses calls start past) next) →
      ∀ past, past <+: events → IndexKept calls start (afterAccesses calls start past) := by
    intro undisturbed
    refine Runs.reached_induction startOf_index ?_
    intro past next reached kept
    rw [one]
    exact (storageStep_index_iff distinct kept next).mpr (undisturbed past next reached)
  refine ⟨?_, ?_, whole⟩
  · intro undisturbed completed
    have nothingLost := nothingLost_of_completed (whole undisturbed events (List.prefix_refl events))
      (run_items distinct events) completed
    refine ⟨nothingLost, fun intact => ?_⟩
    have still := nothingLost.intact intact
    exact ⟨still, still.map_listCredentials⟩
  · intro kept past next reached
    rw [← storageStep_index_iff distinct (kept past ((List.prefix_append _ _).trans reached)), ← one]
    exact kept _ reached

/-- Whether the list still is, as it stands, the one a call is about to write back. -/
def isCurrent (state : StorageState) : StorageEvent → Bool
  | .write position .index => (state.progress position).seen = some state.store.readIndex
  | _ => true

theorem undisturbed_of_isCurrent {event : StorageEvent} (current : isCurrent state event = true) :
    Undisturbed calls state event := by
  rintro position call seen ⟨rfl, _, has_read, _⟩ id _
  simp only [isCurrent, has_read, Option.some.injEq, decide_eq_true_eq] at current
  rw [current]

/-! ### Two credentials stored at once -/

def storedCredential (credentialId : String) (identified : credentialId ≠ "") : WalletCredential :=
  ⟨credentialId, none, "2026-03-01T00:00:00Z", [], identified⟩

def emptyStore : CredentialStore := ⟨none, fun _ => none, fun _ => none⟩

def twoAdds : List StorageCall :=
  [.addCredential (storedCredential "first" (by decide)) "key of first",
    .addCredential (storedCredential "second" (by decide)) "key of second"]

/-- The three writes of one call. -/
def writesOf (position : Nat) : List StorageEvent :=
  [.write position .credential, .write position .wrappedKey, .write position .index]

def oneAfterTheOther : List StorageEvent :=
  [.read 0] ++ writesOf 0 ++ [.read 1] ++ writesOf 1

theorem oneAfterTheOther_undisturbed (past : List StorageEvent) (next : StorageEvent)
    (reached : past ++ [next] <+: oneAfterTheOther) :
    Undisturbed twoAdds (afterAccesses twoAdds emptyStore past) next := by
  refine undisturbed_of_isCurrent (Runs.forall_reached
    (P := fun past next => isCurrent (afterAccesses twoAdds emptyStore past) next = true)
    ?_ past next reached)
  decide

theorem twoAdds_completed {events : List StorageEvent}
    (all : ∀ item ∈ [StoredItem.credential, .wrappedKey, .index],
      ((afterAccesses twoAdds emptyStore events).progress 0).written item = true ∧
        ((afterAccesses twoAdds emptyStore events).progress 1).written item = true) :
    Completed twoAdds (afterAccesses twoAdds emptyStore events) := by
  intro position bound item
  have both := all item (by cases item <;> decide)
  have small : position = 0 ∨ position = 1 := by
    simp only [twoAdds, List.length_cons, List.length_nil] at bound
    omega
  rcases small with rfl | rfl
  · exact both.1
  · exact both.2

theorem undisturbed_loses_nothing_at_oneAfterTheOther :
    NothingLost twoAdds emptyStore (afterAccesses twoAdds emptyStore oneAfterTheOther).store :=
  ((undisturbed_loses_nothing twoAdds emptyStore oneAfterTheOther (by decide)).1
    oneAfterTheOther_undisturbed (twoAdds_completed (by decide))).1

def bothReadFirst : List StorageEvent := [.read 0, .read 1] ++ writesOf 0 ++ writesOf 1

/-- Both calls return, and the first credential is no longer listed. -/
theorem concurrent_add_lost :
    Completed twoAdds (afterAccesses twoAdds emptyStore bothReadFirst) ∧
      (afterAccesses twoAdds emptyStore bothReadFirst).store.readIndex = ["second"] ∧
      ¬NothingLost twoAdds emptyStore (afterAccesses twoAdds emptyStore bothReadFirst).store := by
  have listed : (afterAccesses twoAdds emptyStore bothReadFirst).store.readIndex = ["second"] := by
    decide
  refine ⟨twoAdds_completed (by decide), listed, fun nothingLost => ?_⟩
  have first := (nothingLost.listed "first").mpr (.inl ⟨_, List.mem_cons_self, rfl, rfl⟩)
  rw [listed] at first
  exact absurd first (by decide)

end OwlId.Sdk
