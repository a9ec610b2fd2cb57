import Mathlib
import OwlId.Lib.Runs

/-! # The relay batcher

Proven transactions are buffered until the buffer is full or its timer fires, and then flushed as
one.  When a flush of several fails, each of them is flushed on its own, so that one that is
invalid does not take the others with it.

Each call of `flushNow` goes on by itself, so the state keeps one record for each batch: what is in
it, and what its flushes have come to.  `relay_batcher_safe` holds after every sequence of submits,
timer firings and flush results.
-/

namespace OwlId.Sidecar

open OwlId.Lib

/-- An item and the pair of functions that settles its promise; the pair is its position among the
    submits. -/
structure BatchItem (T : Type) where
  id : Nat
  tx : T
deriving DecidableEq

/-- How far a call of `flushNow` has come. -/
inductive BatchPhase (Err : Type) where
  | flushing
  | resolved (chainTxId : String)
  | rejected (e : Err)
  /-- The flush of all failed; what the flushes of each have come to. -/
  | isolating (e : Err) (answers : List (Option (Except Err String)))

structure Batch (T Err : Type) where
  items : List (BatchItem T)
  phase : BatchPhase Err

structure RelayBatcher (T Err : Type) where
  buf : List (BatchItem T)
  timer : Bool
  batches : List (Batch T Err)
  /-- History: what has been submitted, and the calls of `resolve` and `reject`. -/
  submitted : List (BatchItem T)
  settled : List (Nat × Except Err String)

inductive BatcherStep (T Err : Type) where
  | submit (tx : T)
  | timerFires
  | flushed (batch : Nat) (result : Except Err String)
  /-- The flush of one item of a batch that failed. -/
  | flushedAlone (batch item : Nat) (result : Except Err String)

section

variable {T Err : Type}

namespace RelayBatcher

def empty : RelayBatcher T Err := ⟨[], false, [], [], []⟩

def flushNow (b : RelayBatcher T Err) : RelayBatcher T Err :=
  if b.buf.isEmpty then { b with timer := false }
  else { b with timer := false, buf := [], batches := b.batches ++ [⟨b.buf, .flushing⟩] }

def submit (maxBatch : Nat) (b : RelayBatcher T Err) (tx : T) : RelayBatcher T Err :=
  let item : BatchItem T := ⟨b.submitted.length, tx⟩
  let pushed := { b with buf := b.buf ++ [item], submitted := b.submitted ++ [item] }
  if maxBatch ≤ pushed.buf.length then pushed.flushNow else { pushed with timer := true }

/-- The flush of a whole batch returns or throws. -/
def flushed (b : RelayBatcher T Err) (i : Nat) (batch : Batch T Err) :
    Except Err String → RelayBatcher T Err
  | .ok chainTxId =>
    { b with
      batches := b.batches.set i { batch with phase := .resolved chainTxId }
      settled := b.settled ++ batch.items.map fun item => (item.id, .ok chainTxId) }
  | .error e =>
    if batch.items.length = 1 then
      { b with
        batches := b.batches.set i { batch with phase := .rejected e }
        settled := b.settled ++ batch.items.map fun item => (item.id, .error e) }
    else
      { b with
        batches := b.batches.set i
          { batch with phase := .isolating e (batch.items.map fun _ => none) } }

/-- The flush of one item returns or throws. -/
def flushedAlone (b : RelayBatcher T Err) (i : Nat) (batch : Batch T Err) (e : Err)
    (answers : List (Option (Except Err String))) (k : Nat) (item : BatchItem T)
    (result : Except Err String) : RelayBatcher T Err :=
  { b with
    batches := b.batches.set i { batch with phase := .isolating e (answers.set k (some result)) }
    settled := b.settled ++ [(item.id, result)] }

def step (maxBatch : Nat) (b : RelayBatcher T Err) : BatcherStep T Err → RelayBatcher T Err
  | .submit tx => b.submit maxBatch tx
  | .timerFires => if b.timer then b.flushNow else b
  | .flushed i result =>
    match b.batches[i]? with
    | some ⟨items, .flushing⟩ => b.flushed i ⟨items, .flushing⟩ result
    | _ => b
  | .flushedAlone i k result =>
    match b.batches[i]? with
    | some ⟨items, .isolating e answers⟩ =>
      match items[k]?, answers[k]? with
      | some item, some none =>
        b.flushedAlone i ⟨items, .isolating e answers⟩ e answers k item result
      | _, _ => b
    | _ => b

end RelayBatcher

def batcherRun (maxBatch : Nat) (steps : List (BatcherStep T Err)) : RelayBatcher T Err :=
  Runs.run (RelayBatcher.step maxBatch) RelayBatcher.empty steps

/-! ## The flushes of a batch -/

namespace Batch

/-- The calls of `flush`, with what they have come to. -/
def flushes (batch : Batch T Err) : List (List (BatchItem T) × Option (Except Err String)) :=
  match batch.phase with
  | .flushing => [(batch.items, none)]
  | .resolved chainTxId => [(batch.items, some (.ok chainTxId))]
  | .rejected e => [(batch.items, some (.error e))]
  | .isolating e answers =>
    (batch.items, some (.error e)) ::
      (batch.items.zip answers).map fun (item, answer) => ([item], answer)

/-- What the promises of its items have settled with. -/
def settled (batch : Batch T Err) : List (Nat × Except Err String) :=
  match batch.phase with
  | .flushing => []
  | .resolved chainTxId => batch.items.map fun item => (item.id, .ok chainTxId)
  | .rejected e => batch.items.map fun item => (item.id, .error e)
  | .isolating _ answers =>
    (batch.items.zip answers).filterMap fun (item, answer) => answer.map fun result =>
      (item.id, result)

/-- A batch that is rejected as a whole has one item; otherwise each item has its own flush. -/
def WellFormed (batch : Batch T Err) : Prop :=
  match batch.phase with
  | .rejected _ => batch.items.length = 1
  | .isolating _ answers => answers.length = batch.items.length
  | _ => True

end Batch

/-! ## What a step adds -/

theorem flatMap_set {α β : Type*} {f : α → List β} : ∀ {l : List α} {i : Nat} {a a' : α},
    l[i]? = some a → f a' = f a → (l.set i a').flatMap f = l.flatMap f
  | [], _, _, _, here, _ => by cases here
  | _ :: l, 0, _, _, here, same => by
    cases here
    simp [same]
  | x :: l, i + 1, _, _, here, same => by
    have rest := flatMap_set (l := l) (f := f) here same
    simp [rest]

theorem perm_flatMap_set {α β : Type*} {f : α → List β} {new : List β} :
    ∀ {l : List α} {i : Nat} {a a' : α}, l[i]? = some a → (f a').Perm (f a ++ new) →
      ((l.set i a').flatMap f).Perm (l.flatMap f ++ new)
  | [], _, _, _, here, _ => by cases here
  | _ :: l, 0, a, a', here, adds => by
    cases here
    simp only [List.set_cons_zero, List.flatMap_cons, List.append_assoc]
    refine (adds.append_right (l.flatMap f)).trans ?_
    rw [List.append_assoc]
    exact List.perm_append_comm.append_left _
  | x :: l, i + 1, _, _, here, adds => by
    have rest := perm_flatMap_set (l := l) (f := f) here adds
    simp only [List.set_cons_succ, List.flatMap_cons, List.append_assoc]
    exact rest.append_left (f x)

theorem settled_unanswered : ∀ items : List (BatchItem T),
    ((items.zip (items.map fun _ => (none : Option (Except Err String)))).filterMap
      fun (item, answer) => answer.map fun result => (item.id, result)) = []
  | [] => rfl
  | _ :: items => settled_unanswered items

/-- The answer of one item's flush settles its promise, and no other. -/
theorem settled_answered {item : BatchItem T} {result : Except Err String} :
    ∀ (items : List (BatchItem T)) (answers : List (Option (Except Err String))) (k : Nat),
      items[k]? = some item → answers[k]? = some none →
        ((items.zip (answers.set k (some result))).filterMap fun (item, answer) =>
            answer.map fun result => (item.id, result)).Perm
          (((items.zip answers).filterMap fun (item, answer) =>
            answer.map fun result => (item.id, result)) ++ [(item.id, result)])
  | [], _, _, here, _ => by cases here
  | _ :: _, [], _, _, unanswered => by cases unanswered
  | first :: items, answer :: answers, 0, here, unanswered => by
    cases here
    cases unanswered
    exact @List.perm_append_comm _ [(item.id, result)] _
  | first :: items, answer :: answers, k + 1, here, unanswered => by
    simp only [List.set_cons_succ, List.zip_cons_cons, List.filterMap_cons]
    split
    · exact settled_answered items answers k here unanswered
    · exact (settled_answered items answers k here unanswered).cons _

/-! ## The invariant -/

namespace RelayBatcher

structure Inv (maxBatch : Nat) (b : RelayBatcher T Err) : Prop where
  runs : b.batches.flatMap Batch.items ++ b.buf = b.submitted
  ids : b.submitted.map BatchItem.id = List.range b.submitted.length
  sizes : ∀ batch ∈ b.batches, 0 < batch.items.length ∧ batch.items.length ≤ maxBatch
  room : b.buf.length < maxBatch
  timer : b.buf ≠ [] → b.timer = true
  wellFormed : ∀ batch ∈ b.batches, batch.WellFormed
  settled : b.settled.Perm (b.batches.flatMap Batch.settled)

variable {maxBatch : Nat} {b : RelayBatcher T Err}

/-- The buffer, of any size up to the bound, becomes the next batch. -/
theorem inv_flushNow (positive : 0 < maxBatch)
    (runs : b.batches.flatMap Batch.items ++ b.buf = b.submitted)
    (ids : b.submitted.map BatchItem.id = List.range b.submitted.length)
    (sizes : ∀ batch ∈ b.batches, 0 < batch.items.length ∧ batch.items.length ≤ maxBatch)
    (fits : b.buf.length ≤ maxBatch) (wellFormed : ∀ batch ∈ b.batches, batch.WellFormed)
    (settled : b.settled.Perm (b.batches.flatMap Batch.settled)) : b.flushNow.Inv maxBatch := by
  unfold flushNow
  split
  · rename_i isEmpty
    have empty := List.isEmpty_iff.mp isEmpty
    exact ⟨runs, ids, sizes, by simpa [empty] using positive, fun filled => absurd empty filled,
      wellFormed, settled⟩
  · rename_i filled
    have nonempty : 0 < b.buf.length :=
      List.length_pos_of_ne_nil fun empty => filled (by simp [empty])
    refine ⟨?_, ids, ?_, positive, fun filled => absurd rfl filled, ?_, ?_⟩
    · simpa [List.flatMap_append] using runs
    · intro batch member
      rcases List.mem_append.mp member with before | new
      · exact sizes batch before
      · obtain rfl := List.mem_singleton.mp new
        exact ⟨nonempty, fits⟩
    · intro batch member
      rcases List.mem_append.mp member with before | new
      · exact wellFormed batch before
      · obtain rfl := List.mem_singleton.mp new
        trivial
    · simpa [List.flatMap_append, Batch.settled] using settled

theorem inv_submit (positive : 0 < maxBatch) (inv : b.Inv maxBatch) (tx : T) :
    (b.submit maxBatch tx).Inv maxBatch := by
  have runs : b.batches.flatMap Batch.items ++ (b.buf ++ [⟨b.submitted.length, tx⟩]) =
      b.submitted ++ [⟨b.submitted.length, tx⟩] := by
    rw [← List.append_assoc, inv.runs]
  have ids : (b.submitted ++ [(⟨b.submitted.length, tx⟩ : BatchItem T)]).map BatchItem.id =
      List.range (b.submitted ++ [(⟨b.submitted.length, tx⟩ : BatchItem T)]).length := by
    simp [inv.ids, List.range_succ]
  have room := inv.room
  unfold submit
  dsimp only
  split
  · exact inv_flushNow positive runs ids inv.sizes (by simp; omega) inv.wellFormed inv.settled
  · rename_i short
    exact ⟨runs, ids, inv.sizes, Nat.lt_of_not_le short, fun _ => rfl, inv.wellFormed,
      inv.settled⟩

/-- A batch goes on: it keeps its items, and what settles is added to what has settled. -/
theorem Inv.advanced (inv : b.Inv maxBatch) {i : Nat} {batch batch' : Batch T Err}
    {new : List (Nat × Except Err String)} (here : b.batches[i]? = some batch)
    (same : batch'.items = batch.items) (wellFormed : batch'.WellFormed)
    (adds : batch'.settled.Perm (batch.settled ++ new)) :
    { b with batches := b.batches.set i batch', settled := b.settled ++ new }.Inv maxBatch := by
  have member := List.mem_of_getElem? here
  refine ⟨?_, inv.ids, ?_, inv.room, inv.timer, ?_, ?_⟩
  · show (b.batches.set i batch').flatMap Batch.items ++ b.buf = b.submitted
    rw [flatMap_set here same]
    exact inv.runs
  · intro other there
    rcases List.mem_or_eq_of_mem_set there with before | rfl
    · exact inv.sizes other before
    · rw [same]
      exact inv.sizes batch member
  · intro other there
    rcases List.mem_or_eq_of_mem_set there with before | rfl
    · exact inv.wellFormed other before
    · exact wellFormed
  · exact (inv.settled.append_right new).trans (perm_flatMap_set here adds).symm

theorem inv_flushed (inv : b.Inv maxBatch) {i : Nat} {items : List (BatchItem T)}
    (here : b.batches[i]? = some ⟨items, .flushing⟩) (result : Except Err String) :
    (b.flushed i ⟨items, .flushing⟩ result).Inv maxBatch := by
  cases result with
  | ok chainTxId => exact inv.advanced here rfl trivial (List.Perm.refl _)
  | error e =>
    unfold flushed
    dsimp only
    split
    · rename_i alone
      exact inv.advanced here rfl alone (List.Perm.refl _)
    · have started : { b with
          batches := b.batches.set i ⟨items, .isolating e (items.map fun _ => none)⟩
          settled := b.settled ++ [] }.Inv maxBatch :=
        inv.advanced here rfl (by simp [Batch.WellFormed])
          (List.Perm.of_eq (settled_unanswered items))
      simpa using started

theorem inv_flushedAlone (inv : b.Inv maxBatch) {i k : Nat} {items : List (BatchItem T)} {e : Err}
    {answers : List (Option (Except Err String))} {item : BatchItem T}
    (here : b.batches[i]? = some ⟨items, .isolating e answers⟩) (at' : items[k]? = some item)
    (unanswered : answers[k]? = some none) (result : Except Err String) :
    (b.flushedAlone i ⟨items, .isolating e answers⟩ e answers k item result).Inv maxBatch := by
  have wellFormed := inv.wellFormed _ (List.mem_of_getElem? here)
  refine inv.advanced here rfl ?_ (settled_answered items answers k at' unanswered)
  simpa [Batch.WellFormed] using wellFormed

theorem inv_step (positive : 0 < maxBatch) (inv : b.Inv maxBatch) (input : BatcherStep T Err) :
    (b.step maxBatch input).Inv maxBatch := by
  cases input with
  | submit tx => exact inv_submit positive inv tx
  | timerFires =>
    rw [step]
    split
    · exact inv_flushNow positive inv.runs inv.ids inv.sizes inv.room.le inv.wellFormed inv.settled
    · exact inv
  | flushed i result =>
    rw [step]
    split
    · rename_i items here
      exact inv_flushed inv here result
    · exact inv
  | flushedAlone i k result =>
    rw [step]
    split
    · rename_i items e answers here
      split
      · rename_i item at' unanswered
        exact inv_flushedAlone inv here at' unanswered result
      · exact inv
    · exact inv

theorem inv_run (positive : 0 < maxBatch) (steps : List (BatcherStep T Err)) :
    (batcherRun maxBatch steps).Inv maxBatch := by
  have start : (empty : RelayBatcher T Err).Inv maxBatch := by
    refine ⟨rfl, rfl, ?_, positive, fun filled => absurd rfl filled, ?_, List.Perm.refl _⟩
    · intro batch member
      cases member
    · intro batch member
      cases member
  exact Runs.run_invariant (Inv maxBatch) start (fun b input inv => inv_step positive inv input)
    steps

end RelayBatcher

/-! ## What has settled -/

namespace Batch

variable {batch : Batch T Err} {id : Nat} {result : Except Err String}

/-- What has settled is the outcome of a flush that the item was in. -/
theorem mem_settled (settled : (id, result) ∈ batch.settled) :
    ∃ item ∈ batch.items, item.id = id ∧
      ∃ flush ∈ batch.flushes, item ∈ flush.1 ∧ flush.2 = some result := by
  unfold Batch.settled at settled
  unfold flushes
  split at settled
  · cases settled
  · obtain ⟨item, member, same⟩ := List.mem_map.mp settled
    cases same
    exact ⟨item, member, rfl, _, List.mem_cons_self, member, rfl⟩
  · obtain ⟨item, member, same⟩ := List.mem_map.mp settled
    cases same
    exact ⟨item, member, rfl, _, List.mem_cons_self, member, rfl⟩
  · rename_i e answers phase
    obtain ⟨⟨item, answer⟩, paired, same⟩ := List.mem_filterMap.mp settled
    obtain ⟨result, rfl, same⟩ := Option.map_eq_some_iff.mp same
    cases same
    exact ⟨item, (List.of_mem_zip paired).1, rfl, ([item], some result),
      List.mem_cons_of_mem _ (List.mem_map.mpr ⟨_, paired, rfl⟩), List.mem_cons_self, rfl⟩

/-- In a batch of several, an item is rejected by its own flush. -/
theorem rejected_alone (wellFormed : batch.WellFormed) (several : 2 ≤ batch.items.length) {e : Err}
    (settled : (id, .error e) ∈ batch.settled) :
    ∃ item ∈ batch.items, item.id = id ∧ ([item], some (.error e)) ∈ batch.flushes := by
  unfold WellFormed at wellFormed
  unfold Batch.settled at settled
  unfold flushes
  split at settled
  · cases settled
  · obtain ⟨item, _, same⟩ := List.mem_map.mp settled
    cases same
  · rename_i e' phase
    rw [phase] at wellFormed
    dsimp only at wellFormed
    omega
  · rename_i e' answers phase
    obtain ⟨⟨item, answer⟩, paired, same⟩ := List.mem_filterMap.mp settled
    obtain ⟨result, rfl, same⟩ := Option.map_eq_some_iff.mp same
    cases same
    exact ⟨item, (List.of_mem_zip paired).1, rfl,
      List.mem_cons_of_mem _ (List.mem_map.mpr ⟨_, paired, rfl⟩)⟩

theorem settled_ids_sublist : ∀ (items : List (BatchItem T))
    (answers : List (Option (Except Err String))),
    (((items.zip answers).filterMap fun (item, answer) =>
      answer.map fun result => (item.id, result)).map Prod.fst).Sublist (items.map BatchItem.id)
  | [], _ => by simp
  | _ :: _, [] => by simp
  | item :: items, none :: answers => (settled_ids_sublist items answers).cons item.id
  | item :: items, some _ :: answers => (settled_ids_sublist items answers).cons_cons item.id

theorem settled_sublist (batch : Batch T Err) :
    (batch.settled.map Prod.fst).Sublist (batch.items.map BatchItem.id) := by
  unfold Batch.settled
  split
  · exact List.nil_sublist _
  · simp [Function.comp_def]
  · simp [Function.comp_def]
  · exact settled_ids_sublist batch.items _

/-- An item has settled once the flushes it is in have. -/
theorem settled_of_answered (wellFormed : batch.WellFormed) {item : BatchItem T}
    (member : item ∈ batch.items)
    (answered : ∀ flush ∈ batch.flushes, item ∈ flush.1 → flush.2.isSome) :
    item.id ∈ batch.settled.map Prod.fst := by
  unfold WellFormed at wellFormed
  unfold flushes at answered
  unfold Batch.settled
  split at answered
  · cases answered _ List.mem_cons_self member
  · exact List.mem_map.mpr ⟨_, List.mem_map_of_mem member, rfl⟩
  · exact List.mem_map.mpr ⟨_, List.mem_map_of_mem member, rfl⟩
  · rename_i e answers phase
    rw [phase] at wellFormed
    rw [← List.map_fst_zip wellFormed.ge] at member
    obtain ⟨⟨_, answer⟩, paired, rfl⟩ := List.mem_map.mp member
    have settled := answered _ (List.mem_cons_of_mem _ (List.mem_map_of_mem paired))
      List.mem_cons_self
    obtain ⟨result, rfl⟩ := Option.isSome_iff_exists.mp settled
    exact List.mem_map.mpr ⟨(_, result), List.mem_filterMap.mpr ⟨_, paired, rfl⟩, rfl⟩

end Batch

namespace RelayBatcher

variable {maxBatch : Nat} {b : RelayBatcher T Err}

/-- No two items of all batches have one id. -/
theorem Inv.nodup (inv : b.Inv maxBatch) :
    (b.batches.flatMap fun batch => batch.items.map BatchItem.id).Nodup := by
  have flushed : (b.batches.flatMap Batch.items).Sublist b.submitted := by
    rw [← inv.runs]
    exact List.sublist_append_left _ _
  have range : (b.submitted.map BatchItem.id).Nodup := by
    rw [inv.ids]
    exact List.nodup_range
  rw [← List.map_flatMap]
  exact range.sublist (flushed.map BatchItem.id)

theorem submitted_flushNow (b : RelayBatcher T Err) : b.flushNow.submitted = b.submitted := by
  unfold flushNow
  split <;> rfl

theorem buf_flushNow (b : RelayBatcher T Err) : b.flushNow.buf = [] := by
  unfold flushNow
  split
  · rename_i isEmpty
    exact List.isEmpty_iff.mp isEmpty
  · rfl

theorem Inv.fires (inv : b.Inv maxBatch) (positive : 0 < maxBatch) :
    (b.step maxBatch .timerFires).batches.flatMap Batch.items = b.submitted := by
  have runs := (inv_step positive inv .timerFires).runs
  rw [step] at runs ⊢
  split at runs
  · rename_i pending
    rw [if_pos pending]
    rwa [buf_flushNow, List.append_nil, submitted_flushNow] at runs
  · rename_i idle
    rw [if_neg idle]
    have flushed : b.buf = [] := by
      by_contra filled
      exact idle (inv.timer filled)
    rwa [flushed, List.append_nil] at runs

theorem settled_flatMap_sublist : ∀ batches : List (Batch T Err),
    ((batches.flatMap Batch.settled).map Prod.fst).Sublist
      (batches.flatMap fun batch => batch.items.map BatchItem.id)
  | [] => List.Sublist.refl _
  | batch :: batches => by
    simp only [List.flatMap_cons, List.map_append]
    exact batch.settled_sublist.append (settled_flatMap_sublist batches)

/-- Each promise settles at most once. -/
theorem Inv.nodup_settled (inv : b.Inv maxBatch) : (b.settled.map Prod.fst).Nodup :=
  ((inv.settled.map Prod.fst).nodup_iff).mpr (inv.nodup.sublist (settled_flatMap_sublist b.batches))

/-- The batch of an item is determined by the item's id. -/
theorem Inv.same_batch (inv : b.Inv maxBatch) {batch batch' : Batch T Err}
    (member : batch ∈ b.batches) (member' : batch' ∈ b.batches) {id : Nat}
    (listed : id ∈ batch.items.map BatchItem.id) (listed' : id ∈ batch'.items.map BatchItem.id) :
    batch = batch' := by
  by_contra different
  have apart := (List.nodup_flatMap.mp inv.nodup).2
  have symmetric : Std.Symm (Function.onFun List.Disjoint
      fun batch : Batch T Err => batch.items.map BatchItem.id) :=
    ⟨fun _ _ disjoint => disjoint.symm⟩
  exact apart.forall member member' different listed listed'

theorem Inv.same_item (inv : b.Inv maxBatch) {batch : Batch T Err} (member : batch ∈ b.batches)
    {item item' : BatchItem T} (listed : item ∈ batch.items) (listed' : item' ∈ batch.items)
    (same : item.id = item'.id) : item = item' :=
  List.inj_on_of_nodup_map ((List.nodup_flatMap.mp inv.nodup).1 batch member) listed listed' same

end RelayBatcher

/-- What holds in a state of the batcher. -/
structure BatcherSafe (maxBatch : Nat) (b : RelayBatcher T Err) : Prop where
  /-- The batches and the buffer are what has been submitted, in this order; the items are all
      different. -/
  runs : b.batches.flatMap Batch.items ++ b.buf = b.submitted
  distinct : (b.submitted.map BatchItem.id).Nodup
  sizes : ∀ batch ∈ b.batches, 0 < batch.items.length ∧ batch.items.length ≤ maxBatch
  timer : b.buf ≠ [] → b.timer = true
  /-- What the buffer still holds the timer puts into a batch. -/
  fires : (b.step maxBatch .timerFires).batches.flatMap Batch.items = b.submitted
  /-- A promise is settled at most once, and is settled when the flushes of its item are. -/
  once : ∀ id, (b.settled.map Prod.fst).count id ≤ 1
  settles : ∀ batch ∈ b.batches, ∀ item ∈ batch.items,
    (∀ flush ∈ batch.flushes, item ∈ flush.1 → flush.2.isSome) →
      (b.settled.map Prod.fst).count item.id = 1
  /-- It settles with what a flush of its item has come to. -/
  outcomes : ∀ id result, (id, result) ∈ b.settled → ∃ batch ∈ b.batches, ∃ item ∈ batch.items,
    item.id = id ∧ ∃ flush ∈ batch.flushes, item ∈ flush.1 ∧ flush.2 = some result
  isolated : ∀ batch ∈ b.batches, 2 ≤ batch.items.length → ∀ item ∈ batch.items, ∀ e,
    (item.id, .error e) ∈ b.settled → ([item], some (.error e)) ∈ batch.flushes

/-- After any number of submits, timer firings and flush results, in any order. -/
theorem relay_batcher_safe (maxBatch : Nat) (positive : 0 < maxBatch)
    (steps : List (BatcherStep T Err)) : BatcherSafe maxBatch (batcherRun maxBatch steps) := by
  have inv : (batcherRun maxBatch steps).Inv maxBatch := RelayBatcher.inv_run positive steps
  have settledIn {id : Nat} {result : Except Err String}
      (settled : (id, result) ∈ (batcherRun maxBatch steps).settled) :
      ∃ batch ∈ (batcherRun maxBatch steps).batches, (id, result) ∈ batch.settled :=
    List.mem_flatMap.mp (inv.settled.mem_iff.mp settled)
  refine ⟨inv.runs, ?_, inv.sizes, inv.timer, inv.fires positive, ?_, ?_, ?_, ?_⟩
  · rw [inv.ids]
    exact List.nodup_range
  · exact List.nodup_iff_count_le_one.mp inv.nodup_settled
  · intro batch member item listed answered
    refine List.count_eq_one_of_mem inv.nodup_settled ?_
    obtain ⟨⟨_, result⟩, settled, rfl⟩ := List.mem_map.mp
      (Batch.settled_of_answered (inv.wellFormed batch member) listed answered)
    exact List.mem_map.mpr
      ⟨_, inv.settled.mem_iff.mpr (List.mem_flatMap.mpr ⟨batch, member, settled⟩), rfl⟩
  · intro id result settled
    obtain ⟨batch, member, settled⟩ := settledIn settled
    exact ⟨batch, member, Batch.mem_settled settled⟩
  · intro batch member several item listed e settled
    obtain ⟨batch', member', settled⟩ := settledIn settled
    obtain ⟨_, listed', same, _⟩ := Batch.mem_settled settled
    obtain rfl : batch = batch' := inv.same_batch member member' (List.mem_map_of_mem listed)
      (same ▸ List.mem_map_of_mem listed')
    obtain ⟨item', listed', same, flushed⟩ :=
      Batch.rejected_alone (inv.wellFormed batch member) several settled
    rwa [inv.same_item member listed' listed same] at flushed

/-- Two are flushed as one at the bound of two and that fails; of their own flushes the first one
    succeeds. -/
theorem relay_batcher_safe_at_poison :
    BatcherSafe 2 (batcherRun 2 [.submit "good", .submit "poison", .flushed 0 (.error "merge"),
      .flushedAlone 0 0 (.ok "tx1"), .flushedAlone 0 1 (.error "invalid")] :
        RelayBatcher String String) ∧
    (batcherRun 2 [.submit "good", .submit "poison", .flushed 0 (.error "merge"),
      .flushedAlone 0 0 (.ok "tx1"), .flushedAlone 0 1 (.error "invalid")]).settled =
        [(0, .ok "tx1"), (1, .error "invalid")] :=
  ⟨relay_batcher_safe 2 (by decide) _, rfl⟩

end

end OwlId.Sidecar
