import Mathlib

/-! # Promises

A heap of promises under the names a program gives them.  A promise derived by `then` reacts
once its source is settled; one resolved with another takes over its outcome; one without a
source is settled from outside.  What is ready may happen at any time, so the order in which
an engine runs its queue is one of those a program is proved for.
-/

namespace OwlId.Lib

inductive Settlement (V : Type) where
  | fulfilled (value : V)
  | rejected (error : V)
deriving DecidableEq

inductive PromiseState (N V : Type) where
  | waiting
  | following (other : N)
  | settled (outcome : Settlement V)

/-- The source of a derived promise comes with its handlers for the two outcomes. -/
structure Promise (N H V : Type) where
  source : Option (N × Option H × Option H)
  state : PromiseState N V

abbrev PromiseHeap (N H V : Type) := N → Option (Promise N H V)

namespace PromiseHeap

variable {N H V : Type}

def outcome (heap : PromiseHeap N H V) (name : N) : Option (Settlement V) :=
  match heap name with
  | some ⟨_, .settled outcome⟩ => some outcome
  | _ => none

def handlerFor (handlers : Option H × Option H) : Settlement V → Option H
  | .fulfilled _ => handlers.1
  | .rejected _ => handlers.2

/-- A reaction that can run: the handler, if there is one, and the outcome it is for. -/
def reaction (heap : PromiseHeap N H V) (name : N) : Option (Option H × Settlement V) :=
  match heap name with
  | some ⟨some (source, handlers), .waiting⟩ =>
    (heap.outcome source).map fun outcome => (handlerFor handlers outcome, outcome)
  | _ => none

/-- The outcome that a resolved promise can take over. -/
def adoption (heap : PromiseHeap N H V) (name : N) : Option (Settlement V) :=
  match heap name with
  | some ⟨_, .following other⟩ => heap.outcome other
  | _ => none

variable [DecidableEq N]

def put (heap : PromiseHeap N H V) (name : N) (promise : Promise N H V) : PromiseHeap N H V :=
  Function.update heap name (some promise)

/-- `source.then(onFulfilled, onRejected)`, under a new name. -/
def derive (heap : PromiseHeap N H V) (name source : N) (onFulfilled onRejected : Option H) :
    PromiseHeap N H V :=
  heap.put name ⟨some (source, onFulfilled, onRejected), .waiting⟩

def settle (heap : PromiseHeap N H V) (name : N) (outcome : Settlement V) : PromiseHeap N H V :=
  match heap name with
  | some promise => heap.put name { promise with state := .settled outcome }
  | none => heap

def resolve (heap : PromiseHeap N H V) (name other : N) : PromiseHeap N H V :=
  match heap name with
  | some promise => heap.put name { promise with state := .following other }
  | none => heap

@[simp] theorem put_self (heap : PromiseHeap N H V) (name : N) (promise : Promise N H V) :
    heap.put name promise name = some promise := Function.update_self ..

@[simp] theorem put_of_ne (heap : PromiseHeap N H V) {name other : N} (promise : Promise N H V)
    (different : other ≠ name) : heap.put name promise other = heap other :=
  Function.update_of_ne different _ _

theorem settle_of_some {heap : PromiseHeap N H V} {name : N} {promise : Promise N H V}
    (present : heap name = some promise) (outcome : Settlement V) :
    heap.settle name outcome = heap.put name { promise with state := .settled outcome } := by
  rw [settle, present]

theorem resolve_of_some {heap : PromiseHeap N H V} {name : N} {promise : Promise N H V}
    (present : heap name = some promise) (other : N) :
    heap.resolve name other = heap.put name { promise with state := .following other } := by
  rw [resolve, present]

end PromiseHeap

end OwlId.Lib
