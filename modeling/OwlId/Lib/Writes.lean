import Mathlib

/-! # Replicas kept by point writes

A replica is a function from keys to values, and an update stream is a list of
writes, each of which sets one key.  Two facts carry every argument about such a
stream: a fold of events that each write at most one key is a list of writes
(`observe_foldl`), and writes that all agree with a target produce the target
exactly when every key they leave alone had its value already (`writeAll_eq_iff`).
-/

namespace OwlId.Lib.Writes

variable {κ ν : Type*} [DecidableEq κ]

def write (view : κ → ν) (w : κ × ν) : κ → ν := Function.update view w.1 w.2

/-- The replica after the writes, in order. -/
def writeAll (view : κ → ν) (ws : List (κ × ν)) : κ → ν := ws.foldl write view

@[simp] theorem writeAll_nil (view : κ → ν) : writeAll view [] = view := rfl

@[simp] theorem writeAll_cons (view : κ → ν) (w : κ × ν) (ws : List (κ × ν)) :
    writeAll view (w :: ws) = writeAll (write view w) ws := rfl

theorem writeAll_append (view : κ → ν) (first second : List (κ × ν)) :
    writeAll view (first ++ second) = writeAll (writeAll view first) second := by
  simp [writeAll]

/-- A key that is not written keeps its value. -/
theorem writeAll_of_notMem {ws : List (κ × ν)} {k : κ} (unwritten : k ∉ ws.map Prod.fst)
    (view : κ → ν) : writeAll view ws k = view k := by
  induction ws generalizing view with
  | nil => rfl
  | cons w rest ih =>
    rw [List.map_cons, List.mem_cons, not_or] at unwritten
    rw [writeAll_cons, ih unwritten.2, write, Function.update_of_ne unwritten.1]

/-- A key that is written forgets the value it had. -/
theorem writeAll_eq_of_mem {ws : List (κ × ν)} {k : κ} (written : k ∈ ws.map Prod.fst)
    (view view' : κ → ν) : writeAll view ws k = writeAll view' ws k := by
  induction ws generalizing view view' with
  | nil => cases written
  | cons w rest ih =>
    rw [writeAll_cons, writeAll_cons]
    by_cases again : k ∈ rest.map Prod.fst
    · exact ih again _ _
    · have here : k = w.1 := by
        rw [List.map_cons, List.mem_cons] at written
        exact written.resolve_right again
      rw [writeAll_of_notMem again, writeAll_of_notMem again, write, write, here,
        Function.update_self, Function.update_self]

/-- Every write sets what the target has. -/
def Toward (target : κ → ν) (ws : List (κ × ν)) : Prop := ∀ w ∈ ws, w.2 = target w.1

theorem writeAll_of_mem {target : κ → ν} {ws : List (κ × ν)} (toward : Toward target ws) {k : κ}
    (written : k ∈ ws.map Prod.fst) (view : κ → ν) : writeAll view ws k = target k := by
  induction ws generalizing view with
  | nil => cases written
  | cons w rest ih =>
    have later : Toward target rest := fun w' member => toward w' (List.mem_cons_of_mem _ member)
    rw [writeAll_cons]
    by_cases again : k ∈ rest.map Prod.fst
    · exact ih later again _
    · -- the first write is the last one to this key
      have here : k = w.1 := by
        rw [List.map_cons, List.mem_cons] at written
        exact written.resolve_right again
      rw [writeAll_of_notMem again, write, here, Function.update_self]
      exact toward w List.mem_cons_self

theorem writeAll_eq_iff {target : κ → ν} {ws : List (κ × ν)} (toward : Toward target ws)
    (view : κ → ν) :
    writeAll view ws = target ↔ ∀ k, k ∉ ws.map Prod.fst → view k = target k := by
  constructor
  · intro reached k unwritten
    rw [← reached, writeAll_of_notMem unwritten]
  · intro kept
    funext k
    by_cases written : k ∈ ws.map Prod.fst
    · exact writeAll_of_mem toward written view
    · rw [writeAll_of_notMem written, kept k written]

/-- Every key that is written ends with what the target has. -/
def Ends (target : κ → ν) (ws : List (κ × ν)) : Prop :=
  ∀ k ∈ ws.map Prod.fst, ∀ view, writeAll view ws k = target k

/-- Later writes toward a new target, which agrees with the old one on the other keys. -/
theorem Ends.append {target target' : κ → ν} {ws ws' : List (κ × ν)} (ends : Ends target ws)
    (toward : Toward target' ws')
    (kept : ∀ k ∈ ws.map Prod.fst, k ∉ ws'.map Prod.fst → target k = target' k) :
    Ends target' (ws ++ ws') := by
  intro k written view
  rw [writeAll_append]
  by_cases later : k ∈ ws'.map Prod.fst
  · exact writeAll_of_mem toward later _
  · rw [List.map_append, List.mem_append] at written
    have earlier := written.resolve_right later
    rw [writeAll_of_notMem later, ends k earlier, kept k earlier later]

theorem Ends.tail {target : κ → ν} {first ws : List (κ × ν)} (ends : Ends target (first ++ ws)) :
    Ends target ws := by
  intro k written view
  have reached := ends k (by rw [List.map_append]; exact List.mem_append_right _ written) view
  rw [writeAll_append] at reached
  exact (writeAll_eq_of_mem written _ _).trans reached

/-- Folding events over a state, as seen through an observation of which each event writes at
most one key. -/
theorem observe_foldl {S E : Type*} {step : S → E → S} (observe : S → κ → ν)
    {writeOf : E → Option (κ × ν)}
    (stepped : ∀ s e, observe (step s e) = writeAll (observe s) (writeOf e).toList)
    (events : List E) (s : S) :
    observe (events.foldl step s) = writeAll (observe s) (events.filterMap writeOf) := by
  induction events generalizing s with
  | nil => rfl
  | cons e rest ih =>
    have split : (e :: rest).filterMap writeOf = (writeOf e).toList ++ rest.filterMap writeOf := by
      cases found : writeOf e with
      | none => simp [found]
      | some w => simp [found]
    rw [List.foldl_cons, ih, stepped, split, writeAll_append]

end OwlId.Lib.Writes
