import Mathlib

/-! # Runs of a deterministic transition system

A run folds a step function over a list of inputs.  The rules below are the only
inductions the state-machine results need: an invariant that may mention the
inputs consumed so far (`run_history`), its special case for an invariant of the
state alone (`run_invariant`), and what holds in every state reached when each
step meets a condition (`reached_induction`).
-/

namespace OwlId.Lib.Runs

variable {S A : Type*} (step : S → A → S)

/-- The state after consuming the inputs in order. -/
def run (start : S) (inputs : List A) : S := inputs.foldl step start

@[simp] theorem run_nil (start : S) : run step start [] = start := rfl

@[simp] theorem run_concat (start : S) (inputs : List A) (input : A) :
    run step start (inputs ++ [input]) = step (run step start inputs) input := by
  simp [run]

theorem run_append (start : S) (first second : List A) :
    run step start (first ++ second) = run step (run step start first) second := by
  simp [run]

variable {step}

/-- Invariants of a state together with the history that led to it. -/
theorem run_history (Inv : List A → S → Prop) {start : S} (init : Inv [] start)
    (preserved : ∀ history state input,
      Inv history state → Inv (history ++ [input]) (step state input))
    (inputs : List A) : Inv inputs (run step start inputs) := by
  induction inputs using List.reverseRecOn with
  | nil => exact init
  | append_singleton history input ih =>
    rw [run_concat]
    exact preserved history _ input ih

/-- Invariants of the state alone. -/
theorem run_invariant (Inv : S → Prop) {start : S} (init : Inv start)
    (preserved : ∀ state input, Inv state → Inv (step state input)) (inputs : List A) :
    Inv (run step start inputs) :=
  run_history (fun _ state => Inv state) init
    (fun _ state input => preserved state input) inputs

/-! ## Beginnings of a run -/

/-- What holds at the start, and after each step of the run if it held before it, holds of every
    beginning of the run. -/
theorem reached_induction {α : Type*} {P : List α → Prop} {inputs : List α} (init : P [])
    (step : ∀ past next, past ++ [next] <+: inputs → P past → P (past ++ [next])) :
    ∀ past, past <+: inputs → P past := by
  intro past
  induction past using List.reverseRecOn with
  | nil => exact fun _ => init
  | append_singleton past next ih =>
    intro reached
    exact step past next reached (ih ((List.prefix_append past [next]).trans reached))

/-- The steps of a run by their position. -/
theorem forall_reached {α : Type*} {P : List α → α → Prop} {inputs : List α}
    (each : ∀ (n : Nat) (bound : n < inputs.length), P (inputs.take n) inputs[n]) (past : List α)
    (next : α) (reached : past ++ [next] <+: inputs) : P past next := by
  obtain ⟨rest, rfl⟩ := reached
  simpa using each past.length (by simp)

/-! ## Positions in a history -/

/-- What holds at each occurrence of an event in a history still holds after more events, if it
    holds where the event occurs anew. -/
theorem forall_split_append_cons {α : Type*} {P : List α → Prop} {event next : α}
    {history later : List α} (earlier : ∀ pre post, history = pre ++ event :: post → P pre)
    (here : next = event → P history) (absent : event ∉ later) (pre post : List α)
    (split : history ++ next :: later = pre ++ event :: post) : P pre := by
  rcases List.append_eq_append_iff.mp split with ⟨rest, rfl, tail⟩ | ⟨rest, rfl, tail⟩
  · cases rest with
    | nil =>
      rw [List.append_nil]
      exact here (List.cons.inj tail).1
    | cons other rest =>
      have occurs : event ∈ later := by
        rw [(List.cons.inj tail).2]
        exact List.mem_append_right rest List.mem_cons_self
      exact absurd occurs absent
  · cases rest with
    | nil =>
      rw [List.append_nil] at here
      exact here (List.cons.inj tail).1.symm
    | cons other rest =>
      obtain rfl : event = other := (List.cons.inj tail).1
      exact earlier pre rest rfl

end OwlId.Lib.Runs
