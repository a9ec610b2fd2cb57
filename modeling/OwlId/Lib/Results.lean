import Mathlib

/-! # Computations that may fail

`ensure` is a check that stops a computation with an error, and the lemmas below
peel a successful `do` block apart one line at a time: a caller never unfolds
the bind of `Except`.
-/

namespace OwlId.Lib

variable {ε α β : Type}

/-- Continue when the condition holds, stop with the error otherwise. -/
def ensure (condition : Prop) [Decidable condition] (error : ε) : Except ε Unit :=
  if condition then .ok () else .error error

@[simp] theorem ensure_eq_ok {condition : Prop} [Decidable condition] {error : ε}
    {u : Unit} : ensure condition error = .ok u ↔ condition := by
  by_cases holds : condition <;> simp [ensure, holds]

@[simp] theorem bind_eq_ok {first : Except ε α} {rest : α → Except ε β} {result : β} :
    (first >>= rest) = .ok result ↔ ∃ a, first = .ok a ∧ rest a = .ok result := by
  cases first with
  | error e => simp [bind, Except.bind]
  | ok a => simp [bind, Except.bind]

@[simp] theorem pure_eq_ok {a result : α} :
    (pure a : Except ε α) = .ok result ↔ a = result := by
  simp [pure, Except.pure]

/-- `Option::ok_or`. -/
def okOr (value : Option α) (error : ε) : Except ε α :=
  match value with
  | some a => .ok a
  | none => .error error

@[simp] theorem okOr_eq_ok {value : Option α} {error : ε} {a : α} :
    okOr value error = .ok a ↔ value = some a := by
  cases value <;> simp [okOr]

/-- `Result::map_err`. -/
def mapErr {ε' : Type} (f : ε → ε') : Except ε α → Except ε' α
  | .ok a => .ok a
  | .error e => .error (f e)

@[simp] theorem mapErr_eq_ok {ε' : Type} {f : ε → ε'} {result : Except ε α} {a : α} :
    mapErr f result = .ok a ↔ result = .ok a := by
  cases result <;> simp [mapErr]

/-! ## Loops -/

/-- A loop that maps succeeds exactly when every round does. -/
theorem mapM_eq_ok {f : α → Except ε β} {inputs : List α} {results : List β} :
    inputs.mapM f = .ok results ↔ List.Forall₂ (fun a b => f a = .ok b) inputs results := by
  induction inputs generalizing results with
  | nil =>
    rw [List.mapM_nil, pure_eq_ok, List.forall₂_nil_left_iff]
    exact eq_comm
  | cons a rest ih =>
    simp only [List.mapM_cons, bind_eq_ok, pure_eq_ok, ih]
    constructor
    · rintro ⟨b, head, tail, others, rfl⟩
      exact .cons head others
    · intro rounds
      cases rounds with
      | cons head others => exact ⟨_, head, _, others, rfl⟩

/-- A loop whose rounds all succeed returns their results, in the order of the inputs. -/
theorem exists_mapM_eq_ok {f : α → Except ε β} {key : β → α} {good : β → Prop} {inputs : List α}
    (rounds : ∀ a ∈ inputs, ∃ b, f a = .ok b ∧ key b = a ∧ good b) :
    ∃ results, inputs.mapM f = .ok results ∧ results.map key = inputs ∧
      ∀ b ∈ results, good b := by
  induction inputs with
  | nil => exact ⟨[], rfl, rfl, by simp⟩
  | cons a rest ih =>
    obtain ⟨b, round, keyed, fits⟩ := rounds a List.mem_cons_self
    obtain ⟨others, loop, keys, all⟩ := ih fun a' later => rounds a' (List.mem_cons_of_mem a later)
    refine ⟨b :: others, ?_, by rw [List.map_cons, keyed, keys], ?_⟩
    · rw [List.mapM_cons, round, loop]
      rfl
    · exact List.forall_mem_cons.mpr ⟨fits, all⟩

/-- What every round of a successful loop preserves holds after it. -/
theorem foldlM_invariant {f : β → α → Except ε β} (Inv : List α → β → Prop) {start final : β}
    {inputs : List α} (init : Inv [] start)
    (preserved : ∀ done acc a acc', f acc a = .ok acc' → Inv done acc → Inv (done ++ [a]) acc')
    (returns : inputs.foldlM f start = .ok final) : Inv inputs final := by
  suffices general : ∀ (rest done : List α) (acc : β), Inv done acc →
      rest.foldlM f acc = .ok final → Inv (done ++ rest) final by
    simpa using general inputs [] start init returns
  intro rest
  induction rest with
  | nil =>
    intro done acc inv last
    simp only [List.foldlM_nil, pure_eq_ok] at last
    simpa [← last] using inv
  | cons a rest ih =>
    intro done acc inv last
    simp only [List.foldlM_cons, bind_eq_ok] at last
    obtain ⟨acc', round, others⟩ := last
    simpa using ih (done ++ [a]) acc' (preserved done acc a acc' round inv) others

/-! ## Which errors -/

/-- Every error the computation can stop with is an allowed one. -/
def FailsWithin (allowed : ε → Prop) (result : Except ε α) : Prop :=
  ∀ e, result = .error e → allowed e

section

variable {allowed : ε → Prop}

theorem failsWithin_ok (a : α) : FailsWithin allowed (.ok a : Except ε α) := nofun

theorem failsWithin_error {e : ε} (fits : allowed e) :
    FailsWithin allowed (.error e : Except ε α) := by
  rintro _ ⟨⟩
  exact fits

theorem FailsWithin.bind {first : Except ε α} {rest : α → Except ε β}
    (head : FailsWithin allowed first) (tail : ∀ a, first = .ok a → FailsWithin allowed (rest a)) :
    FailsWithin allowed (first >>= rest) := by
  cases first with
  | error e => exact failsWithin_error (head e rfl)
  | ok a => exact tail a rfl

theorem failsWithin_ensure {condition : Prop} [Decidable condition] {error : ε}
    (fits : allowed error) : FailsWithin allowed (ensure condition error) := by
  by_cases holds : condition
  · simp [ensure, holds, failsWithin_ok]
  · simpa [ensure, holds] using failsWithin_error fits

theorem failsWithin_okOr {value : Option α} {error : ε} (fits : allowed error) :
    FailsWithin allowed (okOr value error) := by
  cases value with
  | some a => exact failsWithin_ok a
  | none => exact failsWithin_error fits

theorem FailsWithin.mapErr {ε' : Type} {f : ε' → ε} {result : Except ε' α}
    (inner : FailsWithin (fun e => allowed (f e)) result) :
    FailsWithin allowed (mapErr f result) := by
  cases result with
  | ok a => exact failsWithin_ok a
  | error e => exact failsWithin_error (inner e rfl)

theorem FailsWithin.mapM {f : α → Except ε β} (round : ∀ a, FailsWithin allowed (f a))
    (inputs : List α) : FailsWithin allowed (inputs.mapM f) := by
  induction inputs with
  | nil => exact failsWithin_ok []
  | cons a rest ih =>
    rw [List.mapM_cons]
    exact (round a).bind fun b _ => ih.bind fun bs _ => failsWithin_ok (b :: bs)

theorem FailsWithin.foldlM {f : β → α → Except ε β}
    (round : ∀ acc a, FailsWithin allowed (f acc a)) (inputs : List α) (start : β) :
    FailsWithin allowed (inputs.foldlM f start) := by
  induction inputs generalizing start with
  | nil => exact failsWithin_ok start
  | cons a rest ih =>
    rw [List.foldlM_cons]
    exact (round start a).bind fun acc _ => ih acc

end

end OwlId.Lib
