import Mathlib

/-! # Computations that leave a trace

A computation that may stop early, works in surroundings that change under its calls,
and records what it did.  A statement about every run relates the result to the trace
(`Ensures`), whatever the surroundings answer; the rules follow the computation one step at
a time.
-/

namespace OwlId.Lib

/-- From the state of the surroundings: the result, the events recorded on the way, and the
    state left behind. -/
def Traced (σ ω ε α : Type) : Type := σ → Except ε α × List ω × σ

namespace Traced

variable {σ ω ε α β : Type}

/-! ## Steps -/

instance : Monad (Traced σ ω ε) where
  pure a s := (.ok a, [], s)
  bind first rest s :=
    match (first s).1 with
    | .error e => (.error e, (first s).2)
    | .ok a =>
      let after := rest a (first s).2.2
      (after.1, (first s).2.1 ++ after.2.1, after.2.2)

def stop (e : ε) : Traced σ ω ε α := fun s => (.error e, [], s)

def record (event : ω) : Traced σ ω ε Unit := fun s => (.ok (), [event], s)

/-- An operation of the surroundings. -/
def call (operation : σ → α × σ) : Traced σ ω ε α :=
  fun s => (.ok (operation s).1, [], (operation s).2)

/-- An operation whose failure stops the computation. -/
def fallible (operation : σ → Except ε α × σ) : Traced σ ω ε α :=
  fun s => ((operation s).1, [], (operation s).2)

/-- What can be seen of the surroundings without changing them. -/
def look (observe : σ → α) : Traced σ ω ε α := fun s => (.ok (observe s), [], s)

def ofExcept (result : Except ε α) : Traced σ ω ε α := fun s => (result, [], s)

/-- A computation whose whole trace becomes one event. -/
def within {ω' : Type} (wrap : List ω' → ω) (body : Traced σ ω' ε α) : Traced σ ω ε α :=
  fun s => ((body s).1, [wrap (body s).2.1], (body s).2.2)

/-! ## Rules -/

/-- In every run the result and the trace are so related. -/
def Ensures (body : Traced σ ω ε α) (post : Except ε α → List ω → Prop) : Prop :=
  ∀ s, post (body s).1 (body s).2.1

variable {post : Except ε α → List ω → Prop}

theorem Ensures.mono {body : Traced σ ω ε α} {weaker : Except ε α → List ω → Prop}
    (holds : Ensures body post) (weaken : ∀ r t, post r t → weaker r t) : Ensures body weaker :=
  fun s => weaken _ _ (holds s)

theorem ensures_pure {a : α} (holds : post (.ok a) []) :
    Ensures (pure a : Traced σ ω ε α) post :=
  fun _ => holds

theorem ensures_stop {e : ε} (holds : post (.error e) []) :
    Ensures (stop e : Traced σ ω ε α) post :=
  fun _ => holds

theorem Ensures.bind {first : Traced σ ω ε β} {rest : β → Traced σ ω ε α}
    {mid : Except ε β → List ω → Prop} (begins : Ensures first mid)
    (stopped : ∀ e t, mid (.error e) t → post (.error e) t)
    (continues : ∀ b t, mid (.ok b) t → Ensures (rest b) fun r t' => post r (t ++ t')) :
    Ensures (first >>= rest) post := by
  intro s
  have here := begins s
  cases result : (first s).1 with
  | error e =>
    rw [result] at here
    simpa [Bind.bind, result] using stopped e _ here
  | ok b =>
    rw [result] at here
    simpa [Bind.bind, result] using continues b _ here (first s).2.2

theorem Ensures.within {ω' : Type} {wrap : List ω' → ω} {body : Traced σ ω' ε α}
    {inner : Except ε α → List ω' → Prop} (holds : Ensures body inner) :
    Ensures (within wrap body) fun r t => ∃ trace, t = [wrap trace] ∧ inner r trace :=
  fun s => ⟨_, rfl, holds s⟩

theorem ensures_record {event : ω} {rest : Unit → Traced σ ω ε α}
    (continues : Ensures (rest ()) fun r t => post r (event :: t)) :
    Ensures (record event >>= rest) post :=
  continues

theorem ensures_call {operation : σ → β × σ} {rest : β → Traced σ ω ε α}
    (continues : ∀ s, Ensures (rest (operation s).1) post) :
    Ensures (call operation >>= rest) post :=
  fun s => continues s (operation s).2

theorem ensures_fallible {operation : σ → Except ε β × σ} {rest : β → Traced σ ω ε α}
    (stopped : ∀ e, post (.error e) [])
    (continues : ∀ s b, (operation s).1 = .ok b → Ensures (rest b) post) :
    Ensures (fallible operation >>= rest) post := by
  intro s
  cases result : (operation s).1 with
  | error e => simpa [Bind.bind, fallible, result] using stopped e
  | ok b => simpa [Bind.bind, fallible, result] using continues s b result (operation s).2

theorem ensures_look {observe : σ → β} {rest : β → Traced σ ω ε α}
    (continues : ∀ s, Ensures (rest (observe s)) post) : Ensures (look observe >>= rest) post :=
  fun s => continues s s

theorem ensures_ofExcept {result : Except ε β} {rest : β → Traced σ ω ε α}
    (stopped : ∀ e, result = .error e → post (.error e) [])
    (continues : ∀ b, result = .ok b → Ensures (rest b) post) :
    Ensures (ofExcept result >>= rest) post := by
  cases result with
  | error e => exact fun s => stopped e rfl
  | ok b => exact fun s => continues b rfl s

/-! ## Events and their past -/

/-- Every event of the trace is so related to the events before it, the first of which are
    given. -/
def Each (P : List ω → ω → Prop) (past : List ω) : List ω → Prop
  | [] => True
  | event :: later => P past event ∧ Each P (past ++ [event]) later

variable {P : List ω → ω → Prop} {past xs ys : List ω}

theorem each_append : Each P past (xs ++ ys) ↔ Each P past xs ∧ Each P (past ++ xs) ys := by
  induction xs generalizing past with
  | nil => simp [Each]
  | cons event rest ih => simp [Each, ih, and_assoc]

/-- The relation at one position of a trace. -/
theorem Each.at_split {trace later : List ω} {event : ω} (each : Each P past trace)
    (split : trace = xs ++ event :: later) : P (past ++ xs) event := by
  rw [split, each_append] at each
  exact each.2.1

end Traced

end OwlId.Lib
