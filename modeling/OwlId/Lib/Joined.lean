import Mathlib

/-! # Texts joined by separators

Fields written one after another, each but the first after a separator.  Two lists of fields
with the same separators have one joined text exactly when they are the same fields or one is
`Shifted` against the other (`joined_eq_iff`): the first field that differs goes on, in one of
them, over the separator and into what the other has as later fields.
-/

namespace OwlId.Lib

variable {α : Type}

/-- The first field, then each further field after its separator. -/
def joined : List α → List (α × List α) → List α
  | first, [] => first
  | first, (sep, next) :: rest => first ++ sep :: joined next rest

inductive Shifted : List α → List (α × List α) → List α → List (α × List α) → Prop where
  | later {first f g : List α} {sep : α} {fs gs : List (α × List α)}
      (rest : Shifted f fs g gs) : Shifted first ((sep, f) :: fs) first ((sep, g) :: gs)
  | longer {first m f g : List α} {sep : α} {fs gs : List (α × List α)}
      (rest : m ++ sep :: joined f fs = joined g gs) :
      Shifted (first ++ sep :: m) ((sep, f) :: fs) first ((sep, g) :: gs)
  | shorter {first m f g : List α} {sep : α} {fs gs : List (α × List α)}
      (rest : joined f fs = m ++ sep :: joined g gs) :
      Shifted first ((sep, f) :: fs) (first ++ sep :: m) ((sep, g) :: gs)

/-- Two texts with a separator in each part at it, or one part goes on over it. -/
theorem append_cons_cases {sep : α} {f g s t : List α} (same : f ++ sep :: s = g ++ sep :: t) :
    (f = g ∧ s = t) ∨ (∃ m, f = g ++ sep :: m ∧ m ++ sep :: s = t) ∨
      ∃ m, g = f ++ sep :: m ∧ s = m ++ sep :: t := by
  rcases List.append_eq_append_iff.mp same with ⟨m, longer, rest⟩ | ⟨m, longer, rest⟩
  · cases m with
    | nil =>
      rw [List.append_nil] at longer
      exact .inl ⟨longer.symm, (List.cons.inj rest).2⟩
    | cons c m =>
      have ⟨here, later⟩ := List.cons.inj rest
      rw [← here] at longer
      exact .inr (.inr ⟨m, longer, later⟩)
  · cases m with
    | nil =>
      rw [List.append_nil] at longer
      exact .inl ⟨longer, (List.cons.inj rest).2.symm⟩
    | cons c m =>
      have ⟨here, later⟩ := List.cons.inj rest
      rw [← here] at longer
      exact .inr (.inl ⟨m, longer, later.symm⟩)

theorem Shifted.joined_eq {f g : List α} {fs gs : List (α × List α)}
    (shifted : Shifted f fs g gs) : joined f fs = joined g gs := by
  induction shifted with
  | later _ ih => rw [joined, joined, ih]
  | longer rest => rw [joined, joined, ← rest, List.append_assoc, List.cons_append]
  | shorter rest => rw [joined, joined, rest, List.append_assoc, List.cons_append]

/-- Shifted fields are different fields. -/
theorem Shifted.ne {f g : List α} {fs gs : List (α × List α)} (shifted : Shifted f fs g gs) :
    ¬ (f = g ∧ fs = gs) := by
  induction shifted with
  | later _ ih =>
    intro ⟨_, same⟩
    have ⟨here, others⟩ := List.cons.inj same
    exact ih ⟨(Prod.mk.inj here).2, others⟩
  | longer _ => simp
  | shorter _ => simp

theorem joined_eq_iff {f g : List α} {fs gs : List (α × List α)}
    (seps : fs.map Prod.fst = gs.map Prod.fst) :
    joined f fs = joined g gs ↔ (f = g ∧ fs = gs) ∨ Shifted f fs g gs := by
  constructor
  · intro same
    induction fs generalizing f g gs with
    | nil =>
      have none : gs = [] := by simpa using seps.symm
      subst none
      exact .inl ⟨same, rfl⟩
    | cons field fs ih =>
      cases gs with
      | nil => simp at seps
      | cons other gs =>
        have ⟨sep, next⟩ := field
        have ⟨sep', next'⟩ := other
        have ⟨here, later⟩ := List.cons.inj seps
        have here : sep = sep' := here
        subst here
        rcases append_cons_cases same with ⟨first, rest⟩ | ⟨m, first, rest⟩ | ⟨m, first, rest⟩
        · rw [first]
          rcases ih later rest with ⟨next, fields⟩ | shifted
          · exact .inl ⟨rfl, by rw [next, fields]⟩
          · exact .inr (.later shifted)
        · rw [first]
          exact .inr (.longer rest)
        · rw [first]
          exact .inr (.shorter rest)
  · intro cases
    rcases cases with ⟨first, rest⟩ | shifted
    · rw [first, rest]
    · exact shifted.joined_eq

/-- Of two fields only the first can go on over the separator. -/
theorem Shifted.mem_of_two {f g s t : List α} {sep : α}
    (shifted : Shifted f [(sep, s)] g [(sep, t)]) : sep ∈ f ∨ sep ∈ g := by
  cases shifted with
  | later rest => cases rest
  | longer rest => exact .inl (by simp)
  | shorter rest => exact .inr (by simp)

end OwlId.Lib
