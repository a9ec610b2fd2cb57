import Mathlib

/-! # Counting by fixed windows

Requests are counted by window, and so many are let through in each.  Windows do not overlap, so an
interval of time meets only a few of them, and that bounds what is let through in any interval,
wherever the windows begin.
-/

namespace OwlId.Lib.FixedWindow

variable {α : Type*} {span : Nat}

/-- Different windows begin at least a span apart. -/
def Spaced (span : Nat) (starts : List Nat) : Prop :=
  ∀ a ∈ starts, ∀ b ∈ starts, a = b ∨ a + span ≤ b ∨ b + span ≤ a

theorem Spaced.sublist {starts starts' : List Nat} (spaced : Spaced span starts)
    (fewer : starts' ⊆ starts) : Spaced span starts' :=
  fun a here b there => spaced a (fewer here) b (fewer there)

theorem Spaced.cons {start : Nat} {starts : List Nat} (spaced : Spaced span starts)
    (apart : ∀ a ∈ starts, a = start ∨ a + span ≤ start) : Spaced span (start :: starts) := by
  intro a here b there
  rcases List.mem_cons.mp here with rfl | old
  · rcases List.mem_cons.mp there with rfl | old'
    · exact .inl rfl
    · rcases apart b old' with rfl | before
      · exact .inl rfl
      · exact .inr (.inr before)
  · rcases List.mem_cons.mp there with rfl | old'
    · rcases apart a old with rfl | before
      · exact .inl rfl
      · exact .inr (.inl before)
    · exact spaced a old b old'

/-- So many windows at most begin in a range of time. -/
theorem card_le {starts : List Nat} {low range : Nat} (positive : 0 < span)
    (spaced : Spaced span starts) (within : ∀ a ∈ starts, low ≤ a ∧ a ≤ low + range) :
    starts.toFinset.card ≤ range / span + 1 := by
  rw [← Finset.card_range (range / span + 1)]
  refine Finset.card_le_card_of_injOn (fun a => (a - low) / span) ?_ ?_
  · intro a here
    obtain ⟨above, below⟩ := within a (List.mem_toFinset.mp here)
    rw [Finset.coe_range, Set.mem_Iio, Nat.lt_succ_iff]
    exact Nat.div_le_div_right (by omega)
  · -- starts a span apart fall into different quotients
    intro a here b there same
    have later {a b : Nat} (above : low ≤ a) (apart : a + span ≤ b) :
        (a - low) / span < (b - low) / span := by
      rw [Nat.lt_iff_add_one_le, ← Nat.add_div_right _ positive]
      exact Nat.div_le_div_right (by omega)
    rcases spaced a (List.mem_toFinset.mp here) b (List.mem_toFinset.mp there) with
      same' | before | after
    · exact same'
    · exact absurd same (later (within a (List.mem_toFinset.mp here)).1 before).ne
    · exact absurd same (later (within b (List.mem_toFinset.mp there)).1 after).ne'

/-- With so many entries at most in each window, the windows bound all the entries. -/
theorem length_le {entries : List α} {start : α → Nat} {low range limit : Nat}
    (positive : 0 < span) (spaced : Spaced span (entries.map start))
    (within : ∀ entry ∈ entries, low ≤ start entry ∧ start entry ≤ low + range)
    (few : ∀ a, entries.countP (start · = a) ≤ limit) :
    entries.length ≤ (range / span + 1) * limit := by
  have windows := card_le positive spaced (by
    intro a among
    obtain ⟨entry, here, rfl⟩ := List.mem_map.mp among
    exact within entry here)
  calc entries.length
    _ = (entries.map start).length := (List.length_map _).symm
    _ = ∑ a ∈ (entries.map start).toFinset, (entries.map start).count a :=
      (List.sum_toFinset_count_eq_length _).symm
    _ ≤ (entries.map start).toFinset.card * limit := by
      refine Finset.sum_le_card_nsmul _ _ _ fun a _ => ?_
      rw [List.count, List.countP_map]
      refine le_trans (le_of_eq ?_) (few a)
      exact List.countP_congr fun entry _ => by simp
    _ ≤ (range / span + 1) * limit := Nat.mul_le_mul_right limit windows

end OwlId.Lib.FixedWindow
