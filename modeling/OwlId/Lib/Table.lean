import Mathlib

/-! # Keyed tables

A finite collection of rows no two of which share a key: a database table with a
unique column, or a map from keys to rows.  The order of the rows is the order in
which an iteration meets them and means nothing else.

`find` sees a table as a partial function on keys, and `find_insert` and
`find_retain` are the only facts about the two updates that callers need.  Where
rows are used up rather than looked up, `countP_insert_le`, `countP_insert_lt` and
`countP_retain_lt` say how many rows of a kind an update leaves.
-/

namespace OwlId.Lib

variable {ρ κ : Type} {key : ρ → κ}

structure Table (key : ρ → κ) where
  rows : List ρ
  unique : (rows.map key).Nodup

namespace Table

def empty : Table key := ⟨[], by simp⟩

/-- The rows that satisfy the condition. -/
def retain (t : Table key) (keep : ρ → Bool) : Table key :=
  ⟨t.rows.filter keep, t.unique.sublist (List.filter_sublist.map key)⟩

theorem mem_retain {t : Table key} {keep : ρ → Bool} {row : ρ} :
    row ∈ (t.retain keep).rows ↔ row ∈ t.rows ∧ keep row = true := by
  simp [retain]

variable [DecidableEq κ]

def find (t : Table key) (k : κ) : Option ρ := t.rows.find? fun row => key row = k

/-- Add a row, in place of the row with its key if there is one. -/
def insert (t : Table key) (row : ρ) : Table key where
  rows := t.rows.filter (fun other => key other ≠ key row) ++ [row]
  unique := by
    have kept := t.unique.sublist
      ((List.filter_sublist (p := fun other => decide (key other ≠ key row))).map key)
    rw [List.map_append, List.nodup_append]
    refine ⟨kept, by simp, ?_⟩
    intro k member k' same
    simp only [List.map_cons, List.map_nil, List.mem_singleton] at same
    obtain ⟨other, filtered, rfl⟩ := List.mem_map.mp member
    have different := (List.mem_filter.mp filtered).2
    simpa [same] using different

def erase (t : Table key) (k : κ) : Table key := t.retain fun row => key row ≠ k

@[simp] theorem find_empty (k : κ) : (empty : Table key).find k = none := rfl

theorem find_eq_some {t : Table key} {k : κ} {row : ρ} :
    t.find k = some row ↔ row ∈ t.rows ∧ key row = k := by
  constructor
  · intro found
    exact ⟨List.mem_of_find?_eq_some found, by simpa using List.find?_some found⟩
  · rintro ⟨member, rfl⟩
    cases hit : t.find (key row) with
    | none => simpa using List.find?_eq_none.mp hit row member
    | some other =>
      have same : key other = key row := by simpa using List.find?_some hit
      rw [List.inj_on_of_nodup_map t.unique (List.mem_of_find?_eq_some hit) member same]

theorem find_insert (t : Table key) (row : ρ) (k : κ) :
    (t.insert row).find k = if k = key row then some row else t.find k := by
  apply Option.ext
  intro other
  by_cases here : k = key row
  · simp only [find_eq_some, here, if_true, insert, List.mem_append, List.mem_filter,
      decide_eq_true_eq, List.mem_singleton, Option.some.injEq]
    constructor
    · rintro ⟨⟨_, different⟩ | rfl, same⟩
      · exact absurd same different
      · rfl
    · rintro rfl
      exact ⟨.inr rfl, rfl⟩
  · simp only [here, if_false, find_eq_some, insert, List.mem_append, List.mem_filter,
      decide_eq_true_eq, List.mem_singleton]
    constructor
    · rintro ⟨⟨member, _⟩ | rfl, same⟩
      · exact ⟨member, same⟩
      · exact absurd same.symm here
    · rintro ⟨member, same⟩
      exact ⟨.inl ⟨member, fun e => here (same.symm.trans e)⟩, same⟩

theorem find_retain (t : Table key) (keep : ρ → Bool) (k : κ) :
    (t.retain keep).find k = (t.find k).filter keep := by
  apply Option.ext
  intro row
  simp only [find_eq_some, retain, List.mem_filter, Option.filter_eq_some_iff]
  tauto

theorem mem_insert {t : Table key} {row other : ρ} (member : other ∈ (t.insert row).rows) :
    other = row ∨ other ∈ t.rows := by
  simp only [insert, List.mem_append, List.mem_filter, List.mem_singleton] at member
  tauto

/-! ## Counting rows -/

omit [DecidableEq κ] in
theorem countP_retain_le (t : Table key) (keep p : ρ → Bool) :
    (t.retain keep).rows.countP p ≤ t.rows.countP p :=
  List.filter_sublist.countP_le

omit [DecidableEq κ] in
/-- A row of the kind that is not kept is one row less. -/
theorem countP_retain_lt {t : Table key} {keep p : ρ → Bool} {row : ρ} (member : row ∈ t.rows)
    (counted : p row = true) (dropped : keep row = false) :
    (t.retain keep).rows.countP p + 1 ≤ t.rows.countP p := by
  have lost : 0 < (t.rows.filter fun other => !keep other).countP p := by
    refine List.countP_pos_iff.mpr ⟨row, List.mem_filter.mpr ⟨member, ?_⟩, counted⟩
    rw [dropped]
    rfl
  rw [List.countP_eq_countP_filter_add t.rows p keep, retain]
  exact Nat.add_le_add_left lost _

theorem insert_rows (t : Table key) (row : ρ) :
    (t.insert row).rows = (t.erase (key row)).rows ++ [row] := rfl

theorem countP_insert_le (t : Table key) (row : ρ) (p : ρ → Bool) :
    (t.insert row).rows.countP p ≤ t.rows.countP p + if p row then 1 else 0 := by
  rw [insert_rows, List.countP_append, List.countP_singleton]
  exact Nat.add_le_add_right (countP_retain_le t _ p) _

/-- Overwriting a row of the kind by one that is not leaves one row less. -/
theorem countP_insert_lt {t : Table key} {p : ρ → Bool} {row next : ρ} (member : row ∈ t.rows)
    (counted : p row = true) (same : key next = key row) (other : p next = false) :
    (t.insert next).rows.countP p + 1 ≤ t.rows.countP p := by
  rw [insert_rows, List.countP_append, List.countP_singleton, other]
  exact countP_retain_lt member counted (by simp [same])

end Table

end OwlId.Lib
