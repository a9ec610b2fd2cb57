import Mathlib
import OwlId.Lib.Table
import OwlId.Contracts.Access

/-! # Ledger maps

`Map<Bytes<32>, V>` as the registries use it: a table keyed by 32-byte words, read
through `get?`, with a lookup that fails on a key that is not there.
-/

namespace OwlId.Contracts

open OwlId.Lib

/-- `Map<Bytes<32>, V>`. -/
abbrev LedgerMap (V : Type) := Table fun entry : Bytes32 × V => entry.1

namespace LedgerMap

variable {V : Type}

def get? (map : LedgerMap V) (key : Bytes32) : Option V := (map.find key).map Prod.snd

def member (map : LedgerMap V) (key : Bytes32) : Bool := (map.get? key).isSome

/-- `lookup` of a key that is not there fails. -/
def lookup (map : LedgerMap V) (key : Bytes32) : Circuit V :=
  okOr (map.get? key) "lookup: key not found"

def insert (map : LedgerMap V) (key : Bytes32) (value : V) : LedgerMap V :=
  Table.insert map (key, value)

def remove (map : LedgerMap V) (key : Bytes32) : LedgerMap V := Table.erase map key

@[simp] theorem get?_empty (key : Bytes32) : get? (Table.empty : LedgerMap V) key = none := rfl

@[simp] theorem get?_insert (map : LedgerMap V) (key : Bytes32) (value : V) (other : Bytes32) :
    (map.insert key value).get? other = if other = key then some value else map.get? other := by
  rw [get?, insert, Table.find_insert]
  by_cases same : other = key
  · simp [same]
  · simp [same, get?]

@[simp] theorem get?_remove (map : LedgerMap V) (key other : Bytes32) :
    (map.remove key).get? other = if other = key then none else map.get? other := by
  rw [get?, remove, Table.erase, Table.find_retain]
  cases found : map.find other with
  | none => simp [get?, found]
  | some entry =>
    have same : entry.1 = other := (Table.find_eq_some.mp found).2
    by_cases here : other = key
    · simp [Option.filter, same, here]
    · simp [Option.filter, same, here, get?, found]

theorem member_eq_true {map : LedgerMap V} {key : Bytes32} :
    map.member key = true ↔ ∃ value, map.get? key = some value := Option.isSome_iff_exists

/-- The number of keys. -/
def size (map : LedgerMap V) : Nat := map.rows.length

@[simp] theorem size_empty : size (Table.empty : LedgerMap V) = 0 := rfl

theorem mem_keys {map : LedgerMap V} {key : Bytes32} :
    key ∈ map.rows.map Prod.fst ↔ map.member key = true := by
  rw [member_eq_true, List.mem_map]
  constructor
  · rintro ⟨⟨other, value⟩, present, rfl⟩
    exact ⟨value, by rw [get?, Table.find_eq_some.mpr ⟨present, rfl⟩, Option.map_some]⟩
  · rintro ⟨value, found⟩
    obtain ⟨entry, hit, _⟩ := Option.map_eq_some_iff.mp found
    obtain ⟨present, same⟩ := Table.find_eq_some.mp hit
    exact ⟨entry, present, same⟩

/-- Inserting adds a key unless it is there. -/
theorem size_insert (map : LedgerMap V) (key : Bytes32) (value : V) :
    (map.insert key value).size = if map.member key then map.size else map.size + 1 := by
  have parts := List.length_eq_countP_add_countP
    (fun entry : Bytes32 × V => decide (entry.1 = key)) (l := map.rows)
  have others : (map.rows.filter fun other => decide (other.1 ≠ key)).length =
      map.rows.countP fun entry => decide ¬ decide (entry.1 = key) = true := by
    rw [List.countP_eq_length_filter]
    simp
  have here : (map.rows.countP fun entry => decide (entry.1 = key)) =
      (map.rows.map Prod.fst).count key := by
    rw [List.count, List.countP_map]
    apply List.countP_congr
    intro entry _
    simp
  have length : (map.insert key value).size =
      (map.rows.filter fun other => decide (other.1 ≠ key)).length + 1 := by
    simp [size, insert, Table.insert]
  rw [length, others, size]
  by_cases present : map.member key = true
  · have once : (map.rows.map Prod.fst).count key = 1 :=
      List.count_eq_one_of_mem map.unique (mem_keys.mpr present)
    rw [if_pos present]
    omega
  · have never : (map.rows.map Prod.fst).count key = 0 :=
      List.count_eq_zero_of_not_mem (mt mem_keys.mp present)
    rw [if_neg present]
    omega

end LedgerMap

end OwlId.Contracts
