import Mathlib
import OwlId.Lib.Bytes

/-! # Token status lists

One bit per credential, packed into bytes from the low end: a set bit says that the
credential at that index is revoked.  `isRevoked_fromRevoked` is the set semantics
that the projection of a revoked set relies on.
-/

namespace OwlId.ProofSystem

open OwlId.Lib

structure StatusList where
  bits : Bytes
deriving DecidableEq

namespace StatusList

/-- An all-valid list with room for at least `len` entries, and never empty. -/
def new (len : Nat) : StatusList := ⟨List.replicate (max ((len + 7) / 8) 1) 0⟩

/-- `Vec::resize`, when the byte is beyond the end. -/
def resizeFor (bits : Bytes) (byte : Nat) : Bytes :=
  if bits.length ≤ byte then bits ++ List.replicate (byte + 1 - bits.length) 0 else bits

def setRevoked (list : StatusList) (idx : Nat) : StatusList :=
  ⟨(resizeFor list.bits (idx / 8)).modify (idx / 8) (· ||| 1 <<< UInt8.ofNat (idx % 8))⟩

def fromRevoked (revoked : List Nat) : StatusList :=
  revoked.foldl setRevoked (new (revoked.foldr max 0 + 1))

/-- The bit of a byte that an index selects. -/
def bitAt (byte : UInt8) (k : Nat) : Bool := (byte >>> UInt8.ofNat k) &&& 1 == 1

/-- An index beyond the end is valid. -/
def isRevoked (list : StatusList) (idx : Nat) : Bool :=
  match list.bits[idx / 8]? with
  | some byte => bitAt byte (idx % 8)
  | none => false

/-! ## One bit of one byte -/

theorem shift_amount {k : Nat} (small : k < 8) : (UInt8.ofNat k).toNat % 8 = k := by
  rw [UInt8.toNat_ofNat']
  omega

theorem bitAt_eq_testBit {byte : UInt8} {k : Nat} (small : k < 8) :
    bitAt byte k = byte.toNat.testBit k := by
  rw [Bool.eq_iff_iff, bitAt, beq_iff_eq, ← UInt8.toNat_inj, UInt8.toNat_and,
    UInt8.toNat_shiftRight, shift_amount small, Nat.testBit_eq_decide_div_mod_eq]
  simp [Nat.shiftRight_eq_div_pow, Nat.and_one_is_mod]

theorem bitAt_or {byte : UInt8} {j k : Nat} (jSmall : j < 8) (kSmall : k < 8) :
    bitAt (byte ||| 1 <<< UInt8.ofNat j) k = (decide (k = j) || bitAt byte k) := by
  have one : (1 <<< UInt8.ofNat j : UInt8).toNat = 2 ^ j := by
    have fits : 2 ^ j < 2 ^ 8 := Nat.pow_lt_pow_right (by omega) jSmall
    rw [UInt8.toNat_shiftLeft, shift_amount jSmall, Nat.shiftLeft_eq]
    simpa using Nat.mod_eq_of_lt fits
  rw [bitAt_eq_testBit kSmall, bitAt_eq_testBit kSmall, UInt8.toNat_or, one, Nat.testBit_or,
    Nat.testBit_two_pow, Bool.or_comm]
  simp [eq_comm]

/-! ## The set a list stands for -/

/-- A byte that is not there reads like a zero byte. -/
theorem isRevoked_eq (list : StatusList) (idx : Nat) :
    list.isRevoked idx = bitAt (list.bits[idx / 8]?.getD 0) (idx % 8) := by
  unfold isRevoked
  cases list.bits[idx / 8]? with
  | some byte => rfl
  | none => simp [bitAt]

theorem resizeFor_getD (bits : Bytes) (byte i : Nat) :
    (resizeFor bits byte)[i]?.getD 0 = bits[i]?.getD 0 := by
  unfold resizeFor
  split
  · by_cases inside : i < bits.length
    · rw [List.getElem?_append_left inside]
    · rw [List.getElem?_append_right (by omega), List.getElem?_eq_none (by omega : bits.length ≤ i),
        List.getElem?_replicate]
      split <;> rfl
  · rfl

theorem lt_length_resizeFor (bits : Bytes) (byte : Nat) : byte < (resizeFor bits byte).length := by
  unfold resizeFor
  split
  · rw [List.length_append, List.length_replicate]
    omega
  · omega

/-- The list grows just far enough for the index. -/
theorem length_setRevoked (list : StatusList) (j : Nat) :
    (list.setRevoked j).bits.length = max list.bits.length (j / 8 + 1) := by
  rw [setRevoked, List.length_modify, resizeFor]
  split
  · rw [List.length_append, List.length_replicate]
    omega
  · omega

/-- Setting one index adds that index and no other. -/
theorem isRevoked_setRevoked (list : StatusList) (j i : Nat) :
    (list.setRevoked j).isRevoked i = (decide (i = j) || list.isRevoked i) := by
  have old := resizeFor_getD list.bits (j / 8) (i / 8)
  rw [isRevoked_eq, isRevoked_eq, setRevoked, List.getElem?_modify]
  by_cases sameByte : j / 8 = i / 8
  · have present : i / 8 < (resizeFor list.bits (j / 8)).length :=
      sameByte ▸ lt_length_resizeFor list.bits (j / 8)
    rw [List.getElem?_eq_getElem present] at old ⊢
    simp only [sameByte, if_true, Option.map_eq_map, Option.map_some, Option.getD_some] at old ⊢
    rw [bitAt_or (Nat.mod_lt _ (by omega)) (Nat.mod_lt _ (by omega)), old]
    have sameBit : i % 8 = j % 8 ↔ i = j := by omega
    simp [sameBit]
  · have different : i ≠ j := fun same => sameByte (same ▸ rfl)
    simp [sameByte, different, old]

theorem isRevoked_new (len i : Nat) : (new len).isRevoked i = false := by
  rw [isRevoked_eq, new, List.getElem?_replicate]
  split <;> simp [bitAt]

theorem isRevoked_foldl (revoked : List Nat) (list : StatusList) (i : Nat) :
    (revoked.foldl setRevoked list).isRevoked i = (decide (i ∈ revoked) || list.isRevoked i) := by
  induction revoked generalizing list with
  | nil => simp
  | cons j rest ih =>
    rw [List.foldl_cons, ih, isRevoked_setRevoked, Bool.eq_iff_iff]
    simp only [Bool.or_eq_true, decide_eq_true_eq, List.mem_cons]
    tauto

@[simp] theorem isRevoked_fromRevoked (revoked : List Nat) (i : Nat) :
    (fromRevoked revoked).isRevoked i = decide (i ∈ revoked) := by
  rw [fromRevoked, isRevoked_foldl, isRevoked_new, Bool.or_false]

example : (fromRevoked [3, 9]).bits = [8, 2] := by decide

end StatusList

end OwlId.ProofSystem
