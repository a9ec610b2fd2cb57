import Mathlib

/-! # Integers as doubles

What becomes of an integer that is stored in a binary64 number: it is rounded to 53
significant bits, to nearest with ties to even.  Only integers matter here, so a
double is the integer it holds, and the rounding is on natural numbers.
-/

namespace OwlId.Lib

/-- `n / d` rounded to nearest, ties to even. -/
def nearestEven (n d : Nat) : Nat :=
  if d < 2 * (n % d) ∨ (2 * (n % d) = d ∧ n / d % 2 = 1) then n / d + 1 else n / d

/-- The distance between the doubles around `n`. -/
def ulp (n : Nat) : Nat := 2 ^ (n.log2 - 52)

def roundDouble (n : Nat) : Nat := nearestEven n (ulp n) * ulp n

/-- The double nearest to `n`, unless that is infinite. -/
def toDouble (n : Nat) : Option Nat :=
  if roundDouble n < 2 ^ 1024 then some (roundDouble n) else none

/-- `n` has at most 53 significant bits. -/
def IsDouble (n : Nat) : Prop := ulp n ∣ n

instance (n : Nat) : Decidable (IsDouble n) := inferInstanceAs (Decidable (ulp n ∣ n))

theorem ulp_pos (n : Nat) : 0 < ulp n := Nat.two_pow_pos _

theorem nearestEven_cases (n : Nat) {d : Nat} (positive : 0 < d) :
    nearestEven n d = n / d ∨ (nearestEven n d = n / d + 1 ∧ n % d ≠ 0) := by
  rw [nearestEven]
  split
  · rename_i up
    exact .inr ⟨rfl, by omega⟩
  · exact .inl rfl

theorem roundDouble_eq_self_iff {n : Nat} : roundDouble n = n ↔ IsDouble n := by
  have split := Nat.div_add_mod n (ulp n)
  have small := Nat.mod_lt n (ulp_pos n)
  rw [IsDouble, Nat.dvd_iff_mod_eq_zero, roundDouble, Nat.mul_comm]
  cases nearestEven_cases n (ulp_pos n) with
  | inl down =>
    rw [down]
    omega
  | inr up =>
    rw [up.1, Nat.mul_add]
    omega

/-- Rounding does not cross a power of two. -/
theorem nearestEven_ulp_le (n : Nat) : nearestEven n (ulp n) ≤ 2 ^ 53 := by
  have below : n < 2 ^ 53 * ulp n := by
    rw [ulp, ← Nat.pow_add]
    exact lt_of_lt_of_le Nat.lt_log2_self (Nat.pow_le_pow_right (by omega) (by omega))
  have quotient : n / ulp n < 2 ^ 53 := Nat.div_lt_of_lt_mul (by rwa [Nat.mul_comm] at below)
  cases nearestEven_cases n (ulp_pos n) with
  | inl down => omega
  | inr up => omega

theorem isDouble_roundDouble (n : Nat) : IsDouble (roundDouble n) := by
  have bound := Nat.mul_le_mul_right (ulp n) (nearestEven_ulp_le n)
  have multiple : ulp n ∣ roundDouble n := Dvd.intro_left _ rfl
  by_cases zero : roundDouble n = 0
  · rw [IsDouble, zero]
    exact Nat.dvd_zero _
  · rw [← roundDouble, ulp, ← Nat.pow_add] at bound
    cases Nat.lt_or_eq_of_le bound with
    | inl below =>
      have exponent : (roundDouble n).log2 < 53 + (n.log2 - 52) := (Nat.log2_lt zero).mpr below
      exact Nat.dvd_trans (Nat.pow_dvd_pow 2 (by omega)) multiple
    | inr power =>
      -- the rounding reached the next power of two, which has one bit
      rw [IsDouble, ulp, power, Nat.log2_two_pow]
      exact Nat.pow_dvd_pow 2 (by omega)

theorem roundDouble_roundDouble (n : Nat) : roundDouble (roundDouble n) = roundDouble n :=
  roundDouble_eq_self_iff.mpr (isDouble_roundDouble n)

theorem roundDouble_le {n k : Nat} (bound : n < 2 ^ k) : roundDouble n ≤ 2 ^ k := by
  by_cases zero : n = 0
  · simp [zero, roundDouble, nearestEven, ulp]
  · have exponent : n.log2 < k := (Nat.log2_lt zero).mpr bound
    by_cases wide : 52 ≤ n.log2
    · calc roundDouble n ≤ 2 ^ 53 * ulp n := Nat.mul_le_mul_right _ (nearestEven_ulp_le n)
        _ = 2 ^ (53 + (n.log2 - 52)) := by rw [ulp, ← Nat.pow_add]
        _ ≤ 2 ^ k := Nat.pow_le_pow_right (by omega) (by omega)
    · have exact : IsDouble n := by
        rw [IsDouble, ulp, show n.log2 - 52 = 0 by omega]
        exact Nat.one_dvd n
      rw [roundDouble_eq_self_iff.mpr exact]
      omega

theorem toDouble_of_lt {n : Nat} (bound : n < 2 ^ 128) : toDouble n = some (roundDouble n) := by
  have small := roundDouble_le bound
  have limit : 2 ^ 128 < 2 ^ 1024 := Nat.pow_lt_pow_right Nat.one_lt_two (by omega)
  rw [toDouble, if_pos (lt_of_le_of_lt small limit)]

/-- Modulo `2 ^ 128` a rounded number is itself only if it was not rounded. -/
theorem roundDouble_mod_eq_iff {n : Nat} (bound : n < 2 ^ 128) :
    roundDouble n % 2 ^ 128 = n ↔ IsDouble n := by
  rw [← roundDouble_eq_self_iff]
  constructor
  · intro same
    cases Nat.lt_or_eq_of_le (roundDouble_le bound) with
    | inl below => rwa [Nat.mod_eq_of_lt below] at same
    | inr power =>
      rw [power, Nat.mod_self] at same
      subst same
      cases power
  · intro same
    rw [same, Nat.mod_eq_of_lt bound]

/-- The integer a finite double of these bits holds, if it holds one. -/
def floatInteger (bits : UInt64) : Option Int :=
  let exponent := (bits >>> 52).toNat % 2048
  let fraction := bits.toNat % 2 ^ 52
  let magnitude : Option Nat :=
    if exponent = 0 then if fraction = 0 then some 0 else none
    else if exponent = 2047 then none
    else if 1075 ≤ exponent then some ((2 ^ 52 + fraction) * 2 ^ (exponent - 1075))
    else if 2 ^ (1075 - exponent) ∣ 2 ^ 52 + fraction then
      some ((2 ^ 52 + fraction) / 2 ^ (1075 - exponent))
    else none
  magnitude.map fun m => if bits >>> 63 = 1 then -(m : Int) else m

end OwlId.Lib
