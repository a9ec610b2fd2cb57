import Mathlib

/-! # Changing the base of a numeral

A list of digits is read with its first digit highest and written again in another base, lowest
digit first, by one multiplication with carry for each digit read.  Its leading zeros, which the
number does not show, are kept as zeros beside the highest digit; so nothing is lost, whatever the
two bases.
-/

namespace OwlId.Lib.Radix

variable {base factor : Nat}

/-- Multiplies the digits by the factor and adds the carry. -/
def mulAdd (base factor : Nat) : List Nat → Nat → List Nat
  | [], carry => Nat.digits base carry
  | d :: rest, carry =>
    (carry + d * factor) % base :: mulAdd base factor rest ((carry + d * factor) / base)

/-- The digits of the number that is read, lowest first. -/
def convert (base factor : Nat) (digits : List Nat) : List Nat :=
  digits.foldl (mulAdd base factor) []

def leadingZeros (digits : List Nat) : Nat := (digits.takeWhile (· = 0)).length

def recode (base factor : Nat) (digits : List Nat) : List Nat :=
  convert base factor digits ++ List.replicate (leadingZeros digits) 0

/-- The number that is read. -/
def value (factor : Nat) (digits : List Nat) : Nat := Nat.ofDigits factor digits.reverse

theorem mulAdd_digits (big : 1 < base) (positive : 0 < factor) (n carry : Nat) :
    mulAdd base factor (Nat.digits base n) carry = Nat.digits base (factor * n + carry) := by
  induction n using Nat.strong_induction_on generalizing carry with
  | _ n ih =>
    rcases Nat.eq_zero_or_pos n with rfl | some
    · simp [mulAdd]
    · have split : factor * n + carry =
          base * (factor * (n / base)) + (carry + n % base * factor) := by
        conv_lhs => rw [← Nat.div_add_mod n base]
        ring
      have whole : 0 < factor * n + carry := Nat.add_pos_left (Nat.mul_pos positive some) _
      rw [Nat.digits_def' big some, mulAdd, ih _ (Nat.div_lt_self some big),
        Nat.digits_def' big whole, split, Nat.mul_add_mod, Nat.mul_add_div (by omega)]

theorem value_concat (digits : List Nat) (d : Nat) :
    value factor (digits ++ [d]) = factor * value factor digits + d := by
  rw [value, List.reverse_concat, Nat.ofDigits_cons, value]
  ring

theorem convert_eq (big : 1 < base) (positive : 0 < factor) (digits : List Nat) :
    convert base factor digits = Nat.digits base (value factor digits) := by
  induction digits using List.reverseRecOn with
  | nil => simp [convert, value]
  | append_singleton digits d ih =>
    rw [convert, List.foldl_concat, ← convert, ih, mulAdd_digits big positive, value_concat]

/-! ## Reading back -/

/-- The number and the leading zeros make up the numeral. -/
theorem eq_of_value (big : 1 < factor) {digits : List Nat} (small : ∀ d ∈ digits, d < factor) :
    digits = List.replicate (leadingZeros digits) 0 ++
      (Nat.digits factor (value factor digits)).reverse := by
  induction digits with
  | nil => simp [leadingZeros, value]
  | cons d rest ih =>
    by_cases zero : d = 0
    · subst zero
      have same : value factor (0 :: rest) = value factor rest := by
        simp [value, Nat.ofDigits_append]
      have more : leadingZeros (0 :: rest) = leadingZeros rest + 1 := by simp [leadingZeros]
      rw [same, more, List.replicate_succ, List.cons_append,
        ← ih fun d among => small d (List.mem_cons_of_mem _ among)]
    · have none : leadingZeros (d :: rest) = 0 := by simp [leadingZeros, zero]
      rw [none, value, Nat.digits_ofDigits factor big, List.reverse_reverse, List.replicate_zero,
        List.nil_append]
      · intro digit among
        exact small digit (List.mem_reverse.mp among)
      · intro _
        simpa using zero

theorem leadingZeros_replicate {k : Nat} {digits : List Nat} (first : digits.head? ≠ some 0) :
    leadingZeros (List.replicate k 0 ++ digits) = k := by
  have stop : digits.takeWhile (· = 0) = [] := by
    cases digits with
    | nil => rfl
    | cons d rest => simpa using first
  simp [leadingZeros, List.takeWhile_append_of_pos, stop]

theorem digits_reverse_head? (n : Nat) : (Nat.digits base n).reverse.head? ≠ some 0 := by
  rw [List.head?_reverse]
  intro last
  have nonempty : n ≠ 0 := by
    rintro rfl
    simp at last
  rw [List.getLast?_eq_getLast_of_ne_nil (Nat.digits_ne_nil_iff_ne_zero.mpr nonempty),
    Option.some.injEq] at last
  exact Nat.getLast_digit_ne_zero base nonempty last

/-- Read with the highest digit first, the new numeral has the old one's number and zeros. -/
theorem recode_recode (big : 1 < base) (big' : 1 < factor) {digits : List Nat}
    (small : ∀ d ∈ digits, d < factor) :
    (recode factor base (recode base factor digits).reverse).reverse = digits := by
  have positive : 0 < factor := Nat.zero_lt_of_lt big'
  have back : (recode base factor digits).reverse =
      List.replicate (leadingZeros digits) 0 ++
        (Nat.digits base (value factor digits)).reverse := by
    rw [recode, convert_eq big positive, List.reverse_append, List.reverse_replicate]
  have same : value base (recode base factor digits).reverse = value factor digits := by
    rw [value, List.reverse_reverse, recode, convert_eq big positive,
      Nat.ofDigits_append_replicate_zero, Nat.ofDigits_digits]
  have zeros : leadingZeros (recode base factor digits).reverse = leadingZeros digits := by
    rw [back, leadingZeros_replicate (digits_reverse_head? _)]
  rw [recode, convert_eq big' (Nat.zero_lt_of_lt big), same, zeros, List.reverse_append,
    List.reverse_replicate]
  exact (eq_of_value big' small).symm

theorem recode_inj (big : 1 < base) (big' : 1 < factor) {digits digits' : List Nat}
    (small : ∀ d ∈ digits, d < factor) (small' : ∀ d ∈ digits', d < factor)
    (same : recode base factor digits = recode base factor digits') : digits = digits' := by
  rw [← recode_recode big big' small, same, recode_recode big big' small']

theorem recode_lt (big : 1 < base) (positive : 0 < factor) {digits : List Nat} {d : Nat}
    (among : d ∈ recode base factor digits) : d < base := by
  rw [recode, convert_eq big positive, List.mem_append, List.mem_replicate] at among
  rcases among with digit | ⟨_, rfl⟩
  · exact Nat.digits_lt_base big digit
  · exact Nat.zero_lt_of_lt big

/-- Lowering the base shortens no numeral. -/
theorem length_le_recode (big : 1 < base) (lower : base ≤ factor) {digits : List Nat}
    (small : ∀ d ∈ digits, d < factor) : digits.length ≤ (recode base factor digits).length := by
  have big' : 1 < factor := Nat.lt_of_lt_of_le big lower
  have shorter (n : Nat) : (Nat.digits factor n).length ≤ (Nat.digits base n).length := by
    rcases eq_or_ne n 0 with rfl | nonzero
    · simp
    · rw [Nat.length_digits factor n big' nonzero, Nat.length_digits base n big nonzero]
      exact Nat.succ_le_succ (Nat.log_anti_left big lower)
  have here := congrArg List.length (eq_of_value big' small)
  rw [List.length_append, List.length_replicate, List.length_reverse] at here
  rw [recode, convert_eq big (Nat.zero_lt_of_lt big'), List.length_append, List.length_replicate,
    here]
  have := shorter (value factor digits)
  omega

end OwlId.Lib.Radix
