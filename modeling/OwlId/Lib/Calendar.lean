import Mathlib

/-! # Calendar dates

Dates of the Gregorian calendar, their order, their birthdays and the years completed
between two of them, and the packing of a date into the decimal digits `YYYYMMDD`.
-/

namespace OwlId.Lib

def IsLeapYear (year : Nat) : Prop := year % 4 = 0 ∧ (year % 100 = 0 → year % 400 = 0)

instance (year : Nat) : Decidable (IsLeapYear year) := inferInstanceAs (Decidable (_ ∧ _))

def daysIn (year month : Nat) : Nat :=
  if month = 2 then
    if IsLeapYear year then 29 else 28
  else if month = 4 ∨ month = 6 ∨ month = 9 ∨ month = 11 then 30
  else 31

theorem daysIn_le (year month : Nat) : daysIn year month ≤ 31 := by
  unfold daysIn
  split
  · split <;> omega
  · split <;> omega

theorem le_daysIn (year month : Nat) : 28 ≤ daysIn year month := by
  unfold daysIn
  split
  · split <;> omega
  · split <;> omega

/-- A day that is in the calendar. -/
structure CalendarDate where
  year : Nat
  month : Nat
  day : Nat
  month_valid : 1 ≤ month ∧ month ≤ 12
  day_valid : 1 ≤ day ∧ day ≤ daysIn year month
deriving DecidableEq

namespace CalendarDate

/-! ## Order -/

/-- Year first, then month, then day. -/
def key (date : CalendarDate) : Lex (Nat × Lex (Nat × Nat)) :=
  toLex (date.year, toLex (date.month, date.day))

theorem key_injective : Function.Injective key := by
  intro first second same
  simp only [key, toLex_inj, Prod.mk.injEq] at same
  obtain ⟨years, months, days⟩ := same
  cases first
  cases second
  simp_all

instance : LinearOrder CalendarDate := LinearOrder.lift' key key_injective

theorem le_iff {first second : CalendarDate} : first ≤ second ↔
    first.year < second.year ∨ first.year = second.year ∧
      (first.month < second.month ∨ first.month = second.month ∧ first.day ≤ second.day) := by
  change key first ≤ key second ↔ _
  simp [key, Prod.Lex.toLex_le_toLex]

theorem day_le (date : CalendarDate) : date.day ≤ 31 :=
  date.day_valid.2.trans (daysIn_le _ _)

/-! ## Packed dates -/

/-- `YYYYMMDD`. -/
def packed (date : CalendarDate) : Nat := date.year * 10000 + date.month * 100 + date.day

theorem packed_le_iff {first second : CalendarDate} :
    first.packed ≤ second.packed ↔ first ≤ second := by
  rw [le_iff, packed, packed]
  have := first.day_le
  have := second.day_le
  have := first.month_valid
  have := second.month_valid
  omega

theorem packed_lt_iff {first second : CalendarDate} :
    first.packed < second.packed ↔ first < second := by
  rw [← not_le, packed_le_iff, not_le]

/-! ## Completed years -/

/-- Whether the birthday of a year lies after the day of that year. -/
def BirthdayAhead (dob asOf : CalendarDate) : Prop :=
  asOf.month < dob.month ∨ asOf.month = dob.month ∧ asOf.day < dob.day

instance (dob asOf : CalendarDate) : Decidable (BirthdayAhead dob asOf) :=
  inferInstanceAs (Decidable (_ ∨ _))

/-- The age in whole years; negative before birth. -/
def completedYears (dob asOf : CalendarDate) : Int :=
  asOf.year - dob.year - if BirthdayAhead dob asOf then 1 else 0

theorem le_completedYears_iff (dob asOf : CalendarDate) (years : Nat) :
    (years : Int) ≤ completedYears dob asOf ↔
      dob.year + years < asOf.year ∨ dob.year + years = asOf.year ∧ ¬BirthdayAhead dob asOf := by
  unfold completedYears
  by_cases ahead : BirthdayAhead dob asOf
  · rw [if_pos ahead]
    simp only [ahead, not_true_eq_false, and_false, or_false]
    omega
  · rw [if_neg ahead]
    simp only [ahead, not_false_eq_true, and_true]
    omega

/-- Moving a packed date by whole years compares like the years completed, although the
moved number need not be a date: its month and day are those of the date it came from. -/
theorem packed_add_years_le_iff (dob asOf : CalendarDate) (years : Nat) :
    dob.packed + years * 10000 ≤ asOf.packed ↔ (years : Int) ≤ completedYears dob asOf := by
  have := dob.day_le
  have := asOf.day_le
  have := dob.month_valid
  have := asOf.month_valid
  -- month and day take up less than one year, so they decide only between equal years
  rw [le_completedYears_iff, BirthdayAhead, packed, packed]
  omega

theorem completedYears_neg_iff {dob asOf : CalendarDate} :
    completedYears dob asOf < 0 ↔ asOf < dob := by
  have compared := packed_add_years_le_iff dob asOf 0
  rw [Nat.zero_mul, Nat.add_zero, packed_le_iff] at compared
  rw [← not_le, ← not_le (a := dob), compared]
  rfl

/-- A packed date lies at or past the day `years` before another exactly when fewer years are
completed, or just as many and today is the birthday. -/
theorem le_packed_add_years_iff (dob asOf : CalendarDate) (years : Nat) :
    asOf.packed ≤ dob.packed + years * 10000 ↔
      completedYears dob asOf < years ∨
        completedYears dob asOf = years ∧ dob.month = asOf.month ∧ dob.day = asOf.day := by
  have reached := packed_add_years_le_iff dob asOf years
  rw [← not_lt, lt_iff_le_and_ne, reached, not_and_or, not_le, not_ne_iff]
  refine ⟨?_, ?_⟩
  · rintro (fewer | exact)
    · exact .inl fewer
    · have := dob.day_le
      have := asOf.day_le
      have := dob.month_valid
      have := asOf.month_valid
      have notAhead : ¬BirthdayAhead dob asOf := by
        unfold BirthdayAhead packed at *
        omega
      unfold packed at exact
      refine .inr ⟨?_, by omega, by omega⟩
      rw [completedYears, if_neg notAhead]
      omega
  · rintro (fewer | ⟨years_eq, month_eq, day_eq⟩)
    · exact .inl fewer
    · refine .inr ?_
      have notAhead : ¬BirthdayAhead dob asOf := by
        unfold BirthdayAhead
        omega
      rw [completedYears, if_neg notAhead] at years_eq
      unfold packed
      omega

/-! ## Birthdays -/

/-- When a birthday of 29 February is kept in a common year. -/
inductive LeapBirthday where
  | lastOfFebruary | firstOfMarch
deriving DecidableEq

theorem day_valid_of_common {year other month day : Nat} (valid : 1 ≤ day ∧ day ≤ daysIn year month)
    (kept : ¬(month = 2 ∧ day = 29 ∧ ¬IsLeapYear other)) : 1 ≤ day ∧ day ≤ daysIn other month := by
  refine ⟨valid.1, ?_⟩
  have bound := valid.2
  unfold daysIn at bound ⊢
  by_cases february : month = 2
  · rw [if_pos february] at bound ⊢
    by_cases leap : IsLeapYear other
    · rw [if_pos leap]
      split at bound <;> omega
    · rw [if_neg leap]
      have notLeapDay : day ≠ 29 := fun leapDay => kept ⟨february, leapDay, leap⟩
      split at bound <;> omega
  · rwa [if_neg february] at bound ⊢

/-- The birthday `years` after a date of birth. -/
def birthday (custom : LeapBirthday) (dob : CalendarDate) (years : Nat) : CalendarDate :=
  if common : dob.month = 2 ∧ dob.day = 29 ∧ ¬IsLeapYear (dob.year + years) then
    match custom with
    | .lastOfFebruary =>
      ⟨dob.year + years, 2, 28, by omega, by omega, le_daysIn _ _⟩
    | .firstOfMarch => ⟨dob.year + years, 3, 1, by omega, by omega, by simp [daysIn]⟩
  else ⟨dob.year + years, dob.month, dob.day, dob.month_valid,
    day_valid_of_common dob.day_valid common⟩

/-- On the first of a month the custom for leap days makes no difference: a birthday has come
exactly when its year is completed. -/
theorem birthday_le_iff (custom : LeapBirthday) (dob asOf : CalendarDate) (years : Nat)
    (first : asOf.day = 1) :
    birthday custom dob years ≤ asOf ↔ (years : Int) ≤ completedYears dob asOf := by
  have months := dob.month_valid
  have days := dob.day_valid
  rw [le_iff, le_completedYears_iff, BirthdayAhead]
  by_cases common : dob.month = 2 ∧ dob.day = 29 ∧ ¬IsLeapYear (dob.year + years)
  · -- both customs fall strictly between 1 February and 2 March
    unfold birthday
    rw [dif_pos common]
    cases custom with
    | lastOfFebruary =>
      simp only
      omega
    | firstOfMarch =>
      simp only
      omega
  · unfold birthday
    rw [dif_neg common]
    simp only
    omega

end CalendarDate

end OwlId.Lib
