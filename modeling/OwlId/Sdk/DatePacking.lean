import Mathlib
import OwlId.Lib.Calendar
import OwlId.Sdk.ClaimDates

/-! # Dates as packed numbers

A date of birth is committed to as the number `YYYYMMDD`.  The issuer's reader packs it in 32
bits, the SDK's `dateToYmd` finds the committed word and its `dobYmd` the number the age
circuits open.  On a date in the calendar the number grows with the date; on other texts the
readers differ, and the sum may not fit (`dates_pack_alike_iff`).
-/

namespace OwlId.Sdk

open OwlId.Lib OwlId.ProofSystem

/-! ## The readers -/

/-- The number the circuits open; unlike `dateToYmd` it takes any two digits for a month. -/
def dobYmd (dateOfBirth : String) : Except String Nat :=
  match matchDate (jsTrim dateOfBirth).toList with
  | some (y, m, d) => .ok (y * 10000 + m * 100 + d)
  | none => .error ("invalid dateOfBirth: " ++ dateOfBirth)

/-- The year, the month and the day that `date_to_yyyymmdd` packs. -/
def dateFields (s : String) : Option (Nat × Nat × Nat) := do
  let parts := splitChar '-' s
  let y ← parts[0]?.bind (parseUnsigned (2 ^ 32))
  let m ← parts[1]?.bind (parseUnsigned (2 ^ 32))
  let d ← parts[2]?.bind (parseUnsigned (2 ^ 32))
  if m = 0 ∨ m > 12 ∨ d = 0 ∨ d > 31 then none else some (y, m, d)

/-- A result of `u32` arithmetic, if it fits. -/
def checkedU32 (n : Nat) : Option Nat := if n < 2 ^ 32 then some n else none

/-- `y * 10_000 + m * 100 + d`, operation by operation. -/
def packChecked (y m d : Nat) : Option Nat := do
  let years ← checkedU32 (y * 10000)
  let months ← checkedU32 (m * 100)
  let days ← checkedU32 (years + months)
  checkedU32 (days + d)

/-- `date_to_yyyymmdd` with its overflows: `none` where a checked build panics and a release
build wraps. -/
def dateToYyyymmddChecked (v : Json) : Option (Option Nat) :=
  match v.asStr.bind dateFields with
  | some (y, m, d) => (packChecked y m d).map some
  | none => some none

theorem checkedU32_of_lt {n : Nat} (fits : n < 2 ^ 32) : checkedU32 n = some n := if_pos fits

theorem checkedU32_of_le {n : Nat} (overflows : 2 ^ 32 ≤ n) : checkedU32 n = none :=
  if_neg (Nat.not_lt.mpr overflows)

/-- No operation overflows unless the whole sum does. -/
theorem packChecked_eq (y m d : Nat) :
    packChecked y m d = checkedU32 (y * 10000 + m * 100 + d) := by
  rw [packChecked]
  rcases Nat.lt_or_ge (y * 10000) (2 ^ 32) with years | years
  · rcases Nat.lt_or_ge (m * 100) (2 ^ 32) with months | months
    · rw [checkedU32_of_lt years, checkedU32_of_lt months]
      show (checkedU32 (y * 10000 + m * 100)).bind (fun days => checkedU32 (days + d)) = _
      rcases Nat.lt_or_ge (y * 10000 + m * 100) (2 ^ 32) with both | both
      · rw [checkedU32_of_lt both, Option.bind_some]
      · have whole : 2 ^ 32 ≤ y * 10000 + m * 100 + d := le_trans both (Nat.le_add_right _ d)
        rw [checkedU32_of_le both, checkedU32_of_le whole]
        rfl
    · have whole : 2 ^ 32 ≤ y * 10000 + m * 100 + d := by omega
      rw [checkedU32_of_lt years, checkedU32_of_le months, checkedU32_of_le whole]
      rfl
  · have whole : 2 ^ 32 ≤ y * 10000 + m * 100 + d := le_trans years (by omega)
    rw [checkedU32_of_le years, checkedU32_of_le whole]
    rfl

theorem dateFields_eq_some {s : String} {y m d : Nat} :
    dateFields s = some (y, m, d) ↔
      ∃ yText mText dText rest, splitChar '-' s = yText :: mText :: dText :: rest ∧
        parseUnsigned (2 ^ 32) yText = some y ∧ parseUnsigned (2 ^ 32) mText = some m ∧
        parseUnsigned (2 ^ 32) dText = some d ∧ InCalendar m d := by
  simp only [dateFields, Option.bind_eq_bind, Option.bind_eq_some_iff]
  constructor
  · rintro ⟨y', ⟨yText, first, hy⟩, m', ⟨mText, second, hm⟩, d', ⟨dText, third, hd⟩, value⟩
    split at value
    · cases value
    · obtain ⟨rfl, rfl, rfl⟩ : y' = y ∧ m' = m ∧ d' = d := by simpa using value
      obtain ⟨rest, parts⟩ := exists_three first second third
      exact ⟨yText, mText, dText, rest, parts, hy, hm, hd, by rw [InCalendar]; omega⟩
  · rintro ⟨yText, mText, dText, rest, parts, hy, hm, hd, range⟩
    rw [InCalendar] at range
    exact ⟨y, ⟨yText, by rw [parts]; rfl, hy⟩, m, ⟨mText, by rw [parts]; rfl, hm⟩, d,
      ⟨dText, by rw [parts]; rfl, hd⟩, if_neg (by omega)⟩

/-- What a release build returns: the sum of the fields in 32 bits. -/
theorem dateToYyyymmdd_eq_map (s : String) :
    dateToYyyymmdd (.string s) = (dateFields s).map fun (y, m, d) =>
      (y * 10000 + m * 100 + d) % 2 ^ 32 := by
  apply Option.ext
  intro v
  rw [dateToYyyymmdd_eq_some, Option.map_eq_some_iff]
  constructor
  · intro ⟨y, m, d, rest, yy, mm, dd, parts, hy, hm, hd, range, value⟩
    exact ⟨(yy, mm, dd), dateFields_eq_some.mpr ⟨y, m, d, rest, parts, hy, hm, hd, range⟩,
      value.symm⟩
  · intro ⟨⟨yy, mm, dd⟩, read, value⟩
    have ⟨y, m, d, rest, parts, hy, hm, hd, range⟩ := dateFields_eq_some.mp read
    exact ⟨y, m, d, rest, yy, mm, dd, parts, hy, hm, hd, range, value.symm⟩

/-! ## Overflow -/

/-- The text is packed without an overflow, or not read. -/
def PacksSafely (s : String) : Prop := dateToYyyymmddChecked (.string s) ≠ none

instance (s : String) : Decidable (PacksSafely s) := inferInstanceAs (Decidable (_ ≠ _))

theorem packsSafely_iff {s : String} :
    PacksSafely s ↔
      ∀ y m d, dateFields s = some (y, m, d) → y * 10000 + m * 100 + d < 2 ^ 32 := by
  show dateToYyyymmddChecked (.string s) ≠ none ↔ _
  simp only [dateToYyyymmddChecked, Json.asStr, Option.bind_some]
  cases read : dateFields s with
  | none => simp
  | some fields =>
    obtain ⟨y, m, d⟩ := fields
    show (packChecked y m d).map some ≠ none ↔ _
    rw [packChecked_eq, ne_eq, Option.map_eq_none_iff]
    constructor
    · intro packs y' m' d' same
      obtain ⟨rfl, rfl, rfl⟩ : y = y' ∧ m = m' ∧ d = d' := by simpa using same
      rcases Nat.lt_or_ge (y * 10000 + m * 100 + d) (2 ^ 32) with fits | overflows
      · exact fits
      · exact absurd (checkedU32_of_le overflows) packs
    · intro small none
      rw [checkedU32_of_lt (small y m d rfl)] at none
      cases none

theorem packsSafely_of_iso {s : String} (iso : IsoDate s) : PacksSafely s := by
  apply packsSafely_iff.mpr
  intro y m d read
  have ⟨ys, ms, ds, rest, fourDigits, twoDigits, _, parts, _, digits⟩ := iso
  have ⟨year, hy⟩ := @parseDigits_isSome ys (fun c member => digits c (by simp [member])) 0
  have ⟨month, hm⟩ := @parseDigits_isSome ms (fun c member => digits c (by simp [member])) 0
  have ⟨yText, _, _, _, split', readY, _, _, range⟩ := dateFields_eq_some.mp read
  rw [splitChar_date parts hy hm, List.cons.injEq] at split'
  have small := fieldBound fourDigits hy
  have year_eq : y = year := by
    have reread := parseUnsigned_of_digits (nonempty_of_length fourDigits) hy
      (show year < 2 ^ 32 by omega)
    rw [← split'.1, reread] at readY
    exact (Option.some.inj readY).symm
  rw [InCalendar] at range
  omega

/-! ## Agreement -/

/-- The three readers return a value or none of them, and one value. -/
structure ReadAlike (s : String) : Prop where
  committed : dateToYmd (.string s) = dateToYyyymmdd (.string s)
  opened : (dobYmd s).toOption = dateToYyyymmdd (.string s)

/-- Once trimmed, the text begins with digits and dashes as a date does. -/
def JsDigits (s : String) : Prop := ∃ fields, matchDate (jsTrim s).toList = some fields

/-- Whatever one of the readers takes is `YYYY-MM-DD`, with nothing or a further dash behind it,
and its month and its day are in range. -/
def PlainlyDated (s : String) : Prop := JsDigits s ∨ RustDate s → IsoDate s ∧ JsDate s

theorem dobYmd_eq_some {s : String} {v : Nat} :
    (dobYmd s).toOption = some v ↔
      ∃ y mm dd, matchDate (jsTrim s).toList = some (y, mm, dd) ∧
        v = y * 10000 + mm * 100 + dd := by
  rw [dobYmd]
  cases found : matchDate (jsTrim s).toList with
  | none => simp [Except.toOption]
  | some fields =>
    have ⟨y, m, d⟩ := fields
    show some (y * 10000 + m * 100 + d) = some v ↔ _
    simp [eq_comm]

/-- Where `dateToYmd` reads, so does `dobYmd`. -/
theorem dobYmd_of_dateToYmd {s : String} {v : Nat} (read : dateToYmd (.string s) = some v) :
    (dobYmd s).toOption = some v := by
  have ⟨y, mm, dd, found, _, value⟩ := dateToYmd_eq_some.mp read
  exact dobYmd_eq_some.mpr ⟨y, mm, dd, found, value⟩

theorem readAlike_of_plain {s : String} (iso : IsoDate s) (date : JsDate s) : ReadAlike s := by
  have ⟨y, mm, dd, found, range⟩ := date
  have read : dateToYmd (.string s) = some (y * 10000 + mm * 100 + dd) :=
    dateToYmd_eq_some.mpr ⟨y, mm, dd, found, range, rfl⟩
  have same := dates_eq_of_iso iso
  exact ⟨same, by rw [dobYmd_of_dateToYmd read, ← same, read]⟩

theorem readAlike_of_unread {s : String} (unread : ¬ (JsDigits s ∨ RustDate s)) : ReadAlike s := by
  have here : dateToYmd (.string s) = none := by
    apply Option.eq_none_iff_forall_ne_some.mpr
    intro v read
    have ⟨y, mm, dd, found, _⟩ := dateToYmd_eq_some.mp read
    exact unread (.inl ⟨_, found⟩)
  have there : dateToYyyymmdd (.string s) = none := by
    apply Option.eq_none_iff_forall_ne_some.mpr
    intro v read
    have ⟨y, m, d, rest, yy, mm, dd, parts, hy, hm, hd, range, _⟩ :=
      dateToYyyymmdd_eq_some.mp read
    exact unread (.inr ⟨y, m, d, rest, yy, mm, dd, parts, hy, hm, hd, range⟩)
  have opened : (dobYmd s).toOption = none := by
    apply Option.eq_none_iff_forall_ne_some.mpr
    intro v read
    have ⟨y, mm, dd, found, _⟩ := dobYmd_eq_some.mp read
    exact unread (.inl ⟨_, found⟩)
  exact ⟨here.trans there.symm, opened.trans there.symm⟩

/-- Readers that agree on a text they read find a plain date. -/
theorem plain_of_readAlike {s : String} (alike : ReadAlike s) (read : JsDigits s ∨ RustDate s) :
    IsoDate s ∧ JsDate s := by
  have ⟨v, there⟩ : ∃ v, dateToYyyymmdd (.string s) = some v := by
    cases read with
    | inl digits =>
      have ⟨⟨y, mm, dd⟩, found⟩ := digits
      have opened := dobYmd_eq_some.mpr ⟨y, mm, dd, found, rfl⟩
      exact ⟨_, alike.opened.symm.trans opened⟩
    | inr date =>
      have ⟨y, m, d, rest, yy, mm, dd, parts, hy, hm, hd, range⟩ := date
      exact ⟨_, dateToYyyymmdd_eq_some.mpr
        ⟨y, m, d, rest, yy, mm, dd, parts, hy, hm, hd, range, rfl⟩⟩
  have here := alike.committed.trans there
  have ⟨y, mm, dd, found, range, _⟩ := dateToYmd_eq_some.mp here
  exact ⟨iso_of_dates_eq here there, y, mm, dd, found, range⟩

/-! ## Dates in the calendar -/

/-- A day whose year has at most four digits. -/
structure WrittenDay extends CalendarDate where
  year_le : year ≤ 9999

/-- The last `k` decimal digits of a number. -/
def lastDigits : Nat → Nat → List Char
  | 0, _ => []
  | k + 1, n => lastDigits k (n / 10) ++ [Char.ofNat (48 + n % 10)]

/-- `YYYY-MM-DD`. -/
def WrittenDay.text (date : WrittenDay) : String :=
  String.ofList (lastDigits 4 date.year ++
    '-' :: (lastDigits 2 date.month ++ '-' :: lastDigits 2 date.day))

theorem lastDigits_length (k n : Nat) : (lastDigits k n).length = k := by
  induction k generalizing n with
  | zero => rfl
  | succ k ih => rw [lastDigits, List.length_append, ih, List.length_singleton]

theorem parseDigits_lastDigits {k n : Nat} (fits : n < 10 ^ k) :
    parseDigits 0 (lastDigits k n) = some n := by
  induction k generalizing n with
  | zero =>
    have zero : n = 0 := by simpa using fits
    rw [zero]
    rfl
  | succ k ih =>
    have digits : ∀ d < 10, digitVal (Char.ofNat (48 + d)) = some d := by decide
    have front : n / 10 < 10 ^ k := Nat.div_lt_of_lt_mul (by rwa [Nat.pow_succ'] at fits)
    have last := digits (n % 10) (Nat.mod_lt n (by omega))
    rw [lastDigits, parseDigits_append, ih front, Option.bind_some, parseDigits, last]
    show some (10 * (n / 10) + n % 10) = some n
    rw [Nat.div_add_mod]

theorem WrittenDay.dateFields_text (date : WrittenDay) :
    dateFields date.text = some (date.year, date.month, date.day) := by
  have months := date.month_valid
  have days := date.day_valid
  have shortDay := date.day_le
  have shortYear := date.year_le
  have hy := @parseDigits_lastDigits 4 date.year (by omega)
  have hm := @parseDigits_lastDigits 2 date.month (by omega)
  have hd := @parseDigits_lastDigits 2 date.day (by omega)
  have parts : date.text.toList = lastDigits 4 date.year ++
      '-' :: (lastDigits 2 date.month ++ '-' :: (lastDigits 2 date.day ++ [])) := by
    rw [List.append_nil, text, String.toList_ofList]
  have dashless : '-' ∉ (String.ofList (lastDigits 2 date.day)).toList := by
    rw [String.toList_ofList]
    exact dash_notMem_of_digits hd
  have split' := splitChar_date parts hy hm
  rw [List.append_nil, splitChar_of_notMem dashless] at split'
  have nonempty : ∀ k n, lastDigits (k + 1) n ≠ [] := fun k n =>
    nonempty_of_length (lastDigits_length (k + 1) n)
  exact dateFields_eq_some.mpr ⟨_, _, _, [], split',
    parseUnsigned_of_digits (nonempty 3 _) hy (by omega),
    parseUnsigned_of_digits (nonempty 1 _) hm (by omega),
    parseUnsigned_of_digits (nonempty 1 _) hd (by omega), by rw [InCalendar]; omega⟩

/-- A day is packed as it stands. -/
theorem WrittenDay.dateToYyyymmdd_text (date : WrittenDay) :
    dateToYyyymmdd (.string date.text) = some date.packed := by
  have months := date.month_valid
  have shortDay := date.day_le
  have shortYear := date.year_le
  have fits : date.packed < 2 ^ 32 := by
    rw [CalendarDate.packed]
    omega
  rw [dateToYyyymmdd_eq_map, date.dateFields_text]
  show some (date.packed % 2 ^ 32) = some date.packed
  rw [Nat.mod_eq_of_lt fits]

/-- The packed number grows with the date, and the three readers agree, without an overflow, on
exactly the texts that are plainly dated. -/
theorem dates_pack_alike_iff (first second : WrittenDay) (s : String) :
    (∃ p q, dateToYyyymmdd (.string first.text) = some p ∧
      dateToYyyymmdd (.string second.text) = some q ∧
      (p < q ↔ first.toCalendarDate < second.toCalendarDate) ∧
      (p = q ↔ first.toCalendarDate = second.toCalendarDate)) ∧
    ((PacksSafely s ∧ ReadAlike s) ↔ PlainlyDated s) := by
  constructor
  · have equal : first.packed = second.packed ↔ first.toCalendarDate = second.toCalendarDate := by
      rw [le_antisymm_iff, le_antisymm_iff, CalendarDate.packed_le_iff,
        CalendarDate.packed_le_iff]
    exact ⟨first.packed, second.packed, first.dateToYyyymmdd_text, second.dateToYyyymmdd_text,
      CalendarDate.packed_lt_iff, equal⟩
  · constructor
    · intro ⟨_, alike⟩ read
      exact plain_of_readAlike alike read
    · intro plain
      by_cases read : JsDigits s ∨ RustDate s
      · have ⟨iso, date⟩ := plain read
        exact ⟨packsSafely_of_iso iso, readAlike_of_plain iso date⟩
      · refine ⟨packsSafely_iff.mpr ?_, readAlike_of_unread read⟩
        intro y m d fields
        have ⟨yText, mText, dText, rest, parts, hy, hm, hd, range⟩ := dateFields_eq_some.mp fields
        exact absurd (.inr ⟨yText, mText, dText, rest, y, m, d, parts, hy, hm, hd, range⟩) read

/-- A year of six digits overflows and wraps to a small number, and a thirteenth month is a
number for one reader only. -/
theorem year_wraps_month_runs_over :
    ¬ PacksSafely "429497-01-01" ∧
      dateToYyyymmdd (.string "429497-01-01") = some 2805 ∧
      dateToYmd (.string "429497-01-01") = none ∧
      ¬ ReadAlike "2000-13-01" ∧
      (dobYmd "2000-13-01").toOption = some 20001301 ∧
      dateToYyyymmdd (.string "2000-13-01") = none := by
  have opened : (dobYmd "2000-13-01").toOption = some 20001301 := by decide
  have committed : dateToYyyymmdd (.string "2000-13-01") = none := by decide
  refine ⟨by decide, by decide, by decide, ?_, opened, committed⟩
  intro alike
  have same := alike.opened
  rw [opened, committed] at same
  cases same

end OwlId.Sdk
