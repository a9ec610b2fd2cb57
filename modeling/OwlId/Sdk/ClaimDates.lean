import Mathlib
import OwlId.Sdk.ClaimValues

/-! # Dates of birth in the two readers

The Rust reader splits a date at its dashes and parses three numbers of any length;
the port matches four, two and two digits and ignores what follows.  Both read
`YYYY-MM-DD`, with nothing or a further dash behind it, and nothing else alike.
-/

namespace OwlId.Sdk

open OwlId.Lib OwlId.ProofSystem

/-! ## Runs of digits -/

theorem parseDigits_append (acc : Nat) (xs ys : List Char) :
    parseDigits acc (xs ++ ys) = (parseDigits acc xs).bind fun n => parseDigits n ys := by
  induction xs generalizing acc with
  | nil => rfl
  | cons c rest ih =>
    rw [List.cons_append, parseDigits, parseDigits]
    cases digitVal c with
    | none => rfl
    | some d => exact ih _

theorem le_of_parseDigits {acc n : Nat} {cs : List Char} (parsed : parseDigits acc cs = some n) :
    acc * 10 ^ cs.length ≤ n ∧ n < (acc + 1) * 10 ^ cs.length := by
  induction cs generalizing acc with
  | nil =>
    obtain rfl := Option.some.inj parsed
    simp
  | cons c rest ih =>
    rw [parseDigits, Option.bind_eq_some_iff] at parsed
    obtain ⟨d, digit, others⟩ := parsed
    have small : d < 10 := by
      have bounds := digit_bounds (c := c) (by rw [digit]; rfl)
      rw [digitVal] at digit
      split at digit
      · obtain rfl := Option.some.inj digit
        omega
      · cases digit
    obtain ⟨low, high⟩ := ih others
    rw [List.length_cons, Nat.pow_succ']
    refine ⟨le_trans ?_ low, lt_of_lt_of_le high ?_⟩
    · rw [← Nat.mul_assoc]
      exact Nat.mul_le_mul_right _ (by omega)
    · rw [← Nat.mul_assoc]
      exact Nat.mul_le_mul_right _ (by omega)

/-- What is parsed has no character but digits, apart from a sign in front. -/
theorem chars_of_parseUnsigned {text : String} {bound n : Nat}
    (parsed : parseUnsigned bound text = some n) :
    ∀ c ∈ text.toList, c = '+' ∨ 48 ≤ c.toNat ∧ c.toNat ≤ 57 := by
  intro c member
  by_cases signed : text.toList.head? = some '+'
  · obtain ⟨rest, parts⟩ := List.head?_eq_some_iff.mp signed
    simp only [parseUnsigned, parts] at parsed
    by_cases empty : rest = []
    · simp [empty] at parsed
    · rw [if_neg empty] at parsed
      obtain ⟨read, _⟩ := Option.filter_eq_some_iff.mp parsed
      rw [parts, List.mem_cons] at member
      cases member with
      | inl plus => exact .inl plus
      | inr later => exact .inr (digit_bounds (digits_of_parseDigits read c later))
  · rw [parseUnsigned_eq signed] at parsed
    obtain ⟨numeral, _⟩ := Option.filter_eq_some_iff.mp parsed
    exact .inr ((digits_of_decimal numeral).2 c member)

theorem dash_notMem_of_digits {cs : List Char} {acc n : Nat} (parsed : parseDigits acc cs = some n) :
    '-' ∉ cs := by
  intro member
  have bounds := digit_bounds (digits_of_parseDigits parsed '-' member)
  exact absurd bounds.1 (by decide)

/-- A run of digits is parsed alike by both, within the bound. -/
theorem parseUnsigned_of_digits {cs : List Char} {n bound : Nat} (nonempty : cs ≠ [])
    (parsed : parseDigits 0 cs = some n) (small : n < bound) :
    parseUnsigned bound (String.ofList cs) = some n := by
  have unsigned : (String.ofList cs).toList.head? ≠ some '+' := by
    rw [String.toList_ofList]
    intro signed
    obtain ⟨rest, parts⟩ := List.head?_eq_some_iff.mp signed
    have bounds := digit_bounds (digits_of_parseDigits parsed '+' (by rw [parts]; simp))
    exact absurd bounds.1 (by decide)
  rw [parseUnsigned_eq unsigned, decimal, String.toList_ofList, if_neg nonempty, parsed]
  simp [small]

theorem parseDigits_of_unsigned {cs extra : List Char} {m n bound : Nat} (nonempty : cs ≠ [])
    (digits : parseDigits 0 cs = some m)
    (parsed : parseUnsigned bound (String.ofList (cs ++ extra)) = some n) :
    parseDigits 0 (cs ++ extra) = some n := by
  obtain ⟨c, rest, parts⟩ := List.exists_cons_of_ne_nil nonempty
  have unsigned : (String.ofList (cs ++ extra)).toList.head? ≠ some '+' := by
    rw [String.toList_ofList, parts, List.cons_append, List.head?_cons]
    intro signed
    have bounds := digit_bounds (digits_of_parseDigits digits c (by rw [parts]; simp))
    rw [Option.some.inj signed] at bounds
    exact absurd bounds.1 (by decide)
  rw [parseUnsigned_eq unsigned, decimal, String.toList_ofList, if_neg (by rw [parts]; simp)] at parsed
  exact (Option.filter_eq_some_iff.mp parsed).1

theorem nonempty_of_length {α : Type} {xs : List α} {k : Nat} (length : xs.length = k + 1) :
    xs ≠ [] := by
  intro empty
  simp [empty] at length

/-! ## Splitting at dashes -/

theorem splitChar_cons {sep : Char} {xs ys : List Char} (outside : sep ∉ xs) :
    splitChar sep (String.ofList (xs ++ sep :: ys)) =
      String.ofList xs :: splitChar sep (String.ofList ys) := by
  simp [splitChar, List.splitOn_append_cons_self_of_not_mem outside]

/-- The first segment ends at the first separator. -/
theorem exists_first_segment (sep : Char) (cs : List Char) :
    ∃ first more rest, cs = first ++ more ∧ sep ∉ first ∧ (more = [] ∨ more.head? = some sep) ∧
      splitChar sep (String.ofList cs) = String.ofList first :: rest := by
  refine ⟨cs.takeWhile (· != sep), cs.dropWhile (· != sep), ?_⟩
  have outside : sep ∉ cs.takeWhile (· != sep) := by
    intro member
    have differs := List.mem_takeWhile_imp member
    simp at differs
  have parts := @List.takeWhile_append_dropWhile _ (· != sep) cs
  cases more : cs.dropWhile (· != sep) with
  | nil =>
    rw [more, List.append_nil] at parts
    refine ⟨[], by rw [List.append_nil, parts], outside, .inl rfl, ?_⟩
    rw [parts] at outside ⊢
    exact splitChar_of_notMem (by rwa [String.toList_ofList])
  | cons c ys =>
    have isSep : c = sep := by
      have head := List.head_dropWhile_not (p := (· != sep)) (by rw [more]; simp)
      simpa [more] using head
    subst isSep
    rw [more] at parts
    refine ⟨splitChar c (String.ofList ys), parts.symm, outside, .inr rfl, ?_⟩
    rw [← splitChar_cons outside, parts]

/-! ## What either side reads -/

/-- The month and the day are in range. -/
def InCalendar (mm dd : Nat) : Prop := 1 ≤ mm ∧ mm ≤ 12 ∧ 1 ≤ dd ∧ dd ≤ 31

/-- Once trimmed, the text begins with a date of fixed width. -/
def JsDate (s : String) : Prop :=
  ∃ y mm dd, matchDate (jsTrim s).toList = some (y, mm, dd) ∧ InCalendar mm dd

/-- The first three parts between dashes are numbers. -/
def RustDate (s : String) : Prop :=
  ∃ y m d rest yy mm dd, splitChar '-' s = y :: m :: d :: rest ∧
    parseUnsigned (2 ^ 32) y = some yy ∧ parseUnsigned (2 ^ 32) m = some mm ∧
    parseUnsigned (2 ^ 32) d = some dd ∧ InCalendar mm dd

/-- `YYYY-MM-DD`, with nothing or a further dash behind it. -/
def IsoDate (s : String) : Prop :=
  ∃ ys ms ds rest, ys.length = 4 ∧ ms.length = 2 ∧ ds.length = 2 ∧
    s.toList = ys ++ '-' :: (ms ++ '-' :: (ds ++ rest)) ∧ (rest = [] ∨ rest.head? = some '-') ∧
    (∀ c ∈ ys ++ ms ++ ds, (digitVal c).isSome = true)

/-- A date both sides read alike: whatever one of them reads is a plain ISO date. -/
def DateAlike : Json → Prop
  | .string s => JsDate s ∨ RustDate s → IsoDate s
  | _ => True

theorem dateToYmd_eq_some {s : String} {v : Nat} :
    dateToYmd (.string s) = some v ↔
      ∃ y mm dd, matchDate (jsTrim s).toList = some (y, mm, dd) ∧ InCalendar mm dd ∧
        v = y * 10000 + mm * 100 + dd := by
  simp only [dateToYmd, Json.asStr, Option.bind_eq_bind, Option.bind_some,
    Option.bind_eq_some_iff, Prod.exists]
  constructor
  · rintro ⟨y, mm, dd, found, value⟩
    split at value
    · cases value
    · exact ⟨y, mm, dd, found, by rw [InCalendar]; omega, (Option.some.inj value).symm⟩
  · rintro ⟨y, mm, dd, found, range, value⟩
    rw [InCalendar] at range
    exact ⟨y, mm, dd, found, by rw [if_neg (by omega), value]⟩

theorem exists_three {parts : List String} {a b c : String} (first : parts[0]? = some a)
    (second : parts[1]? = some b) (third : parts[2]? = some c) :
    ∃ rest, parts = a :: b :: c :: rest := by
  match parts with
  | [] => cases first
  | [_] => cases second
  | [_, _] => cases third
  | x :: y :: z :: rest =>
    obtain rfl := Option.some.inj first
    obtain rfl := Option.some.inj second
    obtain rfl := Option.some.inj third
    exact ⟨rest, rfl⟩

theorem dateToYyyymmdd_eq_some {s : String} {v : Nat} :
    dateToYyyymmdd (.string s) = some v ↔
      ∃ y m d rest yy mm dd, splitChar '-' s = y :: m :: d :: rest ∧
        parseUnsigned (2 ^ 32) y = some yy ∧ parseUnsigned (2 ^ 32) m = some mm ∧
        parseUnsigned (2 ^ 32) d = some dd ∧ InCalendar mm dd ∧
        v = (yy * 10000 + mm * 100 + dd) % 2 ^ 32 := by
  simp only [dateToYyyymmdd, Json.asStr, Option.bind_eq_bind, Option.bind_some,
    Option.bind_eq_some_iff]
  constructor
  · rintro ⟨yy, ⟨y, first, hy⟩, mm, ⟨m, second, hm⟩, dd, ⟨d, third, hd⟩, value⟩
    split at value
    · cases value
    · obtain ⟨rest, parts⟩ := exists_three first second third
      exact ⟨y, m, d, rest, yy, mm, dd, parts, hy, hm, hd, by rw [InCalendar]; omega,
        (Option.some.inj value).symm⟩
  · rintro ⟨y, m, d, rest, yy, mm, dd, parts, hy, hm, hd, range, value⟩
    rw [InCalendar] at range
    exact ⟨yy, ⟨y, by simp [parts], hy⟩, mm, ⟨m, by simp [parts], hm⟩, dd,
      ⟨d, by simp [parts], hd⟩, by rw [if_neg (by omega), value]⟩

/-! ## The common form -/

theorem matchDate_eq_some {cs : List Char} {y mm dd : Nat} :
    matchDate cs = some (y, mm, dd) ↔
      ∃ ys ms ds rest, ys.length = 4 ∧ ms.length = 2 ∧ ds.length = 2 ∧
        cs = ys ++ '-' :: (ms ++ '-' :: (ds ++ rest)) ∧ parseDigits 0 ys = some y ∧
        parseDigits 0 ms = some mm ∧ parseDigits 0 ds = some dd := by
  constructor
  · intro found
    rw [matchDate.eq_def] at found
    split at found
    · rename_i y₁ y₂ y₃ y₄ dash m₁ m₂ dash' d₁ d₂ rest
      simp only [Option.bind_eq_bind, Option.bind_eq_some_iff] at found
      obtain ⟨y', hy, m', hm, d', hd, value⟩ := found
      split at value
      · rename_i dashes
        simp only [Option.some.injEq, Prod.mk.injEq] at value
        obtain ⟨sameY, sameM, sameD⟩ := value
        subst sameY sameM sameD
        exact ⟨[y₁, y₂, y₃, y₄], [m₁, m₂], [d₁, d₂], rest, rfl, rfl, rfl,
          by rw [dashes.1, dashes.2]; rfl, hy, hm, hd⟩
      · cases value
    · cases found
  · intro ⟨ys, ms, ds, rest, fourDigits, twoDigits, twoDigits', parts, hy, hm, hd⟩
    obtain ⟨y₁, y₂, y₃, y₄, rfl⟩ := List.length_eq_four.mp fourDigits
    obtain ⟨m₁, m₂, rfl⟩ := List.length_eq_two.mp twoDigits
    obtain ⟨d₁, d₂, rfl⟩ := List.length_eq_two.mp twoDigits'
    rw [parts]
    simp [matchDate, hy, hm, hd]

/-- A trim keeps a beginning without spaces. -/
theorem exists_trimBy_append {space : Char → Bool} {s : String} {front rest : List Char}
    (parts : s.toList = front ++ rest) (nonempty : front ≠ [])
    (spaceless : ∀ c ∈ front, space c = false) :
    ∃ rest', (trimBy space s).toList = front ++ rest' := by
  obtain ⟨before, after, spaces, spaces', whole⟩ := exists_trimBy space s
  have none : before = [] := by
    cases before with
    | nil => rfl
    | cons c others =>
      obtain ⟨d, others', front_eq⟩ := List.exists_cons_of_ne_nil nonempty
      rw [parts, front_eq] at whole
      have same : d = c := by simpa using (List.cons.inj (by simpa using whole)).1
      have blank : space c = true := by simpa using (List.all_eq_true.mp spaces c (by simp))
      rw [← same, spaceless d (by rw [front_eq]; simp)] at blank
      cases blank
  rw [none, List.nil_append, parts] at whole
  cases List.append_eq_append_iff.mp whole with
  | inl longer =>
    obtain ⟨more, here, _⟩ := longer
    exact ⟨more, here⟩
  | inr shorter =>
    -- what is cut off the front would be spaces
    obtain ⟨cut, here, there⟩ := shorter
    have empty : cut = [] := by
      cases cut with
      | nil => rfl
      | cons c others =>
        have blank := List.all_eq_true.mp spaces' c (by rw [there]; simp)
        rw [spaceless c (by rw [here]; simp)] at blank
        cases blank
    rw [empty, List.append_nil] at here
    exact ⟨[], by rw [List.append_nil, here]⟩

theorem parseDigits_isSome {cs : List Char} (digits : ∀ c ∈ cs, (digitVal c).isSome = true)
    (acc : Nat) : ∃ n, parseDigits acc cs = some n := by
  induction cs generalizing acc with
  | nil => exact ⟨acc, rfl⟩
  | cons c rest ih =>
    obtain ⟨d, digit⟩ := Option.isSome_iff_exists.mp (digits c (by simp))
    obtain ⟨n, others⟩ := ih (fun e member => digits e (by simp [member])) (10 * acc + d)
    exact ⟨n, by rw [parseDigits, digit, Option.bind_some, others]⟩

theorem isJsWhitespace_visible {c : Char} (ascii : c.toNat < 128) (visible : 33 ≤ c.toNat) :
    isJsWhitespace c = false := by
  rw [isJsWhitespace, isWhitespace_visible ascii visible, Bool.false_and, Bool.false_or,
    beq_eq_false_iff_ne]
  omega

section

variable {s : String} {ys ms ds rest : List Char} {y mm dd : Nat}

/-- The dash that ends the year and the two parts behind it. -/
theorem splitChar_date (parts : s.toList = ys ++ '-' :: (ms ++ '-' :: (ds ++ rest)))
    (hy : parseDigits 0 ys = some y) (hm : parseDigits 0 ms = some mm) :
    splitChar '-' s = String.ofList ys :: String.ofList ms ::
      splitChar '-' (String.ofList (ds ++ rest)) := by
  rw [← String.ofList_toList (s := s), parts, splitChar_cons (dash_notMem_of_digits hy),
    splitChar_cons (dash_notMem_of_digits hm)]

theorem matchDate_jsTrim (fourDigits : ys.length = 4) (twoDigits : ms.length = 2)
    (twoDigits' : ds.length = 2) (parts : s.toList = ys ++ '-' :: (ms ++ '-' :: (ds ++ rest)))
    (hy : parseDigits 0 ys = some y) (hm : parseDigits 0 ms = some mm)
    (hd : parseDigits 0 ds = some dd) : matchDate (jsTrim s).toList = some (y, mm, dd) := by
  have visible : ∀ c ∈ ys ++ '-' :: (ms ++ '-' :: ds), isJsWhitespace c = false := by
    intro c member
    simp only [List.mem_append, List.mem_cons] at member
    have digit : ∀ {cs : List Char} {n : Nat}, parseDigits 0 cs = some n → c ∈ cs →
        isJsWhitespace c = false := by
      intro cs n parsed inside
      have bounds := digit_bounds (digits_of_parseDigits parsed c inside)
      exact isJsWhitespace_visible (by omega) (by omega)
    rcases member with inYear | dash | inMonth | dash | inDay
    · exact digit hy inYear
    · rw [dash]; decide
    · exact digit hm inMonth
    · rw [dash]; decide
    · exact digit hd inDay
  have front : s.toList = (ys ++ '-' :: (ms ++ '-' :: ds)) ++ rest := by rw [parts]; simp
  obtain ⟨rest', trimmed⟩ := exists_trimBy_append front (by simp) visible
  exact matchDate_eq_some.mpr
    ⟨ys, ms, ds, rest', fourDigits, twoDigits, twoDigits', by rw [jsTrim, trimmed]; simp, hy, hm, hd⟩

theorem fieldBound {cs : List Char} {n k : Nat} (length : cs.length = k)
    (parsed : parseDigits 0 cs = some n) : n < 10 ^ k := by
  have bound := (le_of_parseDigits parsed).2
  rw [length] at bound
  omega

end

/-- On a plain ISO date the two readings are one. -/
theorem dates_eq_of_iso {s : String} (iso : IsoDate s) :
    dateToYmd (.string s) = dateToYyyymmdd (.string s) := by
  obtain ⟨ys, ms, ds, rest, fourDigits, twoDigits, twoDigits', parts, ends, digits⟩ := iso
  obtain ⟨y, hy⟩ := @parseDigits_isSome ys (fun c member => digits c (by simp [member])) 0
  obtain ⟨mm, hm⟩ := @parseDigits_isSome ms (fun c member => digits c (by simp [member])) 0
  obtain ⟨dd, hd⟩ := @parseDigits_isSome ds (fun c member => digits c (by simp [member])) 0
  have smallY := fieldBound fourDigits hy
  have smallM := fieldBound twoDigits hm
  have smallD := fieldBound twoDigits' hd
  have here := matchDate_jsTrim fourDigits twoDigits twoDigits' parts hy hm hd
  obtain ⟨more, there⟩ : ∃ more, splitChar '-' s =
      String.ofList ys :: String.ofList ms :: String.ofList ds :: more := by
    rw [splitChar_date parts hy hm]
    cases ends with
    | inl nothing =>
      rw [nothing, List.append_nil, splitChar_of_notMem (by
        rw [String.toList_ofList]; exact dash_notMem_of_digits hd)]
      exact ⟨[], rfl⟩
    | inr dash =>
      obtain ⟨tail, rest_eq⟩ := List.head?_eq_some_iff.mp dash
      rw [rest_eq, splitChar_cons (dash_notMem_of_digits hd)]
      exact ⟨_, rfl⟩
  have readY := parseUnsigned_of_digits (nonempty_of_length fourDigits) hy
    (show y < 2 ^ 32 by omega)
  have readM := parseUnsigned_of_digits (nonempty_of_length twoDigits) hm
    (show mm < 2 ^ 32 by omega)
  have readD := parseUnsigned_of_digits (nonempty_of_length twoDigits') hd
    (show dd < 2 ^ 32 by omega)
  apply Option.ext
  intro v
  rw [dateToYmd_eq_some, dateToYyyymmdd_eq_some]
  constructor
  · intro ⟨y', mm', dd', found, range, value⟩
    obtain ⟨rfl, rfl, rfl⟩ : y = y' ∧ mm = mm' ∧ dd = dd' := by
      simpa using here.symm.trans found
    exact ⟨_, _, _, more, y, mm, dd, there, readY, readM, readD, range,
      by rw [value, Nat.mod_eq_of_lt (by omega)]⟩
  · intro ⟨y', m', d', rest', yy', mm', dd', found, readY', readM', readD', range, value⟩
    rw [there] at found
    simp only [List.cons.injEq] at found
    obtain ⟨rfl, rfl, rfl, _⟩ := found
    obtain rfl := Option.some.inj (readY.symm.trans readY')
    obtain rfl := Option.some.inj (readM.symm.trans readM')
    obtain rfl := Option.some.inj (readD.symm.trans readD')
    exact ⟨y, mm, dd, here, range, by rw [value, Nat.mod_eq_of_lt (by omega)]⟩

/-- Only a plain ISO date is read by both sides as one day. -/
theorem iso_of_dates_eq {s : String} {v : Nat} (here : dateToYmd (.string s) = some v)
    (there : dateToYyyymmdd (.string s) = some v) : IsoDate s := by
  obtain ⟨y, mm, dd, found, range, value⟩ := dateToYmd_eq_some.mp here
  obtain ⟨ys, ms, ds, rest, fourDigits, twoDigits, twoDigits', trimmed, hy, hm, hd⟩ :=
    matchDate_eq_some.mp found
  obtain ⟨yText, mText, dText, others, yy', mm', dd', split', readY, readM, readD, range', value'⟩ :=
    dateToYyyymmdd_eq_some.mp there
  obtain ⟨before, after, spaces, _, whole⟩ := exists_trimBy isJsWhitespace s
  -- a space in front would be part of the year
  have none : before = [] := by
    cases before with
    | nil => rfl
    | cons c front =>
      have blank : isJsWhitespace c = true := List.all_eq_true.mp spaces c (by simp)
      obtain ⟨first, more, rest', parts, _, _, segments⟩ := exists_first_segment '-' s.toList
      rw [String.ofList_toList, split', List.cons.injEq] at segments
      have inside : c ∈ yText.toList := by
        rw [segments.1, String.toList_ofList]
        cases first with
        | nil =>
          exfalso
          rw [segments.1] at readY
          cases readY
        | cons e first =>
          rw [parts] at whole
          have same : e = c := by simpa using (List.cons.inj (by simpa using whole)).1
          rw [same]
          simp
      cases chars_of_parseUnsigned readY c inside with
      | inl plus => rw [plus] at blank; exact absurd blank (by decide)
      | inr digit =>
        rw [isJsWhitespace_visible (by omega) (by omega)] at blank
        cases blank
  rw [none, List.nil_append, show trimBy isJsWhitespace s = jsTrim s from rfl, trimmed] at whole
  have parts : s.toList = ys ++ '-' :: (ms ++ '-' :: (ds ++ (rest ++ after))) := by
    rw [whole]; simp
  obtain ⟨day, more, rest', dayParts, _, ends, segments⟩ :=
    exists_first_segment '-' (ds ++ (rest ++ after))
  rw [splitChar_date parts hy hm, segments] at split'
  simp only [List.cons.injEq] at split'
  obtain ⟨rfl, rfl, rfl, _⟩ := split'
  obtain ⟨extra, day_eq, rest_eq⟩ : ∃ extra, day = ds ++ extra ∧ rest ++ after = extra ++ more := by
    cases List.append_eq_append_iff.mp dayParts with
    | inl longer => exact longer
    | inr shorter =>
      obtain ⟨cut, ds_eq, more_eq⟩ := shorter
      cases cut with
      | nil => exact ⟨[], by rw [ds_eq]; simp, by rw [more_eq]; simp⟩
      | cons c cut =>
        exfalso
        apply dash_notMem_of_digits hd
        cases ends with
        | inl nothing => rw [nothing] at more_eq; cases more_eq
        | inr dash =>
          rw [more_eq, List.cons_append, List.head?_cons, Option.some.injEq] at dash
          rw [ds_eq, dash]
          simp
  have smallY := fieldBound fourDigits hy
  have sameY : yy' = y := by
    have read := parseUnsigned_of_digits (nonempty_of_length fourDigits) hy
      (show y < 2 ^ 32 by omega)
    exact Option.some.inj (readY.symm.trans read)
  have sameM : mm' = mm := by
    have smallM := fieldBound twoDigits hm
    have read := parseUnsigned_of_digits (nonempty_of_length twoDigits) hm
      (show mm < 2 ^ 32 by omega)
    exact Option.some.inj (readM.symm.trans read)
  have sameD : dd' = dd := by
    rw [InCalendar] at range range'
    rw [sameY, sameM] at value'
    rw [Nat.mod_eq_of_lt (by omega)] at value'
    omega
  -- further digits would make the day larger
  have reread : parseDigits dd extra = some dd := by
    have parsed := parseDigits_of_unsigned (nonempty_of_length twoDigits') hd (day_eq ▸ readD)
    rwa [parseDigits_append, hd, Option.bind_some, sameD] at parsed
  have noExtra : extra = [] := by
    have grown := (le_of_parseDigits reread).1
    rw [InCalendar] at range
    cases extra with
    | nil => rfl
    | cons c extra =>
      have tenfold : 10 ≤ 10 ^ (c :: extra).length := by
        rw [List.length_cons, Nat.pow_succ']
        exact Nat.le_mul_of_pos_right _ (Nat.pos_of_ne_zero (by simp))
      have larger := Nat.mul_le_mul_left dd tenfold
      omega
  rw [noExtra, List.nil_append] at rest_eq
  refine ⟨ys, ms, ds, rest ++ after, fourDigits, twoDigits, twoDigits', parts, ?_, ?_⟩
  · rw [rest_eq]
    exact ends
  · intro c member
    simp only [List.mem_append] at member
    rcases member with (inYear | inMonth) | inDay
    · exact digits_of_parseDigits hy c inYear
    · exact digits_of_parseDigits hm c inMonth
    · exact digits_of_parseDigits hd c inDay

theorem dateToYmd_eq_iff (v : Json) : dateToYmd v = dateToYyyymmdd v ↔ DateAlike v := by
  cases v with
  | string s =>
    have here : dateToYmd (.string s) ≠ none ↔ JsDate s := by
      rw [Option.ne_none_iff_exists']
      constructor
      · intro ⟨v, read⟩
        obtain ⟨y, mm, dd, found, range, _⟩ := dateToYmd_eq_some.mp read
        exact ⟨y, mm, dd, found, range⟩
      · intro ⟨y, mm, dd, found, range⟩
        exact ⟨_, dateToYmd_eq_some.mpr ⟨y, mm, dd, found, range, rfl⟩⟩
    have there : dateToYyyymmdd (.string s) ≠ none ↔ RustDate s := by
      rw [Option.ne_none_iff_exists']
      constructor
      · intro ⟨v, read⟩
        obtain ⟨y, m, d, rest, yy, mm, dd, parts, hy, hm, hd, range, _⟩ :=
          dateToYyyymmdd_eq_some.mp read
        exact ⟨y, m, d, rest, yy, mm, dd, parts, hy, hm, hd, range⟩
      · intro ⟨y, m, d, rest, yy, mm, dd, parts, hy, hm, hd, range⟩
        exact ⟨_, dateToYyyymmdd_eq_some.mpr ⟨y, m, d, rest, yy, mm, dd, parts, hy, hm, hd, range, rfl⟩⟩
    rw [DateAlike, ← here, ← there]
    constructor
    · intro same reads
      rw [same, or_self] at reads
      obtain ⟨day, read⟩ := Option.ne_none_iff_exists'.mp reads
      exact iso_of_dates_eq (same.trans read) read
    · intro alike
      by_cases reads : dateToYmd (.string s) ≠ none ∨ dateToYyyymmdd (.string s) ≠ none
      · exact dates_eq_of_iso (alike reads)
      · simp only [ne_eq, not_or, not_not] at reads
        rw [reads.1, reads.2]
  | _ => exact iff_of_true (by simp [dateToYmd, dateToYyyymmdd, Json.asStr]) trivial

theorem dateToYmd_lt {v : Json} {ymd : Nat} (read : dateToYmd v = some ymd) : ymd < 2 ^ 32 := by
  cases v with
  | string s =>
    obtain ⟨y, mm, dd, found, range, value⟩ := dateToYmd_eq_some.mp read
    obtain ⟨ys, _, _, _, fourDigits, _, _, _, hy, _, _⟩ := matchDate_eq_some.mp found
    have small := fieldBound fourDigits hy
    rw [InCalendar] at range
    omega
  | _ => simp [dateToYmd, Json.asStr] at read

end OwlId.Sdk
