import Mathlib
import OwlId.Sdk.OwlRoot

/-! # Flags and levels in the two readers

The boolean claims and the verification level, as the Rust reader and its port read
them.  A value that either side reads has to be written in a form both read the same
way: no negative or rounded number, and no text that only one of them trims to a
label or a numeral.
-/

namespace OwlId.Sdk

open OwlId.Lib OwlId.ProofSystem

/-! ## Labels -/

/-- No letter of the label is the lower case of a character outside ASCII. -/
def isLabel (label : String) : Bool := label.toList.all fun c => c.toNat < 128 && c != 'k'

theorem isLabel_eq_true {label : String} (labelled : isLabel label = true) :
    ∀ c ∈ label.toList, c.toNat < 128 ∧ c ≠ 'k' := by
  simpa [isLabel] using labelled

theorem ascii_of_asciiLower {text label : String} (labelled : isLabel label = true)
    (same : toAsciiLowercase text = label) : ∀ c ∈ text.toList, c.toNat < 128 := by
  intro c member
  have inside : asciiLower c ∈ label.toList := by
    rw [← same, toAsciiLowercase, String.toList_ofList]
    exact List.mem_map.mpr ⟨c, member, rfl⟩
  have small := (isLabel_eq_true labelled _ inside).1
  by_contra wide
  rw [asciiLower_eq_self (by omega)] at small
  exact wide small

theorem ascii_of_toLowerCase {text label : String} (labelled : isLabel label = true)
    (same : toLowerCase text = label) : ∀ c ∈ text.toList, c.toNat < 128 := by
  intro c member
  have inside : ∀ d ∈ lowerChar c, d ∈ label.toList := by
    intro d lowered
    rw [← same, toLowerCase, String.toList_ofList]
    exact List.mem_flatMap.mpr ⟨c, member, lowered⟩
  cases lowerChar_ascii fun d lowered => (isLabel_eq_true labelled d (inside d lowered)).1 with
  | inl ascii => exact ascii
  | inr kelvin =>
    -- the Kelvin sign becomes a `k`, which no label has
    have sign : c = Char.ofNat 8490 := by rw [← kelvin, Char.ofNat_toNat]
    have lowered : 'k' ∈ lowerChar c := by rw [sign]; decide
    exact absurd rfl (isLabel_eq_true labelled 'k' (inside 'k' lowered)).2

theorem lower_eq_iff {text label : String} (labelled : isLabel label = true) :
    toLowerCase text = label ↔ toAsciiLowercase text = label := by
  constructor
  · intro same
    rw [← toLowerCase_ascii (ascii_of_toLowerCase labelled same), same]
  · intro same
    rw [toLowerCase_ascii (ascii_of_asciiLower labelled same), same]

section

variable {α : Type} {labels : List (String × α)}

theorem lookup_congr {x y : String} (agree : ∀ p ∈ labels, x = p.1 ↔ y = p.1) :
    labels.lookup x = labels.lookup y := by
  induction labels with
  | nil => rfl
  | cons p rest ih =>
    have head := agree p (by simp)
    have tail := ih fun q member => agree q (by simp [member])
    by_cases same : x = p.1
    · rw [List.lookup_cons, List.lookup_cons, same, head.mp same]
    · have other : ¬ y = p.1 := fun equal => same (head.mpr equal)
      rw [List.lookup_cons, List.lookup_cons, beq_false_of_ne same, beq_false_of_ne other, tail]

theorem lookup_eq_none {x : String} : labels.lookup x = none ↔ ∀ p ∈ labels, x ≠ p.1 := by
  rw [List.lookup_eq_none_iff]
  simp

/-- A label that one side finds is found without odd spaces. -/
theorem odd_free_of_ascii {text : String} (ascii : ∀ c ∈ text.toList, c.toNat < 128) :
    ∀ c ∈ text.toList, isOddSpace c = false := by
  intro c member
  have small := ascii c member
  simp only [isOddSpace, Bool.or_eq_false_iff, beq_eq_false_iff_ne]
  omega

theorem lookup_lower_eq (labelled : ∀ p ∈ labels, isLabel p.1 = true) (text : String) :
    labels.lookup (toLowerCase text) = labels.lookup (toAsciiLowercase text) :=
  lookup_congr fun p member => lower_eq_iff (labelled p member)

/-- If both sides find a label in a text, they have trimmed it alike. -/
theorem trims_eq_of_labels {s : String} (labelled : ∀ p ∈ labels, isLabel p.1 = true)
    (here : labels.lookup (toLowerCase (jsTrim s)) ≠ none)
    (there : labels.lookup (toAsciiLowercase (trim s)) ≠ none) : jsTrim s = trim s := by
  simp only [ne_eq, lookup_eq_none, not_forall, not_not] at here there
  obtain ⟨p, member, found⟩ := here
  obtain ⟨q, member', found'⟩ := there
  exact jsTrim_eq_trim (odd_free_of_ascii (ascii_of_toLowerCase (labelled p member) found))
    (odd_free_of_ascii (ascii_of_asciiLower (labelled q member') found'))

end

/-! ## Flags -/

def flagLabels : List (String × Bool) :=
  [("true", true), ("yes", true), ("1", true), ("false", false), ("no", false), ("0", false)]

theorem flagLabels_labelled : ∀ p ∈ flagLabels, isLabel p.1 = true := by decide

theorem toBool_string (s : String) :
    toBool (.string s) = flagLabels.lookup (toLowerCase (jsTrim s)) := by
  rw [toBool]
  generalize toLowerCase (jsTrim s) = text
  split
  case h_7 =>
    symm
    rw [lookup_eq_none]
    simp_all [flagLabels]
  all_goals rfl

theorem jsonToBool_string (s : String) :
    jsonToBool (.string s) = flagLabels.lookup (toAsciiLowercase (trim s)) := by
  rw [jsonToBool]
  generalize toAsciiLowercase (trim s) = text
  split
  case h_7 =>
    symm
    rw [lookup_eq_none]
    simp_all [flagLabels]
  all_goals rfl

/-- A flag both sides read alike: no negative or fractional number, and no text that only
one of them trims to a label. -/
def FlagAlike : Json → Prop
  | .number (.posInt _) => True
  | .number _ => False
  | .string s =>
    (flagLabels.lookup (toLowerCase (jsTrim s)) ≠ none ∨
      flagLabels.lookup (toAsciiLowercase (trim s)) ≠ none) → jsTrim s = trim s
  | _ => True

theorem roundDouble_eq_zero {n : Nat} : roundDouble n = 0 ↔ n = 0 := by
  constructor
  · intro zero
    rw [roundDouble, Nat.mul_eq_zero] at zero
    cases zero with
    | inl none =>
      by_contra positive
      have atLeast : ulp n ≤ n := by
        rw [ulp]
        exact le_trans (Nat.pow_le_pow_right (by omega) (Nat.sub_le _ _)) (Nat.log2_self_le positive)
      have quotient := Nat.div_pos atLeast (ulp_pos n)
      cases nearestEven_cases n (ulp_pos n) with
      | inl down => omega
      | inr up => omega
    | inr none => exact absurd none (Nat.ne_of_gt (ulp_pos n))
  · intro zero
    rw [zero, roundDouble_eq_self_iff.mpr (Nat.dvd_zero _)]

theorem toBool_eq_iff (v : Json) : toBool v = jsonToBool v ↔ FlagAlike v := by
  cases v with
  | string s =>
    rw [toBool_string, jsonToBool_string, FlagAlike]
    constructor
    · intro same found
      have both : flagLabels.lookup (toLowerCase (jsTrim s)) ≠ none ∧
          flagLabels.lookup (toAsciiLowercase (trim s)) ≠ none := by
        rw [same] at found ⊢
        simpa using found
      exact trims_eq_of_labels flagLabels_labelled both.1 both.2
    · intro alike
      by_cases found : flagLabels.lookup (toLowerCase (jsTrim s)) = none ∧
          flagLabels.lookup (toAsciiLowercase (trim s)) = none
      · rw [found.1, found.2]
      · rw [alike (not_and_or.mp found), lookup_lower_eq flagLabels_labelled]
  | number n =>
    cases n with
    | posInt n =>
      refine iff_of_true ?_ trivial
      have zero : (JsNumber.integer (roundDouble n) = .integer 0) ↔ n = 0 := by
        rw [JsNumber.integer.injEq, Int.natCast_eq_zero, roundDouble_eq_zero]
      show some (JsNumber.integer (roundDouble n) != .integer 0) = some (n != 0)
      rw [Option.some.injEq, Bool.eq_iff_iff, bne_iff_ne, bne_iff_ne, ne_eq, zero]
    | negInt n => exact iff_of_false (by simp [toBool, jsonToBool]) not_false
    | float bits => exact iff_of_false (by simp [toBool, jsonToBool]) not_false
  | _ => exact iff_of_true rfl trivial

/-! ## Numbers as words -/

theorem intLE32_natCast (n : Nat) : intLE32 (n : Int) = ProofSystem.u128Le32 n := by
  rw [intLE32, Int.toNat_natCast, padBytes_leDigits, ProofSystem.u128Le32]

theorem u128Le32_eq_iff {m n : Nat} :
    ProofSystem.u128Le32 m = ProofSystem.u128Le32 n ↔ m % 2 ^ 128 = n % 2 ^ 128 := by
  constructor
  · intro same
    exact leBytes32_inj (by omega) (by omega) same
  · intro same
    rw [ProofSystem.u128Le32, same, ProofSystem.u128Le32]

theorem numberOf_natCast {n : Nat} (bound : n < 2 ^ 128) :
    numberOf (n : Int) = some (roundDouble n : Int) := by
  simp [numberOf, toDouble_of_lt bound]

/-- A rounded word is the word itself only of a number that is a double. -/
theorem roundedWord_eq_iff {n : Nat} (bound : n < 2 ^ 128) :
    intLE32 (roundDouble n : Int) = claimValueInt n ↔ IsDouble n := by
  rw [intLE32_natCast, claimValueInt, u128Le32_eq_iff, Nat.mod_eq_of_lt bound,
    roundDouble_mod_eq_iff bound]

/-! ## Levels -/

def levelLabels : List (String × Nat) :=
  [("none", 0), ("", 0), ("low", 1), ("basic", 1), ("medium", 2), ("substantial", 2), ("high", 3)]

theorem levelLabels_labelled : ∀ p ∈ levelLabels, isLabel p.1 = true := by decide

/-- A level both sides read alike: an integer of at most 53 significant bits, or a text that
both trim to the same label or numeral of such an integer. -/
def LevelAlike : Json → Prop
  | .number (.posInt n) => IsDouble n
  | .number (.negInt _) => False
  | .number (.float bits) => floatInteger bits = none
  | .string s =>
    (((decimal (jsTrim s)).isSome = true ∨ levelLabels.lookup (toLowerCase (jsTrim s)) ≠ none) ∨
      ((parseUnsigned (2 ^ 128) (trim s)).isSome = true ∨
        levelLabels.lookup (toAsciiLowercase (trim s)) ≠ none)) →
    jsTrim s = trim s ∧ (trim s).toList.head? ≠ some '+' ∧
      ∀ n, decimal (trim s) = some n → n < 2 ^ 128 ∧ IsDouble n
  | _ => True

theorem verificationLevelToNumber_string (s : String) :
    verificationLevelToNumber (.string s) =
      match decimal (jsTrim s) with
      | some n => some (numberOf n)
      | none => (levelLabels.lookup (toLowerCase (jsTrim s))).map fun n : Nat => some (n : Int) := by
  rw [verificationLevelToNumber, toBigInt]
  cases decimal (jsTrim s) with
  | some n => rfl
  | none =>
    simp only [Option.map_none, Json.asStr, Option.bind_some]
    generalize toLowerCase (jsTrim s) = text
    split
    case h_8 =>
      symm
      rw [Option.map_eq_none_iff, lookup_eq_none]
      simp_all [levelLabels]
    all_goals rfl

theorem verificationLevelToU128_string (s : String) :
    verificationLevelToU128 (.string s) =
      match parseUnsigned (2 ^ 128) (trim s) with
      | some n => some n
      | none => levelLabels.lookup (toAsciiLowercase (trim s)) := by
  rw [verificationLevelToU128, jsonToU128]
  cases parseUnsigned (2 ^ 128) (trim s) with
  | some n => rfl
  | none =>
    simp only [Json.asStr, Option.bind_some]
    generalize toAsciiLowercase (trim s) = text
    split
    case h_8 =>
      symm
      rw [lookup_eq_none]
      simp_all [levelLabels]
    all_goals rfl

/-! ### Numerals -/

theorem digits_of_parseDigits {cs : List Char} {acc n : Nat} (parsed : parseDigits acc cs = some n) :
    ∀ c ∈ cs, (digitVal c).isSome = true := by
  induction cs generalizing acc with
  | nil => simp
  | cons c rest ih =>
    rw [parseDigits, Option.bind_eq_some_iff] at parsed
    obtain ⟨d, digit, others⟩ := parsed
    simp only [List.mem_cons, forall_eq_or_imp]
    exact ⟨by rw [digit]; rfl, ih others⟩

theorem digit_bounds {c : Char} (digit : (digitVal c).isSome = true) :
    48 ≤ c.toNat ∧ c.toNat ≤ 57 := by
  rw [digitVal] at digit
  split at digit
  · rename_i inside
    simpa only [charLe_iff, Char.reduceToNat] using inside
  · cases digit

theorem digits_of_decimal {text : String} {n : Nat} (numeral : decimal text = some n) :
    text.toList ≠ [] ∧ ∀ c ∈ text.toList, 48 ≤ c.toNat ∧ c.toNat ≤ 57 := by
  rw [decimal] at numeral
  split at numeral
  · cases numeral
  · rename_i some
    exact ⟨some, fun c member => digit_bounds (digits_of_parseDigits numeral c member)⟩

/-- Without a sign, the Rust reader is the pattern with a bound. -/
theorem parseUnsigned_eq {text : String} (unsigned : text.toList.head? ≠ some '+') (bound : Nat) :
    parseUnsigned bound text = (decimal text).filter (· < bound) := by
  simp only [parseUnsigned]
  split
  · rename_i rest signed
    rw [signed] at unsigned
    exact absurd rfl unsigned
  · by_cases empty : text.toList = []
    · simp [decimal, empty]
    · simp [decimal, empty]

theorem ascii_of_parseUnsigned {text : String} {bound n : Nat}
    (parsed : parseUnsigned bound text = some n) : ∀ c ∈ text.toList, c.toNat < 128 := by
  intro c member
  by_cases signed : text.toList.head? = some '+'
  · obtain ⟨rest, parts⟩ : ∃ rest, text.toList = '+' :: rest := by
      cases hcs : text.toList with
      | nil => rw [hcs] at signed; cases signed
      | cons d rest => rw [hcs] at signed; exact ⟨rest, by rw [Option.some.inj signed]⟩
    simp only [parseUnsigned, parts] at parsed
    by_cases empty : rest = []
    · simp [empty] at parsed
    · rw [if_neg empty] at parsed
      obtain ⟨read, _⟩ := Option.filter_eq_some_iff.mp parsed
      rw [parts, List.mem_cons] at member
      cases member with
      | inl plus => rw [plus]; decide
      | inr later => have bounds := digit_bounds (digits_of_parseDigits read c later); omega
  · rw [parseUnsigned_eq signed] at parsed
    obtain ⟨numeral, _⟩ := Option.filter_eq_some_iff.mp parsed
    have bounds := (digits_of_decimal numeral).2 c member
    omega

/-- No label is made of digits. -/
theorem no_label_of_decimal {text : String} {n : Nat} (numeral : decimal text = some n) :
    levelLabels.lookup (toAsciiLowercase text) = none := by
  obtain ⟨nonempty, digits⟩ := digits_of_decimal numeral
  obtain ⟨c, rest, parts⟩ := List.exists_cons_of_ne_nil nonempty
  have bounds := digits c (by rw [parts]; simp)
  have lowered : asciiLower c = c := asciiLower_eq_self (by omega)
  rw [lookup_eq_none]
  intro p member same
  have letters : ∀ p ∈ levelLabels, p.1.toList.all (fun c => 57 < c.toNat) = true := by
    decide
  have inside : c ∈ p.1.toList := by
    rw [← same, toAsciiLowercase, String.toList_ofList, parts, List.map_cons, lowered]
    simp
  have large := List.all_eq_true.mp (letters p member) c inside
  simp only [decide_eq_true_eq] at large
  omega

theorem no_label_of_signed {text : String} (signed : text.toList.head? = some '+') :
    decimal text = none ∧ levelLabels.lookup (toLowerCase text) = none := by
  obtain ⟨rest, parts⟩ : ∃ rest, text.toList = '+' :: rest := by
    cases hcs : text.toList with
    | nil => rw [hcs] at signed; cases signed
    | cons d rest => rw [hcs] at signed; exact ⟨rest, by rw [Option.some.inj signed]⟩
  refine ⟨?_, ?_⟩
  · cases numeral : decimal text with
    | none => rfl
    | some n =>
      have bounds := (digits_of_decimal numeral).2 '+' (by rw [parts]; simp)
      exact absurd bounds.1 (by decide)
  · rw [lookup_eq_none]
    intro p member same
    have unsigned : ∀ p ∈ levelLabels, '+' ∉ p.1.toList := by decide
    apply unsigned p member
    rw [← same, toLowerCase, String.toList_ofList, parts, List.flatMap_cons]
    rw [lowerChar_of_ascii (by decide)]
    exact List.mem_append_left _ (by decide)

/-! ### Agreement -/

/-- The encoded level of the port; a level that throws is no value. -/
def levelWord (v : Json) : Except String (Option Bytes32) :=
  match verificationLevelToNumber v with
  | none => .ok none
  | some (some n) => .ok (some (intLE32 n))
  | some none => .error infiniteLevel

theorem levelWord_eq_none {v : Json} :
    levelWord v = .ok none ↔ verificationLevelToNumber v = none := by
  rw [levelWord]
  cases verificationLevelToNumber v with
  | none => simp
  | some level => cases level <;> simp

theorem levelString_eq_iff (s : String) :
    levelWord (.string s) = .ok ((verificationLevelToU128 (.string s)).map claimValueInt) ↔
      LevelAlike (.string s) := by
  rw [LevelAlike]
  -- what either side reads, in the words of the condition
  have here : verificationLevelToNumber (.string s) ≠ none ↔
      (decimal (jsTrim s)).isSome = true ∨ levelLabels.lookup (toLowerCase (jsTrim s)) ≠ none := by
    rw [verificationLevelToNumber_string]
    cases decimal (jsTrim s) <;> simp
  have there : verificationLevelToU128 (.string s) ≠ none ↔
      (parseUnsigned (2 ^ 128) (trim s)).isSome = true ∨
        levelLabels.lookup (toAsciiLowercase (trim s)) ≠ none := by
    rw [verificationLevelToU128_string]
    cases parseUnsigned (2 ^ 128) (trim s) <;> simp
  rw [← here, ← there]
  constructor
  · intro same reads
    -- one side reads, so both do
    have both : verificationLevelToNumber (.string s) ≠ none ∧
        verificationLevelToU128 (.string s) ≠ none := by
      by_cases none : verificationLevelToU128 (.string s) = none
      · rw [none, Option.map_none, levelWord_eq_none] at same
        exact absurd reads (by simp [same, none])
      · refine ⟨fun absent => none ?_, none⟩
        rw [levelWord_eq_none.mpr absent] at same
        simpa using (Except.ok.inj same).symm
    have ascii : ∀ c ∈ (jsTrim s).toList, c.toNat < 128 := by
      cases here.mp both.1 with
      | inl numeral =>
        obtain ⟨n, numeral⟩ := Option.isSome_iff_exists.mp numeral
        intro c member
        have bounds := (digits_of_decimal numeral).2 c member
        omega
      | inr label =>
        simp only [ne_eq, lookup_eq_none, not_forall, not_not] at label
        obtain ⟨p, member, found⟩ := label
        exact ascii_of_toLowerCase (levelLabels_labelled p member) found
    have ascii' : ∀ c ∈ (trim s).toList, c.toNat < 128 := by
      cases there.mp both.2 with
      | inl numeral =>
        obtain ⟨n, numeral⟩ := Option.isSome_iff_exists.mp numeral
        exact ascii_of_parseUnsigned numeral
      | inr label =>
        simp only [ne_eq, lookup_eq_none, not_forall, not_not] at label
        obtain ⟨p, member, found⟩ := label
        exact ascii_of_asciiLower (levelLabels_labelled p member) found
    have trims := jsTrim_eq_trim (odd_free_of_ascii ascii) (odd_free_of_ascii ascii')
    have unsigned : (trim s).toList.head? ≠ some '+' := by
      intro signed
      have nothing := no_label_of_signed signed
      apply both.1
      rw [verificationLevelToNumber_string, trims, nothing.1, nothing.2]
      rfl
    refine ⟨trims, unsigned, fun n numeral => ?_⟩
    have bound : n < 2 ^ 128 := by
      by_contra large
      apply both.2
      rw [verificationLevelToU128_string, parseUnsigned_eq unsigned, numeral]
      simp only [Option.filter_some, decide_eq_true_eq, large, if_false, no_label_of_decimal numeral]
    refine ⟨bound, ?_⟩
    rw [levelWord, verificationLevelToNumber_string, verificationLevelToU128_string, trims,
      parseUnsigned_eq unsigned, numeral] at same
    simp only [numberOf_natCast bound, Option.filter_some, bound, decide_true, if_true,
      Option.map_some, Except.ok.injEq, Option.some.injEq] at same
    exact (roundedWord_eq_iff bound).mp same
  · intro alike
    by_cases reads : verificationLevelToNumber (.string s) ≠ none ∨
        verificationLevelToU128 (.string s) ≠ none
    · obtain ⟨trims, unsigned, numerals⟩ := alike reads
      rw [levelWord, verificationLevelToNumber_string, verificationLevelToU128_string, trims,
        parseUnsigned_eq unsigned]
      cases numeral : decimal (trim s) with
      | some n =>
        obtain ⟨bound, double⟩ := numerals n numeral
        simp only [numberOf_natCast bound, Option.filter_some, bound, decide_true, if_true,
          Option.map_some, (roundedWord_eq_iff bound).mpr double]
      | none =>
        rw [lookup_lower_eq levelLabels_labelled]
        cases levelLabels.lookup (toAsciiLowercase (trim s)) with
        | none => rfl
        | some n => simp [intLE32_natCast, claimValueInt]
    · simp only [ne_eq, not_or, not_not] at reads
      rw [levelWord_eq_none.mpr reads.1, reads.2, Option.map_none]

/-- A number of the JSON library: what is not negative is a `u64`. -/
def ValidNumber : Json → Prop
  | .number (.posInt n) => n < 2 ^ 64
  | _ => True

theorem levelWord_eq_iff {v : Json} (valid : ValidNumber v) :
    levelWord v = .ok ((verificationLevelToU128 v).map claimValueInt) ↔ LevelAlike v := by
  cases v with
  | string s => exact levelString_eq_iff s
  | number n =>
    cases n with
    | posInt n =>
      have small : n < 2 ^ 64 := valid
      have rounded := roundDouble_le small
      have level : verificationLevelToNumber (.number (.posInt n)) =
          some (some (roundDouble n : Int)) := by
        rw [verificationLevelToNumber, toBigInt, jsNumber]
        simp only [numberOf_natCast (lt_of_le_of_lt rounded (by omega)), roundDouble_roundDouble]
      rw [levelWord, level]
      simp only [verificationLevelToU128, jsonToU128, Option.map_some, Except.ok.injEq,
        Option.some.injEq]
      exact roundedWord_eq_iff (by omega)
    | negInt n =>
      refine iff_of_false ?_ not_false
      simp only [verificationLevelToU128, jsonToU128, Json.asStr, Option.bind_none, Option.map_none,
        levelWord_eq_none]
      simp [verificationLevelToNumber, toBigInt, jsNumber]
    | float bits =>
      simp only [verificationLevelToU128, jsonToU128, Json.asStr, Option.bind_none, Option.map_none,
        levelWord_eq_none, LevelAlike]
      simp only [verificationLevelToNumber, toBigInt, jsNumber]
      cases floatInteger bits with
      | none => simp [Json.asStr]
      | some n => simp
  | _ => exact iff_of_true rfl trivial

end OwlId.Sdk
