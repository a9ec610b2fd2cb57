import Mathlib
import OwlId.Issuer.Issuance
import OwlId.ProofSystem.Countries
import OwlId.Sdk.ClaimValues

/-! # From attributes to issued claims

Where each claim that a circuit reads comes from among the attributes, and how the
reading that decides a stamp compares with the reading that is committed to.
-/

namespace OwlId.Issuer

open OwlId.Lib OwlId.ProofSystem

/-! ## From attributes to claims -/

theorem getClaim_renameAttributes_eq (attrs : ClaimMap) (name : String) :
    getClaim (renameAttributes attrs) name =
      (((attrs.fields.filter fun field => !isKeyMaterial field.1).map
        fun field => (standardName field.1, field.2)).reverse).lookup name := by
  rw [← Json.get_ofFields, Json.ofFields, List.foldl_map, Json.get, renameAttributes]
  -- the map and the field list are folded in step
  suffices step : ∀ (fields : List (String × Json)) (map : ClaimMap),
      (fields.foldl (fun claims field => insertClaim claims (standardName field.1) field.2)
        map).fields =
      fields.foldl (fun acc field => Json.insertField (standardName field.1) field.2 acc)
        map.fields by
    rw [getClaim, step]
    rfl
  intro fields
  induction fields with
  | nil => intro map; rfl
  | cons field rest ih =>
    intro map
    exact ih (insertClaim map (standardName field.1) field.2)

/-- A claim that at most two attributes are renamed to is the later of them. -/
theorem getClaim_renameAttributes {name low high : String} (order : low ≤ high)
    (sources : ∀ k, standardName k = name ↔ k = low ∨ k = high)
    (lowKept : isKeyMaterial low = false) (highKept : isKeyMaterial high = false)
    (attrs : ClaimMap) :
    getClaim (renameAttributes attrs) name = (getClaim attrs high).or (getClaim attrs low) := by
  rw [getClaim_renameAttributes_eq, getClaim, getClaim]
  have sorted := attrs.sorted
  generalize attrs.fields = fields at sorted
  induction fields with
  | nil => rfl
  | cons field rest ih =>
    obtain ⟨k, v⟩ := field
    obtain ⟨least, tail⟩ := List.pairwise_cons.mp sorted
    have later := ih tail
    have absent : ∀ {other : String}, other ≤ k → rest.lookup other = none := by
      intro other before
      apply Json.lookup_eq_none_of_notMem
      intro member
      obtain ⟨field, found, rfl⟩ := List.mem_map.mp member
      exact absurd (least field found) (not_lt.mpr before)
    rw [Json.lookup_cons_ite, Json.lookup_cons_ite]
    by_cases isHigh : high = k
    · subst isHigh
      rw [absent order, absent le_rfl] at later
      rw [List.filter_cons_of_pos (by simp [highKept]), List.map_cons, List.reverse_cons,
        List.lookup_append, later, Json.lookup_cons_ite,
        if_pos ((sources high).mpr (.inr rfl)).symm]
      simp
    · rw [if_neg isHigh]
      by_cases isLow : low = k
      · subst isLow
        rw [absent le_rfl] at later
        rw [List.filter_cons_of_pos (by simp [lowKept]), List.map_cons, List.reverse_cons,
          List.lookup_append, later, Json.lookup_cons_ite,
          if_pos ((sources low).mpr (.inl rfl)).symm]
        simp
      · rw [if_neg isLow, ← later]
        by_cases key : isKeyMaterial k = true
        · rw [List.filter_cons_of_neg (by simp [key])]
        · have other : name ≠ standardName k := by
            intro same
            cases (sources k).mp same.symm with
            | inl isLow' => exact isLow isLow'.symm
            | inr isHigh' => exact isHigh isHigh'.symm
          rw [List.filter_cons_of_pos (by simpa using key), List.map_cons, List.reverse_cons,
            List.lookup_append, Json.lookup_cons_ite, if_neg other]
          simp

/-- The claims a circuit reads, with the two attributes that may become one of them. -/
def boundSources : List (String × String × String) :=
  [("verification_level", "verificationLevel", "verification_level"),
    ("birthdate", "birthdate", "dateOfBirth"),
    ("email_verified", "emailVerified", "email_verified"),
    ("nationality", "nationality", "nationality"),
    ("residentCountry", "residentCountry", "residentCountry"),
    ("personhoodSecret", "personhoodSecret", "personhoodSecret")]

theorem standardName_eq_iff {name low high : String} (bound : (name, low, high) ∈ boundSources)
    (k : String) : standardName k = name ↔ k = low ∨ k = high := by
  simp only [boundSources, List.mem_cons, Prod.mk.injEq, List.not_mem_nil, or_false] at bound
  unfold standardName
  obtain ⟨rfl, rfl, rfl⟩ | ⟨rfl, rfl, rfl⟩ | ⟨rfl, rfl, rfl⟩ | ⟨rfl, rfl, rfl⟩ | ⟨rfl, rfl, rfl⟩ |
    ⟨rfl, rfl, rfl⟩ := bound
  all_goals split <;> simp_all

theorem boundSources_kept : ∀ row ∈ boundSources, row.1 ≠ "owl_attestation" ∧ row.2.1 ≤ row.2.2 ∧
    isKeyMaterial row.2.1 = false ∧ isKeyMaterial row.2.2 = false := by
  decide

theorem getClaim_issuedClaims {name low high : String}
    (bound : (name, low, high) ∈ boundSources) (attrs : ClaimMap)
    (stamps : List PredicateAttestation) :
    getClaim (issuedClaims attrs stamps) name =
      (getClaim attrs high).or (getClaim attrs low) := by
  obtain ⟨notStamps, order, lowKept, highKept⟩ := boundSources_kept _ bound
  have renamed := getClaim_renameAttributes order (standardName_eq_iff bound) lowKept highKept attrs
  rw [issuedClaims]
  split
  · exact renamed
  · rw [getClaim_insertClaim, if_neg notStamps, renamed]

theorem getClaim_withKeys {name : String} (kept : isKeyMaterial name = false) (P : Primitives)
    (attributes : ClaimMap) (issuer : KeyPair) (owner : PublicKey) :
    getClaim (withKeys P attributes issuer owner) name = getClaim attributes name := by
  simp only [isKeyMaterial, Bool.or_eq_false_iff, decide_eq_false_iff_not] at kept
  rw [withKeys, getClaim_insertClaim, if_neg kept.2, getClaim_insertClaim, if_neg kept.1]

/-! ## Levels and flags -/

theorem parseDigits_map_asciiLower (acc : Nat) (cs : List Char) :
    parseDigits acc (cs.map asciiLower) = parseDigits acc cs := by
  induction cs generalizing acc with
  | nil => rfl
  | cons c rest ih =>
    rw [List.map_cons, parseDigits, parseDigits, digitVal_asciiLower]
    congr 1
    funext d
    exact ih _

/-- A numeral has no letters to lower. -/
theorem parseUnsigned_toAsciiLowercase (bound : Nat) (s : String) :
    parseUnsigned bound (toAsciiLowercase s) = parseUnsigned bound s := by
  rw [parseUnsigned, parseUnsigned, toAsciiLowercase, String.toList_ofList]
  cases s.toList with
  | nil => rfl
  | cons c rest =>
    by_cases signed : c = '+'
    · subst signed
      have plus : asciiLower '+' = '+' := by decide
      simp only [List.map_cons, plus, List.map_eq_nil_iff, parseDigits_map_asciiLower]
    · have unsigned : asciiLower c ≠ '+' := mt asciiLower_eq_plus.mp signed
      have whole := parseDigits_map_asciiLower 0 (c :: rest)
      rw [List.map_cons] at whole
      simp [signed, unsigned, whole]

/-- The bound only filters what the digits denote. -/
theorem parseUnsigned_eq_filter (s : String) :
    ∃ value : Option Nat, ∀ bound, parseUnsigned bound s = value.filter (· < bound) := by
  have general : ∀ digits : List Char, ∃ value : Option Nat, ∀ bound : Nat,
      (if digits = [] then none else (parseDigits 0 digits).filter (· < bound)) =
        value.filter (· < bound) := by
    intro digits
    by_cases empty : digits = []
    · exact ⟨none, fun bound => by rw [if_pos empty]; rfl⟩
    · exact ⟨parseDigits 0 digits, fun bound => by rw [if_neg empty]⟩
  exact general _

theorem parseUnsigned_lt {bound : Nat} {s : String} {n : Nat}
    (parsed : parseUnsigned bound s = some n) : n < bound := by
  obtain ⟨value, filtered⟩ := parseUnsigned_eq_filter s
  rw [filtered, Option.filter_eq_some_iff] at parsed
  exact of_decide_eq_true parsed.2

theorem parseUnsigned_mono {bound wider : Nat} (wide : bound ≤ wider) {s : String} {n : Nat}
    (parsed : parseUnsigned bound s = some n) : parseUnsigned wider s = some n := by
  have small := parseUnsigned_lt parsed
  obtain ⟨value, filtered⟩ := parseUnsigned_eq_filter s
  rw [filtered, Option.filter_eq_some_iff] at parsed
  rw [filtered, Option.filter_eq_some_iff]
  exact ⟨parsed.1, decide_eq_true (lt_of_lt_of_le small wide)⟩

/-- The level that decides the stamp is the level that is committed to. -/
theorem level_committed {calendar : Calendar} {v : Json} {n : Nat}
    (level : attributeAsThreshold calendar "verificationLevel" v = some n) :
    verificationLevelToU128 v = some n := by
  cases v with
  | string s =>
    simp only [attributeAsThreshold, verificationLevelToU64] at level
    rw [Sdk.verificationLevelToU128_string, ← parseUnsigned_toAsciiLowercase]
    generalize toAsciiLowercase (trim s) = text at level ⊢
    split at level
    case h_12 =>
      rw [parseUnsigned_mono (by decide) level]
    all_goals
      obtain rfl := Option.some.inj level
      decide
  | number m =>
    cases m with
    | posInt k => simpa [attributeAsThreshold, Json.asU64, verificationLevelToU128, jsonToU128] using level
    | negInt k => simp [attributeAsThreshold, Json.asU64] at level
    | float bits => simp [attributeAsThreshold, Json.asU64] at level
  | _ => simp [attributeAsThreshold] at level

theorem flag_committed {calendar : Calendar} {v : Json} {n : Nat}
    (flag : attributeAsThreshold calendar "emailVerified" v = some n) (set : 1 ≤ n) :
    jsonToBool v = some true := by
  cases v with
  | bool b =>
    simp only [attributeAsThreshold, Option.some.injEq] at flag
    cases b with
    | false => simp at flag; omega
    | true => rfl
  | number m =>
    cases m with
    | posInt k =>
      simp only [attributeAsThreshold, Json.asU64, Option.some.injEq] at flag
      simp only [jsonToBool, Option.some.injEq, bne_iff_ne]
      omega
    | negInt k => simp [attributeAsThreshold, Json.asU64] at flag
    | float bits => simp [attributeAsThreshold, Json.asU64] at flag
  | string s =>
    simp only [attributeAsThreshold] at flag
    -- lowering commutes with trimming, and the labels have no space to trim
    have trimmed : toAsciiLowercase (trim s) = trim (toAsciiLowercase s) := by
      rw [trim, trim, toAsciiLowercase, toAsciiLowercase]
      exact (trimBy_map isWhitespace_asciiLower s).symm
    rw [Sdk.jsonToBool_string, trimmed]
    generalize toAsciiLowercase s = text at flag ⊢
    split at flag
    case h_8 => cases flag
    all_goals
      obtain rfl := Option.some.inj flag
      first
        | omega
        | decide
  | _ => simp [attributeAsThreshold] at flag

/-! ## Countries -/

theorem upper_of_alpha2 {code : String} (alpha : isAlpha2 code = true) :
    isAlpha2 (toAsciiUppercase code) = true ∧
      (toAsciiUppercase code).toList.all isAsciiUppercase = true := by
  simp only [isAlpha2, Bool.and_eq_true, beq_iff_eq, List.all_eq_true] at alpha ⊢
  rw [toAsciiUppercase, String.toList_ofList, List.length_map]
  refine ⟨⟨alpha.1, ?_⟩, ?_⟩
  · intro d member
    obtain ⟨c, inside, rfl⟩ := List.mem_map.mp member
    rw [isAsciiAlphabetic_asciiUpper, alpha.2 c inside]
  · intro d member
    obtain ⟨c, inside, rfl⟩ := List.mem_map.mp member
    rw [isAsciiUppercase_asciiUpper, isAsciiAlphabetic_asciiUpper, alpha.2 c inside]

theorem asciiUpper_of_isAsciiUppercase {c : Char} (upper : isAsciiUppercase c = true) :
    asciiUpper c = c := by
  have bounds := isAsciiUppercase_bounds upper
  exact asciiUpper_eq_self (by omega)

/-- A text around an alpha-2 code has no zero byte. -/
theorem zero_notMem_of_trim {s : String} (alpha : isAlpha2 (trim s) = true) : 0 ∉ asBytes s := by
  apply zero_notMem_asBytes
  intro c member zero
  obtain ⟨before, after, spaces, spaces', parts⟩ := exists_trimBy isWhitespace s
  have blank : isWhitespace c = true → False := by
    intro white
    simp [isWhitespace, zero] at white
  rw [parts, List.mem_append, List.mem_append] at member
  rcases member with (inBefore | inside) | inAfter
  · exact blank (List.all_eq_true.mp spaces c inBefore)
  · have bounds := (isAlpha2_eq_true alpha).2 c inside
    omega
  · exact blank (List.all_eq_true.mp spaces' c inAfter)

theorem countryFrom_eq {attrs : ClaimMap} {name s : String}
    (found : getClaim attrs name = some (.string s)) (alpha : isAlpha2 (trim s) = true) :
    countryFrom attrs name = some (toAsciiUppercase (trim s)) := by
  have nonempty : trim s ≠ "" := by
    intro empty
    rw [empty] at alpha
    cases alpha
  have ascii : toUpperCase (trim s) = toAsciiUppercase (trim s) :=
    toUpperCase_ascii fun c member => ((isAlpha2_eq_true alpha).2 c member).2
  have upper := (upper_of_alpha2 alpha).1
  rw [countryFrom, found]
  simp only [Option.bind_eq_bind, Option.bind_some, Json.asStr]
  generalize trim s = raw at nonempty ascii upper ⊢
  rw [if_neg nonempty, ascii, if_pos upper]

/-- The raw text is committed to, the upper-cased code is stamped. -/
theorem padCountry_eq_stamped_iff {s : String} (alpha : isAlpha2 (trim s) = true) :
    padCountry s = padCountry (toAsciiUppercase (trim s)) ↔
      s.toList.all isAsciiUppercase = true := by
  obtain ⟨upper, capitals⟩ := upper_of_alpha2 alpha
  constructor
  · intro same
    obtain ⟨length, nonzero⟩ := asBytes_alpha2 upper
    have clean := zero_notMem_of_trim alpha
    generalize toAsciiUppercase (trim s) = code at same length nonzero capitals
    have bytes : asBytes s = asBytes code := padBytes_inj_short (by omega) clean nonzero same
    rwa [← asBytes_injective bytes] at capitals
  · intro capital
    have spaceless : ∀ c ∈ s.toList, isWhitespace c = false := by
      intro c member
      have bounds := isAsciiUppercase_bounds (List.all_eq_true.mp capital c member)
      exact isWhitespace_visible (by omega) (by omega)
    have fixed : s.toList.map asciiUpper = s.toList.map id :=
      List.map_congr_left fun c member =>
        asciiUpper_of_isAsciiUppercase (List.all_eq_true.mp capital c member)
    rw [trim, trimBy_of_none spaceless, toAsciiUppercase, fixed, List.map_id, String.ofList_toList]

end OwlId.Issuer
