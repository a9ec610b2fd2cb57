import Mathlib
import OwlId.Sdk.Countries
import OwlId.Sdk.OwlRoot
import OwlId.ProofSystem.PredicateRouting

/-! # The SDK's claim router

The mirror of the routing table in the wallet.  A number of the request is a double here and a
`u64` there, and the cap on a country set is another one; `routers_agree_iff` says for which
claims the two tables give the same predicate.
-/

namespace OwlId.Sdk

open OwlId.Lib OwlId.ProofSystem

/-! ## The table -/

inductive SdkRoutedPredicate where
  | ageGte (threshold : JsNumber)
  | ageRange (minAge maxAge : JsNumber)
  | kycGte (threshold : JsNumber)
  | nationalityIn (countries : List String)
  | residencyIn (countries : List String)
  | emailVerified
  | uniquePersonhood (epoch appId : String)
deriving DecidableEq

/-- `countries-list`: the codes with their English names, and the order of names. -/
structure CountriesList where
  countries : List (String × String)
  localeCompare : String → String → Int

def eu27 : List String :=
  ["AT", "BE", "BG", "CY", "CZ", "DE", "DK", "EE", "ES", "FI", "FR", "GR", "HR", "HU", "IE", "IT",
    "LT", "LU", "LV", "MT", "NL", "PL", "PT", "RO", "SE", "SI", "SK"]

/-- All countries, sorted by name. -/
def CountriesList.allCountries (list : CountriesList) : List (String × String) :=
  list.countries.insertionSort fun a b => list.localeCompare a.2 b.2 ≤ 0

def CountriesList.euCountries (list : CountriesList) : List String :=
  (list.allCountries.filter fun c => c.1 ∈ eu27).map Prod.fst

def maxCountriesPerSet : Nat := 64

/-- The code of an element, of one that has a code. -/
def elementCode (v : Json) : Option String := do
  let s ← v.asStr
  let upper := toUpperCase s
  if utf16Length upper = 2 ∧ isUpperAlpha2 upper = true then some upper else none

def collectCountryCodes (arr : List Json) : Option (List String) :=
  let codes := arr.filterMap elementCode
  if codes.length = 0 ∨ maxCountriesPerSet < codes.length then none else some codes

def pickCountrySet (values : List Json) : Option (List String) :=
  match values with
  | [] => none
  | .array items :: _ => collectCountryCodes items
  | first :: _ =>
    match first.get "countries" with
    | some (.array items) => collectCountryCodes items
    | _ => collectCountryCodes values

def pickAgeThreshold : List Json → Option SdkRoutedPredicate
  | .number n :: _ => some (.ageGte (jsNumber n))
  | _ => none

/-- The bounds of a range, when both are numbers. -/
def numberBounds (values : List Json) : Option (Number × Number) := do
  let v ← values.head?
  match v.get "min", v.get "max" with
  | some (.number min), some (.number max) => some (min, max)
  | _, _ => none

def pickAgeRange (values : List Json) : Option SdkRoutedPredicate :=
  (numberBounds values).map fun bounds => .ageRange (jsNumber bounds.1) (jsNumber bounds.2)

def pickKycThreshold : List Json → JsNumber
  | [] => .integer 1
  | .number n :: _ => jsNumber n
  | .string s :: rest =>
    match rungOf s with
    | some rung => .integer rung
    | none => pickKycThreshold rest
  | _ :: rest => pickKycThreshold rest

def pickPersonhoodScope (values : List Json) : Option SdkRoutedPredicate := do
  let v ← values.head?
  match v.get "epoch", v.get "app_id" with
  | some (.string epoch), some (.string appId) => some (.uniquePersonhood epoch appId)
  | _, _ => none

def routeClaim (list : CountriesList) (path : String) (values : List Json) :
    Option SdkRoutedPredicate :=
  match path with
  | "age_over" => pickAgeThreshold values
  | "age_range" => pickAgeRange values
  | "nationality_in" => (pickCountrySet values).map .nationalityIn
  | "resident_in" => (pickCountrySet values).map .residencyIn
  | "nationality_eu" => some (.nationalityIn list.euCountries)
  | "email_verified" => some .emailVerified
  | "verification_level" => some (.kycGte (pickKycThreshold values))
  | "unique_person" => pickPersonhoodScope values
  | _ => none

/-! ## What it means to agree -/

/-- The predicate of the server in the wallet's terms. -/
def mirror : RoutedPredicate → SdkRoutedPredicate
  | .ageGte threshold => .ageGte (.integer threshold)
  | .ageRange min max => .ageRange (.integer min) (.integer max)
  | .kycGte threshold => .kycGte (.integer threshold)
  | .nationalityIn countries => .nationalityIn countries
  | .residencyIn countries => .residencyIn countries
  | .emailVerified => .emailVerified
  | .uniquePersonhood epoch appId => .uniquePersonhood epoch appId

/-- Neither routes, or both do, to one predicate with one set of parameters. -/
def Agree (list : CountriesList) (path : String) (values : List Json) : Prop :=
  routeClaim list path values = (ProofSystem.routeClaim path values).map mirror

/-- A natural number that is kept as a double. -/
def Whole : Number → Prop
  | .posInt n => IsDouble n
  | _ => False

/-- The values that are searched for country codes. -/
def countryItems (values : List Json) : List Json :=
  match values with
  | [] => []
  | .array items :: _ => items
  | first :: _ =>
    match first.get "countries" with
    | some (.array items) => items
    | _ => values

/-- What a value says of the level, when it is a natural number or a label. -/
def levelOf : Json → Option Nat
  | .number (.posInt n) => some n
  | .string s => rungOf s
  | _ => none

/-- The first natural number or label decides, and it is kept as a double; a number of another kind
    before it has the same value, which is 1 when nothing follows. -/
def LevelsAgree : List Json → Prop
  | [] => True
  | .number (.posInt n) :: _ => IsDouble n
  | .number n :: rest => jsNumber n = .integer (((rest.filterMap levelOf).head?).getD 1 : Nat)
  | .string s :: rest => (rungOf s).isSome = true ∨ LevelsAgree rest
  | _ :: rest => LevelsAgree rest

/-- The claims on which the two tables agree. -/
def AgreeWhen (list : CountriesList) (path : String) (values : List Json) : Prop :=
  match path with
  | "age_over" => ∀ n, values.head? = some (.number n) → Whole n
  | "age_range" => ∀ bounds, numberBounds values = some bounds → Whole bounds.1 ∧ Whole bounds.2
  | "nationality_in" | "resident_in" =>
    ¬ (maxCountriesPerSet < (countryCodes (countryItems values)).length ∧
      (countryCodes (countryItems values)).length ≤ countrySetSlots)
  | "nationality_eu" => list.euCountries = euCountryCodes
  | "verification_level" => LevelsAgree values
  | _ => True

/-! ## Country codes -/

/-- Not a small ASCII letter. -/
def isRaised (c : Char) : Bool := !isAsciiAlphabetic c || isAsciiUppercase c

set_option maxRecDepth 16384 in
/-- What is upper-cased has no small ASCII letter. -/
theorem isRaised_of_mem_upperChar {c d : Char} (member : d ∈ upperChar c) : isRaised d = true := by
  have ranges : ∀ r ∈ upperRanges, (r.last : Int) + r.delta < 97 ∨ 122 < (r.first : Int) + r.delta := by
    decide
  have exceptions : ∀ e ∈ upperExceptions, (e.2.map Char.ofNat).all isRaised = true := by
    decide
  by_contra small
  have bounds : 97 ≤ d.toNat ∧ d.toNat ≤ 122 := by
    simp only [isRaised, isAsciiAlphabetic, isAsciiUppercase, charLe_iff, Char.reduceToNat,
      Bool.or_eq_true, Bool.and_eq_true, decide_eq_true_eq, Bool.not_eq_true', Bool.or_eq_false_iff,
      Bool.and_eq_false_iff, decide_eq_false_iff_not] at small
    omega
  rcases mapCase_cases upperRanges upperExceptions c with
    ⟨r, inTable, inside, mapped⟩ | ⟨e, listed, here, mapped⟩ | same
  · rw [upperChar, mapped, List.mem_singleton] at member
    subst member
    have value : (Char.ofNat ((c.toNat : Int) + r.delta).toNat).toNat =
        ((c.toNat : Int) + r.delta).toNat := toNat_ofNat_of_pos (by omega)
    simp only [CaseRange.contains, Bool.and_eq_true, decide_eq_true_eq] at inside
    have image := ranges r inTable
    omega
  · rw [upperChar, mapped] at member
    exact small (List.all_eq_true.mp (exceptions e listed) d member)
  · -- a small letter is not its own upper case
    rw [upperChar, same, List.mem_singleton] at member
    subst member
    have upper := upperChar_ascii (c := d) (by omega)
    rw [upperChar, same, List.singleton_inj] at upper
    have value := congrArg Char.toNat upper
    rw [asciiUpper_toNat, if_pos (by omega)] at value
    omega

theorem isCountryCode_toUpperCase (s : String) :
    isCountryCode (toUpperCase s) =
      decide (utf16Length (toUpperCase s) = 2 ∧ isUpperAlpha2 (toUpperCase s) = true) := by
  have raised : ∀ d ∈ (toUpperCase s).toList, isAsciiAlphabetic d = true → isAsciiUppercase d = true := by
    intro d member letter
    rw [toUpperCase, String.toList_ofList] at member
    obtain ⟨c, _, mapped⟩ := List.mem_flatMap.mp member
    simpa [isRaised, letter] using isRaised_of_mem_upperChar mapped
  generalize toUpperCase s = upper at raised ⊢
  rw [Bool.eq_iff_iff, decide_eq_true_eq]
  simp only [isCountryCode, isUpperAlpha2, Bool.and_eq_true, beq_iff_eq, List.all_eq_true]
  constructor
  · rintro ⟨bytes, letters⟩
    have ascii : ∀ c ∈ upper.toList, c.toNat < 128 := fun c member =>
      (isAsciiAlphabetic_bounds (letters c member)).2
    have units := asBytes_length_of_ascii ascii
    rw [String.ofList_toList, bytes] at units
    exact ⟨by rw [utf16Length_of_ascii ascii, ← units], units.symm, fun c member =>
      raised c member (letters c member)⟩
  · rintro ⟨_, length, capitals⟩
    have ascii : ∀ c ∈ upper.toList, c.toNat < 128 := isUpperAlpha2_ascii (by
      simp only [isUpperAlpha2, Bool.and_eq_true, beq_iff_eq, List.all_eq_true]
      exact ⟨length, capitals⟩)
    have units := asBytes_length_of_ascii ascii
    rw [String.ofList_toList] at units
    refine ⟨by rw [units, length], fun c member => ?_⟩
    have bounds := isAsciiUppercase_bounds (capitals c member)
    simp only [isAsciiAlphabetic, charLe_iff, Char.reduceToNat, Bool.or_eq_true, Bool.and_eq_true,
      decide_eq_true_eq]
    omega

theorem filterMap_elementCode (arr : List Json) : arr.filterMap elementCode = countryCodes arr := by
  rw [countryCodes, ← List.filterMap_eq_filter, List.filterMap_filterMap]
  apply List.filterMap_congr
  intro v _
  cases read : v.asStr with
  | none => simp [elementCode, read]
  | some s =>
    simp only [elementCode, read, Option.bind_eq_bind, Option.bind_some, Option.map_some,
      Option.guard, isCountryCode_toUpperCase, decide_eq_true_eq]

/-- Within the capacities the two collectors return the same codes. -/
theorem collectCountryCodes_eq_iff (arr : List Json) :
    collectCountryCodes arr = ProofSystem.collectCountryCodes arr ↔
      ¬ (maxCountriesPerSet < (countryCodes arr).length ∧
        (countryCodes arr).length ≤ countrySetSlots) := by
  have smaller : maxCountriesPerSet < countrySetSlots := by decide
  rw [collectCountryCodes, ProofSystem.collectCountryCodes, filterMap_elementCode]
  generalize countryCodes arr = codes
  simp only [List.isEmpty_iff_length_eq_zero]
  by_cases empty : codes.length = 0
  · simp [empty]
  · by_cases large : countrySetSlots < codes.length
    · rw [if_pos (.inr (by omega)), if_pos (.inr large)]
      simp only [true_iff]
      omega
    · rw [@if_neg (_ ∨ countrySetSlots < codes.length) _ (by omega)]
      by_cases tooMany : maxCountriesPerSet < codes.length
      · rw [if_pos (.inr tooMany)]
        simp only [reduceCtorEq, false_iff, not_not]
        omega
      · rw [if_neg (by omega)]
        simp only [true_iff]
        omega

theorem pickCountrySet_eq (values : List Json) :
    pickCountrySet values = collectCountryCodes (countryItems values) := by
  match values with
  | [] => rfl
  | first :: rest =>
    cases first with
    | array items => rfl
    | null | bool | number | string => rfl
    | object fields =>
      simp only [pickCountrySet, countryItems]
      split <;> rfl

theorem rust_pickCountrySet_eq (values : List Json) :
    ProofSystem.pickCountrySet values =
      ProofSystem.collectCountryCodes (countryItems values) := by
  match values with
  | [] => rfl
  | first :: rest =>
    cases first with
    | array items => rfl
    | null | bool | number | string => rfl
    | object fields =>
      simp only [ProofSystem.pickCountrySet, countryItems, List.head?_cons, Option.bind_eq_bind,
        Option.bind_some, Json.asArray]
      cases found : (Json.object fields).get "countries" with
      | none => rfl
      | some v => cases v <;> rfl

theorem pickCountrySet_eq_iff (values : List Json) :
    pickCountrySet values = ProofSystem.pickCountrySet values ↔
      ¬ (maxCountriesPerSet < (countryCodes (countryItems values)).length ∧
        (countryCodes (countryItems values)).length ≤ countrySetSlots) := by
  rw [pickCountrySet_eq, rust_pickCountrySet_eq, collectCountryCodes_eq_iff]

/-! ## Numbers -/

/-- A number is read alike exactly when it is a natural number that is kept as a double. -/
theorem jsNumber_posInt (n : Nat) : jsNumber (.posInt n) = .integer n ↔ IsDouble n := by
  rw [jsNumber, JsNumber.integer.injEq, Int.natCast_inj, roundDouble_eq_self_iff]

theorem ageThreshold_agrees (values : List Json) :
    pickAgeThreshold values = (ProofSystem.pickAgeThreshold values).map mirror ↔
      ∀ n, values.head? = some (.number n) → Whole n := by
  match values with
  | [] => simp [pickAgeThreshold, ProofSystem.pickAgeThreshold]
  | first :: rest =>
    cases first with
    | number n =>
      cases n with
      | posInt k =>
        simp [pickAgeThreshold, ProofSystem.pickAgeThreshold, Json.asU64, mirror, jsNumber_posInt,
          Whole]
      | negInt k => simp [pickAgeThreshold, ProofSystem.pickAgeThreshold, Json.asU64, Whole]
      | float bits => simp [pickAgeThreshold, ProofSystem.pickAgeThreshold, Json.asU64, Whole]
    | null | bool | string | array | object =>
      simp [pickAgeThreshold, ProofSystem.pickAgeThreshold, Json.asU64]

theorem personhoodScope_agrees (values : List Json) :
    pickPersonhoodScope values = (ProofSystem.pickPersonhoodScope values).map mirror := by
  match values with
  | [] => rfl
  | v :: rest =>
    simp only [pickPersonhoodScope, ProofSystem.pickPersonhoodScope, List.head?_cons,
      Option.bind_eq_bind, Option.bind_some]
    cases v.get "epoch" with
    | none => rfl
    | some epoch =>
      cases epoch with
      | string epoch =>
        cases v.get "app_id" with
        | none => rfl
        | some appId => cases appId <;> rfl
      | null | bool | number | array | object => rfl

/-- The server reads the bounds the wallet reads, of those that are natural numbers. -/
theorem rust_pickAgeRange_eq (values : List Json) :
    ProofSystem.pickAgeRange values = (numberBounds values).bind fun bounds =>
      (Json.number bounds.1).asU64.bind fun min =>
        (Json.number bounds.2).asU64.bind fun max => some (.ageRange min max) := by
  match values with
  | [] => rfl
  | v :: rest =>
    simp only [ProofSystem.pickAgeRange, numberBounds, List.head?_cons, Option.bind_eq_bind,
      Option.bind_some]
    cases v.get "min" with
    | none => rfl
    | some min =>
      cases min with
      | number min =>
        cases v.get "max" with
        | none => cases min <;> rfl
        | some max =>
          cases max with
          | number max => rfl
          | null | bool | string | array | object => cases min <;> rfl
      | null | bool | string | array | object => rfl

theorem ageRange_agrees (values : List Json) :
    pickAgeRange values = (ProofSystem.pickAgeRange values).map mirror ↔
      ∀ bounds, numberBounds values = some bounds → Whole bounds.1 ∧ Whole bounds.2 := by
  rw [rust_pickAgeRange_eq, pickAgeRange]
  cases numberBounds values with
  | none => simp
  | some bounds =>
    obtain ⟨min, max⟩ := bounds
    cases min with
    | posInt low =>
      cases max with
      | posInt high => simp [Json.asU64, mirror, jsNumber_posInt, Whole]
      | negInt | float => simp [Json.asU64, Whole]
    | negInt | float => simp [Json.asU64, Whole]

theorem rust_pickKycThreshold_eq (values : List Json) :
    ProofSystem.pickKycThreshold values = ((values.filterMap levelOf).head?).getD 1 := by
  induction values with
  | nil => rfl
  | cons v rest ih =>
    have read : levelOf v = v.asU64.or (v.asStr.bind rungOf) := by
      cases v with
      | number n => cases n <;> rfl
      | null | bool | string | array | object => rfl
    rw [ProofSystem.pickKycThreshold, ih, List.filterMap_cons, read]
    cases v.asU64 with
    | some n => rfl
    | none => cases v.asStr.bind rungOf <;> rfl

theorem kycThreshold_agrees (values : List Json) :
    pickKycThreshold values = .integer (ProofSystem.pickKycThreshold values) ↔
      LevelsAgree values := by
  induction values with
  | nil => simp [pickKycThreshold, ProofSystem.pickKycThreshold, LevelsAgree]
  | cons v rest ih =>
    cases v with
    | number n =>
      cases n with
      | posInt k =>
        rw [pickKycThreshold, LevelsAgree]
        exact jsNumber_posInt k
      | negInt k =>
        rw [pickKycThreshold, LevelsAgree, ← rust_pickKycThreshold_eq]
        · rfl
        · exact nofun
      | float bits =>
        rw [pickKycThreshold, LevelsAgree, ← rust_pickKycThreshold_eq]
        · rfl
        · exact nofun
    | string s =>
      rw [pickKycThreshold, LevelsAgree, ProofSystem.pickKycThreshold]
      simp only [Json.asU64, Json.asStr, Option.bind_some]
      cases rungOf s with
      | some rung => simp
      | none => simpa using ih
    | null | bool | array | object => exact ih

/-! ## Main result -/

/-- A country set is routed alike under either of its two paths. -/
theorem countries_agree {sdk : List String → SdkRoutedPredicate}
    {rust : List String → RoutedPredicate} (injective : Function.Injective sdk)
    (mirrored : mirror ∘ rust = sdk) (values : List Json) :
    (pickCountrySet values).map sdk = ((ProofSystem.pickCountrySet values).map rust).map mirror ↔
      ¬ (maxCountriesPerSet < (countryCodes (countryItems values)).length ∧
        (countryCodes (countryItems values)).length ≤ countrySetSlots) := by
  rw [Option.map_map, mirrored, (Option.map_injective injective).eq_iff, pickCountrySet_eq_iff]

/-- The two tables give the same answer for a claim exactly when its numbers are natural numbers
    that doubles keep, its country set fits both capacities or neither, and the EU list of the
    installed package is in the order of the codes. -/
theorem routers_agree_iff (list : CountriesList) (path : String) (values : List Json) :
    Agree list path values ↔ AgreeWhen list path values := by
  unfold Agree routeClaim ProofSystem.routeClaim AgreeWhen
  split
  · exact ageThreshold_agrees values
  · exact ageRange_agrees values
  · exact countries_agree (fun _ _ => SdkRoutedPredicate.nationalityIn.inj) rfl values
  · exact countries_agree (fun _ _ => SdkRoutedPredicate.residencyIn.inj) rfl values
  · simp [mirror]
  · simp [mirror]
  · rw [← kycThreshold_agrees]
    simp [mirror]
  · simp [personhoodScope_agrees]
  · split
    all_goals simp_all

/-! ## Claims on which they differ -/

/-- The member states as the package names them, in the order of their codes. -/
def sampleCountries : CountriesList where
  countries := [("AT", "Austria"), ("BE", "Belgium"), ("BG", "Bulgaria"), ("CY", "Cyprus"),
    ("CZ", "Czech Republic"), ("DE", "Germany"), ("DK", "Denmark"), ("EE", "Estonia"),
    ("ES", "Spain"), ("FI", "Finland"), ("FR", "France"), ("GR", "Greece"), ("HR", "Croatia"),
    ("HU", "Hungary"), ("IE", "Ireland"), ("IT", "Italy"), ("LT", "Lithuania"),
    ("LU", "Luxembourg"), ("LV", "Latvia"), ("MT", "Malta"), ("NL", "Netherlands"),
    ("PL", "Poland"), ("PT", "Portugal"), ("RO", "Romania"), ("SE", "Sweden"), ("SI", "Slovenia"),
    ("SK", "Slovakia")]
  localeCompare a b := if a < b then -1 else if a = b then 0 else 1

/-- The double 18.5. -/
def halfYear : Json := .number (.float 0x4032800000000000)

/-- A country set that only fits the server's capacity. -/
def wideSet : Json := .array (List.replicate 65 (.string "NL"))

/-- A fractional age is routed by the wallet only, a set of 65 codes by the server only, and the EU
    list is sorted by name in the wallet and by code in the server. -/
theorem routers_differ :
    ¬ Agree sampleCountries "age_over" [halfYear] ∧
      ¬ Agree sampleCountries "nationality_in" [wideSet] ∧
      ¬ Agree sampleCountries "nationality_eu" [] := by
  refine ⟨?_, ?_, ?_⟩
  · unfold Agree
    decide
  · unfold Agree
    decide
  · unfold Agree
    decide

end OwlId.Sdk
