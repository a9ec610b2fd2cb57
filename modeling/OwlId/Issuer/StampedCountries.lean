import Mathlib
import OwlId.Issuer.AttestedFacts
import OwlId.Issuer.DiditProvider
import OwlId.Issuer.IssuedClaims
import OwlId.ProofSystem.SdJwtRoundTrip

/-! # The countries of a credential

A provider's text for a country reaches the credential on two ways.  The nationality is looked
up in the tables of the bridge; the country of residence is passed on as the provider, or the
normaliser, has cut it.  The stamps take their country from the two attributes.

`stamped_countries_iff` says for which provider results both name the country that the tables
give for the provider's own text.
-/

namespace OwlId.Issuer

open OwlId.Lib OwlId.ProofSystem

/-! ## Texts that name a country -/

/-- An alpha-2 code, an alpha-3 code or a name of the tables, with any blanks around it. -/
def Recognised (input : String) : Prop :=
  isAlpha2 (trim input) = true ∨
    (toUpperCase (trim input)).utf8ByteSize ≠ 2 ∧
      ((alpha3Table.lookup (toUpperCase (trim input))).isSome = true ∨
        (nameTable.lookup (toLowerCase (trim input))).isSome = true)

instance (input : String) : Decidable (Recognised input) := by
  unfold Recognised
  exact inferInstance

/-- Two capital letters. -/
def isCode (code : String) : Bool := isAlpha2 code && code.toList.all isAsciiUppercase

theorem alpha3Table_isCode : ∀ row ∈ alpha3Table, isCode row.2 = true := by decide

theorem nameTable_isCode : ∀ row ∈ nameTable, isCode row.2 = true := by decide

theorem utf8ByteSize_eq (s : String) : s.utf8ByteSize = (asBytes s).length := by
  show s.toByteArray.size = _
  rw [asBytes]
  rfl

/-- What is recognised is written as a code. -/
theorem normalize_isCode {input : String} (recognised : Recognised input) :
    isCode (normalizeNationalityToAlpha2 input) = true := by
  unfold normalizeNationalityToAlpha2
  dsimp only
  rcases recognised with alpha | ⟨size, listed⟩
  · have ascii : toUpperCase (trim input) = toAsciiUppercase (trim input) :=
      toUpperCase_ascii fun c member => ((isAlpha2_eq_true alpha).2 c member).2
    have ⟨alpha', capitals⟩ := upper_of_alpha2 alpha
    have size : (toAsciiUppercase (trim input)).utf8ByteSize = 2 := by
      rw [utf8ByteSize_eq, (asBytes_alpha2 alpha').1]
    rw [ascii, if_pos size, isCode, alpha', capitals]
    rfl
  · rw [if_neg size]
    cases coded : alpha3Table.lookup (toUpperCase (trim input)) with
    | some alpha2 =>
      have code := alpha3Table_isCode (_, alpha2) (mem_table_of_lookup coded)
      exact code
    | none =>
      cases named : nameTable.lookup (toLowerCase (trim input)) with
      | some alpha2 =>
        have code := nameTable_isCode (_, alpha2) (mem_table_of_lookup named)
        exact code
      | none => simp [coded, named] at listed

/-! ## Stamps -/

/-- The country of a stamp is read from the attribute of its family. -/
theorem stampFor_country {attrs : ClaimMap} {pred : Predicate} {stamp : PredicateAttestation}
    (stamped : stampFor attrs pred = some stamp) :
    (stamp.predicate = "nationality" → stamp.country = countryFrom attrs "nationality") ∧
      (stamp.predicate = "residency" → stamp.country = countryFrom attrs "residentCountry") := by
  rw [stampFor] at stamped
  split at stamped
  · rw [← Option.some.inj stamped]
    exact ⟨fun other => absurd other (by decide), fun other => absurd other (by decide)⟩
  · split at stamped
    · rw [← Option.some.inj stamped]
      exact ⟨fun other => absurd other (by decide), fun other => absurd other (by decide)⟩
    · split at stamped
      · rw [← Option.some.inj stamped]
        exact ⟨fun other => absurd other (by simp), fun other => absurd other (by simp)⟩
      · have ⟨country, read, built⟩ := Option.map_eq_some_iff.mp stamped
        rw [← built]
        exact ⟨fun _ => read.symm, fun other => absurd other (by simp)⟩
      · have ⟨country, read, built⟩ := Option.map_eq_some_iff.mp stamped
        rw [← built]
        exact ⟨fun other => absurd other (by simp), fun _ => read.symm⟩
      · rw [← Option.some.inj stamped]
        exact ⟨fun other => absurd other (by simp), fun other => absurd other (by simp)⟩
      · rw [← Option.some.inj stamped]
        exact ⟨fun other => absurd other (by simp), fun other => absurd other (by simp)⟩
      · cases stamped

theorem stampsOf_country {calendar : Calendar} {attrs : ClaimMap} {personhood : Bool}
    {stamp : PredicateAttestation} (member : stamp ∈ stampsOf calendar attrs personhood) :
    (stamp.predicate = "nationality" → stamp.country = countryFrom attrs "nationality") ∧
      (stamp.predicate = "residency" → stamp.country = countryFrom attrs "residentCountry") := by
  rw [stampsOf, derivePredicateAttestations, List.mem_append] at member
  cases member with
  | inl derived =>
    have ⟨id, _, bound⟩ := List.mem_filterMap.mp derived
    have ⟨pred, _, stamped⟩ := Option.bind_eq_some_iff.mp bound
    exact stampFor_country stamped
  | inr person =>
    split at person
    · rw [List.mem_singleton] at person
      rw [person]
      exact ⟨fun other => absurd other (by decide), fun other => absurd other (by decide)⟩
    · cases person

theorem countryFrom_code {attrs : ClaimMap} {name code : String} (coded : isCode code = true)
    (found : getClaim attrs name = some (.string code)) : countryFrom attrs name = some code := by
  have ⟨alpha, capitals⟩ : isAlpha2 code = true ∧ code.toList.all isAsciiUppercase = true := by
    simpa [isCode] using coded
  have visible : trim code = code := by
    apply trimBy_of_none
    intro c member
    have bounds := (isAlpha2_eq_true alpha).2 c member
    exact isWhitespace_visible bounds.2 (by omega)
  have raised : toAsciiUppercase code = code := by
    have kept : code.toList.map asciiUpper = code.toList.map id :=
      List.map_congr_left fun c member =>
        asciiUpper_of_isAsciiUppercase (List.all_eq_true.mp capitals c member)
    rw [List.map_id] at kept
    rw [toAsciiUppercase, kept, String.ofList_toList]
  have stamped := countryFrom_eq found (by rwa [visible])
  rwa [visible, raised] at stamped

theorem countryFrom_none {attrs : ClaimMap} {name : String} (absent : getClaim attrs name = none) :
    countryFrom attrs name = none := by
  rw [countryFrom, absent]
  rfl

/-- An attribute and the stamps of its family, which are absent or carry one code. -/
def CarriesOnly (attrs : ClaimMap) (stamps : List PredicateAttestation)
    (claim predicate code : String) : Prop :=
  (∀ value, getClaim attrs claim = some value → value = .string code) ∧
    ∀ stamp ∈ stamps, stamp.predicate = predicate → ∀ c, stamp.country = some c → c = code

/-- The stamps follow the attribute. -/
theorem carriesOnly_iff {attrs : ClaimMap} {stamps : List PredicateAttestation}
    {claim predicate code : String} (coded : isCode code = true)
    (stamped : ∀ stamp ∈ stamps, stamp.predicate = predicate →
      stamp.country = countryFrom attrs claim) :
    CarriesOnly attrs stamps claim predicate code ↔
      ∀ value, getClaim attrs claim = some value → value = .string code := by
  constructor
  · exact fun carries => carries.1
  · intro only
    refine ⟨only, ?_⟩
    intro stamp member family c country
    rw [stamped stamp member family] at country
    cases found : getClaim attrs claim with
    | none =>
      rw [countryFrom_none found] at country
      cases country
    | some value =>
      rw [only value found] at found
      rw [countryFrom_code coded found] at country
      exact (Option.some.inj country).symm

/-! ## Provider results -/

/-- What a provider answers: a decision of Didit, or the raw claims of another. -/
inductive ProviderResult where
  | didit (decision : DiditDecisionResponse)
  | claims (raw : RawProviderClaims)

namespace ProviderResult

/-- The raw claims; a decision without an id verification has none. -/
def raw (portrait : String → Option String) : ProviderResult → Option RawProviderClaims
  | didit decision => (parseVerificationData portrait decision).toOption.map .didit
  | claims raw => some raw

/-- The provider's own text for the holder's nationality. -/
def nationality : ProviderResult → Option String
  | didit decision => decision.idFirst.bind DiditIdVerification.nationality
  | claims (.eidas data) => some data.issuingCountry
  | claims raw => raw.nationality

/-- The provider's own text for the holder's country of residence. -/
def residence : ProviderResult → Option String
  | didit decision =>
    (decision.idFirst.bind DiditIdVerification.parsedAddress).bind DiditParsedAddress.country
  | claims (.eidas data) => some data.issuingCountry
  | claims raw => raw.addressCountry

/-- The code that Didit's country is cut to. -/
def cutCountry (text : String) : String := String.ofList ((toUpperCase text).toList.take 2)

/-- Where a country of residence is passed on whose text the tables recognise, what is passed on
is the code of it: the cut of a verified Didit address if it has two bytes, the issuing country
as eIDAS spells it, and the nationality of the mock provider. -/
def KeepsResidence : ProviderResult → Prop
  | didit decision => ∀ v address text, decision.idFirst = some v →
    v.parsedAddress = some address → address.isVerified = some true →
    address.country = some text → Recognised text → (cutCountry text).utf8ByteSize = 2 →
    cutCountry text = normalizeNationalityToAlpha2 text
  | claims (.didit data) => ∀ text, data.addressVerified = true →
    data.residentCountry = some text → Recognised text → text.utf8ByteSize = 2 →
    text = normalizeNationalityToAlpha2 text
  | claims (.eidas data) => Recognised data.issuingCountry →
    data.issuingCountry = normalizeNationalityToAlpha2 data.issuingCountry
  | claims (.mock data) => data.verifiesResidency = true → Recognised data.country →
    data.nationality = "" ∨ data.nationality = normalizeNationalityToAlpha2 data.country
  | claims _ => True

/-- A code that is passed on is empty or belongs to the provider's text. -/
def PassesCode (result : ProviderResult) (residentCountry : Option String) : Prop :=
  ∀ text code, result.residence = some text → Recognised text → residentCountry = some code →
    code = "" ∨ code = normalizeNationalityToAlpha2 text

end ProviderResult

theorem not_recognised_empty : ¬Recognised "" := by decide

section

variable {chrono : Chrono} {portrait : String → Option String} {result : ProviderResult}
variable {raw : RawProviderClaims} {normalized : VerifiedIdentityClaims}

/-- The country of a Didit result: the cut text, where the address is verified. -/
theorem diditCountry_eq_some {data : DiditVerificationData} {code : String} :
    (normalizeDidit chrono data).residentCountry = some code ↔
      data.addressVerified = true ∧ code.utf8ByteSize = 2 ∧ data.residentCountry = some code := by
  have row : (normalizeDidit chrono data).residentCountry =
      if data.isResident then some data.residentCountryCode else none := rfl
  rw [row, DiditVerificationData.isResident]
  cases given : data.residentCountry with
  | none =>
    have none : data.residentCountryCode = "" := by
      rw [DiditVerificationData.residentCountryCode, given]
      rfl
    rw [none]
    simp
  | some country =>
    have here : data.residentCountryCode = country := by
      rw [DiditVerificationData.residentCountryCode, given]
      rfl
    rw [here]
    constructor
    · intro passed
      split at passed
      · next resident =>
        simp only [Bool.and_eq_true, beq_iff_eq] at resident
        obtain rfl := Option.some.inj passed
        exact ⟨resident.1, resident.2, rfl⟩
      · cases passed
    · rintro ⟨verified, size, same⟩
      obtain rfl := Option.some.inj same
      rw [verified, size]
      rfl

theorem passesCode_didit {decision : DiditDecisionResponse} {v : DiditIdVerification}
    (first : decision.idFirst = some v) :
    (ProviderResult.didit decision).PassesCode
        (normalizeDidit chrono (v.verificationData portrait)).residentCountry ↔
      (ProviderResult.didit decision).KeepsResidence := by
  have residence : (ProviderResult.didit decision).residence =
      v.parsedAddress.bind DiditParsedAddress.country := by
    rw [ProviderResult.residence, first]
    rfl
  constructor
  · intro passes v' address text first' parsed verified named recognised size
    obtain rfl := Option.some.inj (first.symm.trans first')
    have passed : (normalizeDidit chrono (v.verificationData portrait)).residentCountry =
        some (ProviderResult.cutCountry text) := by
      rw [diditCountry_eq_some]
      refine ⟨?_, size, ?_⟩ <;> simp [DiditIdVerification.verificationData, parsed, verified,
        named, ProviderResult.cutCountry]
    cases passes text _ (by rw [residence, parsed]; exact named) recognised passed with
    | inl empty =>
      rw [empty] at size
      cases size
    | inr same => exact same
  · intro keeps text code named recognised passed
    rw [residence] at named
    have ⟨address, parsed, country⟩ := Option.bind_eq_some_iff.mp named
    have ⟨verified, size, cut⟩ := diditCountry_eq_some.mp passed
    simp only [DiditIdVerification.verificationData, parsed, Option.bind_some, country,
      Option.map_some, Option.some.injEq] at verified cut
    rw [← cut] at size
    have isVerified : address.isVerified = some true := by
      cases stated : address.isVerified with
      | none => simp [stated] at verified
      | some value => rw [stated] at verified; exact congrArg some verified
    right
    rw [← cut]
    exact keeps v address text first parsed isVerified country recognised size

theorem passesCode_diditClaims {data : DiditVerificationData} :
    (ProviderResult.claims (.didit data)).PassesCode
        (normalizeDidit chrono data).residentCountry ↔
      (ProviderResult.claims (.didit data)).KeepsResidence := by
  constructor
  · intro passes text verified named recognised size
    cases passes text text named recognised (diditCountry_eq_some.mpr ⟨verified, size, named⟩) with
    | inl empty =>
      rw [empty] at size
      cases size
    | inr same => exact same
  · intro keeps text code named recognised passed
    have ⟨verified, size, given⟩ := diditCountry_eq_some.mp passed
    obtain rfl := Option.some.inj (given.symm.trans named)
    exact .inr (keeps code verified named recognised size)

theorem passesCode_eidas {data : EidasOidcClaims} :
    (ProviderResult.claims (.eidas data)).PassesCode
        (normalizeEidas chrono data).residentCountry ↔
      (ProviderResult.claims (.eidas data)).KeepsResidence := by
  constructor
  · intro passes recognised
    cases passes _ _ rfl recognised rfl with
    | inl empty => exact absurd (empty ▸ recognised) not_recognised_empty
    | inr same => exact same
  · intro keeps text code named recognised passed
    obtain rfl := Option.some.inj named
    obtain rfl := Option.some.inj passed
    exact .inr (keeps recognised)

theorem passesCode_mock {data : MockClaims} :
    (ProviderResult.claims (.mock data)).PassesCode (normalizeMock chrono data).residentCountry ↔
      (ProviderResult.claims (.mock data)).KeepsResidence := by
  have row : (normalizeMock chrono data).residentCountry =
      if data.verifiesResidency then some data.nationality else none := rfl
  rw [row]
  constructor
  · intro passes verifies recognised
    exact passes _ _ rfl recognised (if_pos verifies)
  · intro keeps text code named recognised passed
    obtain rfl := Option.some.inj named
    split at passed
    · next verifies =>
      obtain rfl := Option.some.inj passed
      exact keeps verifies recognised
    · cases passed

/-- A provider without a country of residence, and one that passes none on. -/
theorem passesCode_of_none {country : Option String}
    (absent : result.residence = none ∨ country = none) : result.PassesCode country := by
  intro text code named _ passed
  cases absent with
  | inl none => rw [none] at named; cases named
  | inr none => rw [none] at passed; cases passed

theorem passesCode_iff (parsed : result.raw portrait = some raw)
    (normalizes : raw.normalize chrono = some normalized) :
    result.PassesCode normalized.residentCountry ↔ result.KeepsResidence := by
  cases result with
  | didit decision =>
    rw [ProviderResult.raw, parseVerificationData] at parsed
    cases first : decision.idFirst with
    | none =>
      rw [first] at parsed
      cases parsed
    | some v =>
      rw [first] at parsed
      obtain rfl := Option.some.inj parsed
      obtain rfl := Option.some.inj normalizes
      exact passesCode_didit first
  | claims given =>
    obtain rfl := Option.some.inj parsed
    cases given with
    | didit data =>
      obtain rfl := Option.some.inj normalizes
      exact passesCode_diditClaims
    | eidas data =>
      obtain rfl := Option.some.inj normalizes
      exact passesCode_eidas
    | mock data =>
      obtain rfl := Option.some.inj normalizes
      exact passesCode_mock
    | digiD data => exact iff_of_true (passesCode_of_none (.inl rfl)) trivial
    | bankId data => exact iff_of_true (passesCode_of_none (.inl rfl)) trivial
    | onfido data =>
      obtain rfl := Option.some.inj normalizes
      exact iff_of_true (passesCode_of_none (.inr rfl)) trivial
    | jumio data =>
      obtain rfl := Option.some.inj normalizes
      exact iff_of_true (passesCode_of_none (.inr rfl)) trivial
    | stripeIdentity data =>
      obtain rfl := Option.some.inj normalizes
      exact iff_of_true (passesCode_of_none (.inr rfl)) trivial
    | google data => exact iff_of_true (passesCode_of_none (.inl rfl)) trivial

theorem nationality_eq {text : String} (parsed : result.raw portrait = some raw)
    (normalizes : raw.normalize chrono = some normalized)
    (named : result.nationality = some text) : normalized.nationality = text := by
  cases result with
  | didit decision =>
    rw [ProviderResult.raw, parseVerificationData] at parsed
    cases first : decision.idFirst with
    | none =>
      rw [first] at parsed
      cases parsed
    | some v =>
      rw [first] at parsed
      rw [ProviderResult.nationality, first] at named
      obtain rfl := Option.some.inj parsed
      obtain rfl := Option.some.inj normalizes
      have stated : v.nationality = some text := named
      show v.nationality.getD "" = text
      rw [stated]
      rfl
  | claims given =>
    obtain rfl := Option.some.inj parsed
    cases given with
    | didit data | eidas data | mock data =>
      obtain rfl := Option.some.inj normalizes
      exact Option.some.inj named
    | onfido data =>
      obtain rfl := Option.some.inj normalizes
      have stated : data.nationality = some text := named
      show data.nationality.getD "" = text
      rw [stated]
      rfl
    | jumio data =>
      obtain rfl := Option.some.inj normalizes
      have stated : data.nationality = some text := named
      show data.nationality.getD "" = text
      rw [stated]
      rfl
    | digiD data | bankId data | stripeIdentity data | google data => cases named

end

/-! ## The attributes -/

section

variable (chrono : Chrono) (config : BridgeConfig) (normalized : VerifiedIdentityClaims)

theorem getClaim_residentCountry :
    getClaim (claimsToAttributes chrono config normalized) "residentCountry" =
      if config.includeDerivedProofs then normalized.residentCountry.bind nonEmptyText
      else none := by
  rw [getClaim_claimsToAttributes]
  have ⟨rawFields, derivedProofs, metadata⟩ := config
  cases rawFields <;> cases derivedProofs <;> cases metadata <;> rfl

theorem getClaim_nationality {value : Json}
    (found : getClaim (claimsToAttributes chrono config normalized) "nationality" = some value) :
    value = .string (normalizeNationalityToAlpha2 normalized.nationality) := by
  rw [getClaim_claimsToAttributes] at found
  have row : ∀ entry, entry = some value →
      entry = (if normalized.nationality = "" then none
        else some (Json.string (normalizeNationalityToAlpha2 normalized.nationality))) →
      value = .string (normalizeNationalityToAlpha2 normalized.nationality) := by
    intro entry given shape
    rw [given] at shape
    split at shape
    · cases shape
    · exact Option.some.inj shape
  have ⟨rawFields, derivedProofs, metadata⟩ := config
  cases rawFields with
  | true => exact row _ found rfl
  | false => cases derivedProofs <;> cases metadata <;> cases found

end

/-- The two attributes and their stamps carry the codes of the provider's texts, where these are
recognised. -/
structure CountriesNamed (result : ProviderResult) (attrs : ClaimMap)
    (stamps : List PredicateAttestation) : Prop where
  nationality : ∀ text, result.nationality = some text → Recognised text →
    CarriesOnly attrs stamps "nationality" "nationality" (normalizeNationalityToAlpha2 text)
  residence : ∀ text, result.residence = some text → Recognised text →
    CarriesOnly attrs stamps "residentCountry" "residency" (normalizeNationalityToAlpha2 text)

section

variable {chrono : Chrono} {portrait : String → Option String} {result : ProviderResult}
variable {raw : RawProviderClaims} {normalized : VerifiedIdentityClaims} {attrs : ClaimMap}
variable {stamps : List PredicateAttestation} {config : BridgeConfig}

theorem residence_carriesOnly_iff {text : String} (derived : config.includeDerivedProofs = true)
    (row : getClaim attrs "residentCountry" = getClaim (claimsToAttributes chrono config normalized)
      "residentCountry")
    (stamped : ∀ stamp ∈ stamps, stamp.predicate = "residency" →
      stamp.country = countryFrom attrs "residentCountry")
    (recognised : Recognised text) :
    CarriesOnly attrs stamps "residentCountry" "residency" (normalizeNationalityToAlpha2 text) ↔
      ∀ code, normalized.residentCountry = some code →
        code = "" ∨ code = normalizeNationalityToAlpha2 text := by
  rw [carriesOnly_iff (normalize_isCode recognised) stamped, row, getClaim_residentCountry,
    if_pos derived]
  cases normalized.residentCountry with
  | none =>
    constructor
    · intro _ code given
      cases given
    · intro _ value given
      cases given
  | some country =>
    constructor
    · intro only code given
      obtain rfl := Option.some.inj given
      by_cases empty : country = ""
      · exact .inl empty
      · exact .inr (Json.string.inj (only (.string country) (by
          rw [Option.bind_some, nonEmptyText, if_neg empty])))
    · intro passes value given
      rw [Option.bind_some, nonEmptyText] at given
      split at given
      · cases given
      · next filled =>
        rw [← Option.some.inj given]
        exact congrArg Json.string ((passes country rfl).resolve_left filled)

end

/-- The countries of a credential and of its stamps are the provider's, for every configuration
of the bridge, exactly if the country of residence is passed on as its code. -/
theorem stamped_countries_iff (P : Primitives) (chrono : Chrono)
    (portrait : String → Option String) (calendar : Calendar) (config : BridgeConfig)
    (result : ProviderResult) (raw : RawProviderClaims) (normalized : VerifiedIdentityClaims)
    (issuer : KeyPair) (owner : PublicKey) (personhood : Bool)
    (parsed : result.raw portrait = some raw)
    (normalizes : raw.normalize chrono = some normalized) :
    CountriesNamed result
        (withKeys P (claimsToAttributes chrono config normalized) issuer owner)
        (stampsOf calendar
          (withKeys P (claimsToAttributes chrono config normalized) issuer owner) personhood) ↔
      (config.includeDerivedProofs = true → result.KeepsResidence) := by
  have kept : ∀ name, isKeyMaterial name = false →
      getClaim (withKeys P (claimsToAttributes chrono config normalized) issuer owner) name =
        getClaim (claimsToAttributes chrono config normalized) name :=
    fun _ other => getClaim_withKeys other _ _ _ _
  generalize withKeys P (claimsToAttributes chrono config normalized) issuer owner = attrs at kept ⊢
  have nationality : ∀ text, result.nationality = some text → Recognised text →
      CarriesOnly attrs (stampsOf calendar attrs personhood) "nationality" "nationality"
        (normalizeNationalityToAlpha2 text) := by
    intro text named recognised
    rw [carriesOnly_iff (normalize_isCode recognised)
      fun stamp member => (stampsOf_country member).1, kept "nationality" (by decide)]
    intro value found
    rw [getClaim_nationality chrono config normalized found,
      nationality_eq parsed normalizes named]
  rw [← passesCode_iff parsed normalizes]
  constructor
  · intro named derived text code resident recognised passed
    exact (residence_carriesOnly_iff derived (kept _ (by decide))
      (fun stamp member => (stampsOf_country member).2) recognised).mp
      (named.residence text resident recognised) code passed
  · intro passes
    refine ⟨nationality, ?_⟩
    intro text resident recognised
    cases derived : config.includeDerivedProofs with
    | true =>
      exact (residence_carriesOnly_iff derived (kept _ (by decide))
        (fun stamp member => (stampsOf_country member).2) recognised).mpr
        fun code => passes derived text code resident recognised
    | false =>
      rw [carriesOnly_iff (normalize_isCode recognised)
        fun stamp member => (stampsOf_country member).2, kept "residentCountry" (by decide),
        getClaim_residentCountry, derived]
      intro value given
      cases given

/-! ## A verified address in the Netherlands -/

def dutchResident (country : String) : DiditDecisionResponse where
  status := "Approved"
  idVerification := some
    { status := some "Approved"
      nationality := some "NLD"
      parsedAddress := some ⟨some country, some true⟩ }

def dutchClaims (country : String) : VerifiedIdentityClaims :=
  normalizeDidit sampleChrono
    (((dutchResident country).idFirst.getD { status := none }).verificationData fun _ => none)

def dutchAttributes (country : String) : ClaimMap :=
  withKeys (samplePrimitives []) (claimsToAttributes sampleChrono {} (dutchClaims country))
    sampleHolder ⟨.ed25519, []⟩

/-- The Netherlands are stamped as Niger. -/
theorem netherlands_stamped_niger :
    Recognised "Netherlands" ∧ normalizeNationalityToAlpha2 "Netherlands" = "NL" ∧
      (ProviderResult.didit (dutchResident "Netherlands")).residence = some "Netherlands" ∧
      getClaim (dutchAttributes "Netherlands") "nationality" = some (.string "NL") ∧
      getClaim (dutchAttributes "Netherlands") "residentCountry" = some (.string "NE") ∧
      countryFrom (dutchAttributes "Netherlands") "residentCountry" = some "NE" ∧
      ¬CountriesNamed (.didit (dutchResident "Netherlands")) (dutchAttributes "Netherlands")
        (stampsOf ⟨fun _ => none, ⟨2026, 3, 1⟩⟩ (dutchAttributes "Netherlands") false) := by
  have recognised : Recognised "Netherlands" := by decide
  have code : normalizeNationalityToAlpha2 "Netherlands" = "NL" := by decide
  have cut : ProviderResult.cutCountry "Netherlands" = "NE" := by decide
  have alpha3 : normalizeNationalityToAlpha2 "NLD" = "NL" := by decide
  have nationality : getClaim (dutchAttributes "Netherlands") "nationality" =
      some (.string "NL") := by
    rw [dutchAttributes, getClaim_withKeys (by decide), getClaim_claimsToAttributes, ← alpha3]
    rfl
  have country : getClaim (dutchAttributes "Netherlands") "residentCountry" =
      some (.string "NE") := by
    have resides : (dutchClaims "Netherlands").residentCountry = some "NE" :=
      diditCountry_eq_some.mpr ⟨rfl, by decide, congrArg some cut⟩
    rw [dutchAttributes, getClaim_withKeys (by decide), getClaim_residentCountry, resides]
    rfl
  refine ⟨recognised, code, rfl, nationality, country, countryFrom_code (by decide) country, ?_⟩
  intro named
  have same := (named.residence "Netherlands" rfl recognised).1 _ country
  rw [code] at same
  exact absurd (Json.string.inj same) (by decide)

/-- The same address with the alpha-3 code. -/
theorem stamped_countries_iff_at_nld :
    CountriesNamed (.didit (dutchResident "NLD")) (dutchAttributes "NLD")
      (stampsOf ⟨fun _ => none, ⟨2026, 3, 1⟩⟩ (dutchAttributes "NLD") false) := by
  have cut : ProviderResult.cutCountry "NLD" = normalizeNationalityToAlpha2 "NLD" := by decide
  refine (stamped_countries_iff (samplePrimitives []) sampleChrono (fun _ => none)
    ⟨fun _ => none, ⟨2026, 3, 1⟩⟩ {} (.didit (dutchResident "NLD")) _ (dutchClaims "NLD")
    sampleHolder ⟨.ed25519, []⟩ false rfl rfl).mpr fun _ => ?_
  intro v address text first parsed _ country _ _
  obtain rfl := Option.some.inj first
  obtain rfl := Option.some.inj parsed
  obtain rfl := Option.some.inj country
  exact cut

end OwlId.Issuer
