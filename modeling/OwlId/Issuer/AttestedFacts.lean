import Mathlib
import OwlId.Issuer.CredentialBridge

/-! # What enters a credential unattested

A provider's raw claims are normalized with sentinels and fallbacks for what they do not
carry, and the bridge recognises the sentinels again when it builds the attributes.  Here
both are put together: which attributes of a credential go back to a field of the raw
claims, and on which raw claims all of them do.
-/

namespace OwlId.Issuer

open OwlId.Lib OwlId.ProofSystem

/-! ## The fields of the raw claims -/

namespace RawProviderClaims

/-- The date of birth the provider gives, if it can be read. -/
def birthdate (chrono : Chrono) : RawProviderClaims → Option NaiveDate
  | digiD claims => claims.dateOfBirth.bind chrono.parseCompact
  | bankId claims => (sliceTo 8 claims.user.personalNumber).bind chrono.parseCompact
  | onfido claims => chrono.parseFromStr claims.dob
  | jumio claims => chrono.parseFromStr claims.dateOfBirth
  | stripeIdentity claims => chrono.fromYmdOpt claims.dob.year claims.dob.month claims.dob.day
  | eidas claims => chrono.parseFromStr claims.dateOfBirth
  | didit claims => chrono.parseFromStr claims.dateOfBirth
  | google _ => none
  | mock claims => some claims.dateOfBirth

def nationality : RawProviderClaims → Option String
  | onfido claims => claims.nationality
  | jumio claims => claims.nationality
  | didit claims => some claims.nationality
  | mock claims => some claims.nationality
  | _ => none

/-- The country of the holder's address. -/
def addressCountry : RawProviderClaims → Option String
  | onfido claims => claims.address.map OnfidoAddress.country
  | jumio claims => claims.address.map JumioAddress.country
  | stripeIdentity claims => claims.address.map StripeAddress.country
  | didit claims => claims.residentCountry
  | mock claims => some claims.country
  | _ => none

/-- The providers that are the electronic identity of a country. -/
def isNationalEid : RawProviderClaims → Bool
  | digiD _ | bankId _ | eidas _ => true
  | _ => false

def isMock : RawProviderClaims → Bool
  | mock _ => true
  | _ => false

end RawProviderClaims

/-! ## Attributes that go back to them -/

/-- The credential says something under a name. -/
def Asserts (attrs : ClaimMap) (name : String) : Prop := (getClaim attrs name).isSome = true

/-- Every fact about age, nationality and residence has a field of the raw claims behind it, the
country is that of the address, and no text is the empty one. -/
structure OnlyAttested (chrono : Chrono) (raw : RawProviderClaims) (attrs : ClaimMap) : Prop where
  birthdate : ∀ name ∈ ["dateOfBirth", "isOver18", "isOver21", "isOver65"], Asserts attrs name →
    ∃ date, raw.birthdate chrono = some date ∧ date ≠ sentinelDob
  nationality : ∀ name ∈ ["nationality", "isEuCitizen"], Asserts attrs name →
    raw.isNationalEid = true ∨ ∃ text, raw.nationality = some text ∧ text ≠ ""
  residence : ∀ name ∈ ["isResident", "residentCountry"], Asserts attrs name →
    raw.isNationalEid = true ∨ ∃ text, raw.addressCountry = some text ∧ text ≠ ""
  country : ∀ value, getClaim attrs "country" = some value →
    raw.isNationalEid = true ∨ ∃ text, raw.addressCountry = some text ∧ value = .string text
  noEmptyText : ∀ name, getClaim attrs name ≠ some (.string "")

/-! ### Read off the normalized claims -/

section

variable {chrono : Chrono} {claims : VerifiedIdentityClaims}

theorem asserts_dob {name : String}
    (member : name ∈ ["dateOfBirth", "isOver18", "isOver21", "isOver65"]) :
    Asserts (claimsToAttributes chrono {} claims) name ↔ claims.hasRealDob = true := by
  unfold Asserts
  rw [getClaim_claimsToAttributes]
  have row : ∃ value : Json, ((attributeRows chrono {} claims).lookup name).join =
      if claims.hasRealDob then some value else none := by
    simp only [List.mem_cons, List.not_mem_nil, or_false] at member
    rcases member with rfl | rfl | rfl | rfl <;> exact ⟨_, rfl⟩
  obtain ⟨value, row⟩ := row
  rw [row]
  split <;> simp_all

theorem asserts_nationality {name : String} (member : name ∈ ["nationality", "isEuCitizen"]) :
    Asserts (claimsToAttributes chrono {} claims) name ↔ claims.nationality ≠ "" := by
  unfold Asserts
  rw [getClaim_claimsToAttributes]
  have row : ∃ value : Json, ((attributeRows chrono {} claims).lookup name).join =
      if claims.nationality = "" then none else some value := by
    simp only [List.mem_cons, List.not_mem_nil, or_false] at member
    rcases member with rfl | rfl <;> exact ⟨_, rfl⟩
  obtain ⟨value, row⟩ := row
  rw [row]
  split <;> simp_all

theorem asserts_isResident :
    Asserts (claimsToAttributes chrono {} claims) "isResident" ↔ claims.country ≠ "" := by
  have row : getClaim (claimsToAttributes chrono {} claims) "isResident" =
      if claims.country = "" then none else some (.bool claims.isResident) := by
    rw [getClaim_claimsToAttributes]
    rfl
  rw [Asserts, row]
  split <;> simp_all

theorem asserts_residentCountry :
    Asserts (claimsToAttributes chrono {} claims) "residentCountry" ↔
      ∃ text, claims.residentCountry = some text ∧ text ≠ "" := by
  have row : getClaim (claimsToAttributes chrono {} claims) "residentCountry" =
      claims.residentCountry.bind nonEmptyText := by
    rw [getClaim_claimsToAttributes]
    rfl
  rw [Asserts, row]
  cases claims.residentCountry with
  | none => simp
  | some text =>
    simp only [Option.bind_some, nonEmptyText, Option.some.injEq, exists_eq_left']
    split <;> simp_all

theorem getClaim_country :
    getClaim (claimsToAttributes chrono {} claims) "country" = nonEmptyText claims.country := by
  rw [getClaim_claimsToAttributes]
  rfl

/-- The texts that are emitted whenever they are there. -/
def VerifiedIdentityClaims.optionalTexts (claims : VerifiedIdentityClaims) : List (Option String) :=
  [claims.gender, claims.passportNumber, claims.driversLicense, claims.taxId, claims.documentType,
    claims.documentNumber, claims.issuingCountry, claims.email, claims.name, claims.picture,
    claims.locale, claims.hostedDomain]

theorem mem_table_of_lookup {table : List (String × String)} {key value : String}
    (found : table.lookup key = some value) : (key, value) ∈ table := by
  obtain ⟨before, after, parts, _⟩ := List.lookup_eq_some_iff.mp found
  rw [parts]
  exact List.mem_append_right before List.mem_cons_self

theorem alpha3Table_codes : ∀ row ∈ alpha3Table, row.2.utf8ByteSize = 2 := by decide

theorem nameTable_codes : ∀ row ∈ nameTable, row.2.utf8ByteSize = 2 := by decide

theorem normalizeNationality_ne_empty {input : String} (given : input ≠ "") :
    normalizeNationalityToAlpha2 input ≠ "" := by
  unfold normalizeNationalityToAlpha2
  intro empty
  simp only at empty
  split at empty
  case isTrue two =>
    rw [empty] at two
    cases two
  case isFalse =>
    split at empty
    case h_1 alpha2 found =>
      have size := alpha3Table_codes _ (mem_table_of_lookup found)
      rw [empty] at size
      cases size
    case h_2 =>
      split at empty
      case h_1 alpha2 found =>
        have size := nameTable_codes _ (mem_table_of_lookup found)
        rw [empty] at size
        cases size
      case h_2 => exact given empty

theorem nonEmptyText_ne_empty (value : String) : nonEmptyText value ≠ some (.string "") := by
  unfold nonEmptyText
  split
  · nofun
  case isFalse given => simpa using given

theorem map_string_eq {value : Option String} :
    value.map Json.string = some (.string "") ↔ value = some "" := by
  cases value <;> simp

/-- No row that is guarded emits the empty text. -/
theorem rawFieldRows_empty_iff :
    (∃ name, (name, some (Json.string "")) ∈ rawFieldRows chrono claims) ↔
      some "" ∈ claims.optionalTexts := by
  have guarded (guard : Prop) [Decidable guard] (value : Option Json)
      (never : value ≠ some (.string "")) :
      (some (Json.string "") = if guard then value else none) ↔ False := by
    split <;> simp [never.symm]
  have guarded' (guard : Prop) [Decidable guard] (value : Option Json)
      (never : value ≠ some (.string "")) :
      (some (Json.string "") = if guard then none else value) ↔ False := by
    split <;> simp [never.symm]
  have dates (date : Option NaiveDate) :
      (some (Json.string "") = date.map fun d => .string (chrono.display d)) ↔ False := by
    cases date with
    | none => simp
    | some d => simpa using (chrono.display_nonempty d).symm
  have texts (value : Option String) :
      (some (Json.string "") = value.map Json.string) ↔ some "" = value := by
    rw [eq_comm, map_string_eq, eq_comm]
  have nonEmpty (value : String) : (some (Json.string "") = nonEmptyText value) ↔ False :=
    iff_false_intro (nonEmptyText_ne_empty value).symm
  have dob := guarded (claims.hasRealDob = true) (some (.string (chrono.display claims.dateOfBirth)))
    (by simpa using chrono.display_nonempty _)
  have nationality : (some (Json.string "") = if claims.nationality = "" then none
      else some (.string (normalizeNationalityToAlpha2 claims.nationality))) ↔ False := by
    split
    · simp
    case isFalse given => simpa using (normalizeNationality_ne_empty given).symm
  have nationalId := guarded (claims.looksLikeDocumentSession = true)
    (nonEmptyText claims.nationalId) (nonEmptyText_ne_empty _)
  have sub := guarded' (claims.looksLikeDocumentSession = true)
    (nonEmptyText claims.nationalId) (nonEmptyText_ne_empty _)
  simp only [rawFieldRows, List.mem_cons, Prod.mk.injEq, exists_or, exists_eq_left, nonEmpty, dob,
    nationality, nationalId, sub, dates, texts, List.not_mem_nil, or_false, false_or,
    VerifiedIdentityClaims.optionalTexts]

theorem derivedProofRows_nonempty (name : String) :
    (name, some (Json.string "")) ∉ derivedProofRows claims := by
  have guarded (guard : Prop) [Decidable guard] (b : Bool) :
      ¬some (Json.string "") = if guard then some (.bool b) else none := by
    split <;> simp
  have guarded' (guard : Prop) [Decidable guard] (b : Bool) :
      ¬some (Json.string "") = if guard then none else some (.bool b) := by
    split <;> simp
  have country : ¬some (Json.string "") = claims.residentCountry.bind nonEmptyText := by
    cases claims.residentCountry with
    | none => simp
    | some text => exact (nonEmptyText_ne_empty text).symm
  have flag : ¬some (Json.string "") = claims.emailVerified.map .bool := by
    cases claims.emailVerified <;> simp
  simp only [derivedProofRows, List.mem_cons, Prod.mk.injEq, List.not_mem_nil, guarded, guarded',
    country, flag, and_false, or_self, not_false_eq_true]

theorem metadataRows_empty_iff :
    (∃ name, (name, some (Json.string "")) ∈ metadataRows claims) ↔
      claims.verifiedAt = "" ∨ claims.providerId = "" ∨ claims.verificationMethod = "" := by
  have level : ¬"" = claims.verificationLevel.asStr := by
    cases claims.verificationLevel <;> decide
  simp only [metadataRows, List.mem_cons, Prod.mk.injEq, exists_or, exists_eq_left,
    Option.some.injEq, Json.string.injEq, level, List.not_mem_nil, or_false, false_or,
    eq_comm (a := "")]

/-- An empty text is emitted exactly where a field that is there holds one. -/
theorem noEmptyText_iff :
    (∀ name, getClaim (claimsToAttributes chrono {} claims) name ≠ some (.string "")) ↔
      some "" ∉ claims.optionalTexts ∧ claims.verifiedAt ≠ "" ∧ claims.providerId ≠ "" ∧
        claims.verificationMethod ≠ "" := by
  have emitted : (∃ name, getClaim (claimsToAttributes chrono {} claims) name =
      some (.string "")) ↔ some "" ∈ claims.optionalTexts ∨ claims.verifiedAt = "" ∨
        claims.providerId = "" ∨ claims.verificationMethod = "" := by
    simp only [getClaim_eq_some_iff, attributeRows, if_true, List.mem_append, exists_or,
      rawFieldRows_empty_iff, derivedProofRows_nonempty, or_false, metadataRows_empty_iff]
  rw [← not_exists, emitted, not_or, not_or, not_or]

/-! ## One provider at a time -/

/-- What the attributes assert, in terms of the normalized claims. -/
theorem onlyAttested_iff {raw : RawProviderClaims} :
    OnlyAttested chrono raw (claimsToAttributes chrono {} claims) ↔
      (claims.hasRealDob = true →
        ∃ date, raw.birthdate chrono = some date ∧ date ≠ sentinelDob) ∧
      (claims.nationality ≠ "" →
        raw.isNationalEid = true ∨ ∃ text, raw.nationality = some text ∧ text ≠ "") ∧
      ((∃ text, claims.residentCountry = some text ∧ text ≠ "") →
        raw.isNationalEid = true ∨ ∃ text, raw.addressCountry = some text ∧ text ≠ "") ∧
      (claims.country ≠ "" →
        raw.isNationalEid = true ∨ raw.addressCountry = some claims.country) ∧
      some "" ∉ claims.optionalTexts ∧ claims.verifiedAt ≠ "" ∧ claims.providerId ≠ "" ∧
        claims.verificationMethod ≠ "" := by
  refine ⟨fun attested => ⟨?_, ?_, ?_, ?_, noEmptyText_iff.mp attested.noEmptyText⟩, ?_⟩
  · intro real
    exact attested.birthdate "dateOfBirth" (by decide) ((asserts_dob (by decide)).mpr real)
  · intro given
    exact attested.nationality "nationality" (by decide)
      ((asserts_nationality (by decide)).mpr given)
  · intro resident
    exact attested.residence "residentCountry" (by decide) (asserts_residentCountry.mpr resident)
  · intro given
    have emitted : getClaim (claimsToAttributes chrono {} claims) "country" =
        some (.string claims.country) := by
      rw [getClaim_country, nonEmptyText, if_neg given]
    refine (attested.country _ emitted).imp_right ?_
    rintro ⟨text, isCountry, same⟩
    rw [isCountry, Json.string.inj same]
  · rintro ⟨birthdate, nationality, resident, country, texts⟩
    refine ⟨?_, ?_, ?_, ?_, noEmptyText_iff.mpr texts⟩
    · exact fun name member asserted => birthdate ((asserts_dob member).mp asserted)
    · exact fun name member asserted => nationality ((asserts_nationality member).mp asserted)
    · intro name member asserted
      simp only [List.mem_cons, List.not_mem_nil, or_false] at member
      rcases member with rfl | rfl
      · have given := asserts_isResident.mp asserted
        exact (country given).imp_right fun isCountry => ⟨_, isCountry, given⟩
      · exact resident (asserts_residentCountry.mp asserted)
    · intro value emitted
      rw [getClaim_country, nonEmptyText] at emitted
      split at emitted
      case isTrue => cases emitted
      case isFalse given =>
        exact (country given).imp_right fun isCountry =>
          ⟨_, isCountry, (Option.some.inj emitted).symm⟩

end

/-- The date of birth is real only if one was read. -/
theorem dob_of_real {read : Option NaiveDate} (real : read.getD sentinelDob ≠ sentinelDob) :
    ∃ date, read = some date ∧ date ≠ sentinelDob := by
  cases read with
  | none => exact absurd rfl real
  | some date => exact ⟨date, rfl, real⟩

theorem ne_empty_of_some {value : Option String} (given : value.getD "" ≠ "") :
    ∃ text, value = some text ∧ text ≠ "" := by
  cases value with
  | none => exact absurd rfl given
  | some text => exact ⟨text, rfl, given⟩

/-- The raw claims on which nothing is filled in from elsewhere and no document field is an empty
text. -/
def RawProviderClaims.FieldsGiven : RawProviderClaims → Prop
  | digiD _ | bankId _ | mock _ => True
  | onfido claims => claims.documentType ≠ some "" ∧ claims.documentNumber ≠ some ""
  -- without an address the country is the document's
  | jumio claims => claims.address.isSome = true ∧ claims.gender ≠ some "" ∧ claims.idType ≠ "" ∧
    claims.idNumber ≠ "" ∧ claims.idCountry ≠ ""
  -- the address is taken for the nationality
  | stripeIdentity claims =>
    (∀ address, claims.address = some address → address.country = "") ∧ claims.idNumber ≠ some ""
  | eidas claims => claims.gender ≠ some "" ∧ claims.issuingCountry ≠ ""
  -- without a verified address the country is the document's
  | didit claims => (claims.isResident = true ∨ claims.residentCountry = some claims.issuingState) ∧
    claims.gender ≠ some "" ∧ claims.documentType ≠ "" ∧ claims.documentNumber ≠ "" ∧
    claims.issuingState ≠ ""
  | google claims => claims.email ≠ some "" ∧ claims.name ≠ some "" ∧ claims.picture ≠ some "" ∧
    claims.locale ≠ some "" ∧ claims.hd ≠ some ""

section

variable {chrono : Chrono}

theorem digid_attested (claims : DigiDSamlClaims) :
    OnlyAttested chrono (.digiD claims)
      (claimsToAttributes chrono {} (normalizeDigid chrono claims)) := by
  rw [onlyAttested_iff]
  refine ⟨?_, fun _ => .inl rfl, fun _ => .inl rfl, fun _ => .inl rfl, ?_⟩
  · intro real
    exact dob_of_real (of_decide_eq_true real)
  · exact ⟨by simp [VerifiedIdentityClaims.optionalTexts, normalizeDigid], chrono.now_nonempty,
      by simp [normalizeDigid], by simp [normalizeDigid]⟩

theorem bankid_attested {claims : BankIdCompletionData} {normalized : VerifiedIdentityClaims}
    (normalizes : normalizeBankid chrono claims = some normalized) :
    OnlyAttested chrono (.bankId claims) (claimsToAttributes chrono {} normalized) := by
  obtain ⟨dobStr, sliced, same⟩ := Option.bind_eq_some_iff.mp normalizes
  obtain rfl := Option.some.inj same
  rw [onlyAttested_iff]
  refine ⟨?_, fun _ => .inl rfl, fun _ => .inl rfl, fun _ => .inl rfl, ?_⟩
  · intro real
    rw [RawProviderClaims.birthdate, sliced]
    exact dob_of_real (of_decide_eq_true real)
  · exact ⟨by simp [VerifiedIdentityClaims.optionalTexts], chrono.now_nonempty, by simp, by simp⟩

theorem onfido_attested_iff (claims : OnfidoApplicantData) :
    OnlyAttested chrono (.onfido claims)
        (claimsToAttributes chrono {} (normalizeOnfido chrono claims)) ↔
      (RawProviderClaims.onfido claims).FieldsGiven := by
  rw [onlyAttested_iff]
  have texts : some "" ∉ (normalizeOnfido chrono claims).optionalTexts ↔
      claims.documentType ≠ some "" ∧ claims.documentNumber ≠ some "" := by
    rw [← List.forall_mem_ne']
    simp only [VerifiedIdentityClaims.optionalTexts, normalizeOnfido]
    split <;> simp_all
  rw [texts, RawProviderClaims.FieldsGiven]
  refine ⟨fun attested => attested.2.2.2.2.1, fun given => ⟨?_, ?_, ?_, ?_, given, ?_⟩⟩
  · exact fun real => dob_of_real (of_decide_eq_true real)
  · exact fun nationality => .inr (ne_empty_of_some nationality)
  · rintro ⟨_, absent, _⟩
    cases absent
  · intro country
    obtain ⟨text, isCountry, _⟩ := ne_empty_of_some country
    exact .inr (isCountry.trans (by simp [normalizeOnfido, isCountry]))
  · exact ⟨chrono.now_nonempty, by simp [normalizeOnfido], by simp [normalizeOnfido]⟩

theorem jumio_attested_iff (claims : JumioIdentityData) :
    OnlyAttested chrono (.jumio claims)
        (claimsToAttributes chrono {} (normalizeJumio chrono claims)) ↔
      (RawProviderClaims.jumio claims).FieldsGiven := by
  rw [onlyAttested_iff]
  have texts : some "" ∉ (normalizeJumio chrono claims).optionalTexts ↔
      claims.gender ≠ some "" ∧ claims.idType ≠ "" ∧ claims.idNumber ≠ "" ∧
        claims.idCountry ≠ "" := by
    rw [← List.forall_mem_ne']
    simp only [VerifiedIdentityClaims.optionalTexts, normalizeJumio]
    split <;> simp_all
  rw [texts, RawProviderClaims.FieldsGiven]
  refine ⟨?_, ?_⟩
  · rintro ⟨_, _, _, country, given, _⟩
    refine ⟨?_, given⟩
    cases address : claims.address with
    | some _ => rfl
    | none =>
      -- the country is the one that issued the document, which is no address
      have fallback : (normalizeJumio chrono claims).country = claims.idCountry := by
        simp [normalizeJumio, address]
      rcases country (fallback ▸ given.2.2.2) with isEid | isCountry
      · cases isEid
      · simp [RawProviderClaims.addressCountry, address] at isCountry
  · rintro ⟨hasAddress, given⟩
    obtain ⟨address, isAddress⟩ := Option.isSome_iff_exists.mp hasAddress
    refine ⟨?_, ?_, ?_, ?_, given, ?_⟩
    · exact fun real => dob_of_real (of_decide_eq_true real)
    · exact fun nationality => .inr (ne_empty_of_some nationality)
    · rintro ⟨_, absent, _⟩
      cases absent
    · exact fun _ => .inr (by simp [RawProviderClaims.addressCountry, normalizeJumio, isAddress])
    · exact ⟨chrono.now_nonempty, by simp [normalizeJumio], by simp [normalizeJumio]⟩

theorem stripe_attested_iff (claims : StripeVerifiedOutputs) :
    OnlyAttested chrono (.stripeIdentity claims)
        (claimsToAttributes chrono {} (normalizeStripe chrono claims)) ↔
      (RawProviderClaims.stripeIdentity claims).FieldsGiven := by
  rw [onlyAttested_iff]
  have texts : some "" ∉ (normalizeStripe chrono claims).optionalTexts ↔
      claims.idNumber ≠ some "" := by
    rw [← List.forall_mem_ne']
    simp only [VerifiedIdentityClaims.optionalTexts, normalizeStripe, List.forall_mem_cons]
    cases claims.idNumberType.filter fun t => containsText t "tax" || containsText t "cpf" <;> simp
  have nationality : (normalizeStripe chrono claims).nationality ≠ "" ↔
      ∃ address, claims.address = some address ∧ address.country ≠ "" := by
    simp only [normalizeStripe]
    cases claims.address <;> simp
  rw [texts, nationality, RawProviderClaims.FieldsGiven]
  refine ⟨?_, ?_⟩
  · rintro ⟨_, fromAddress, _, _, given, _⟩
    refine ⟨fun address isAddress => by_contra fun country => ?_, given⟩
    rcases fromAddress ⟨address, isAddress, country⟩ with isEid | ⟨text, isNationality, _⟩
    · cases isEid
    · cases isNationality
  · rintro ⟨noCountry, given⟩
    refine ⟨?_, ?_, ?_, ?_, given, ?_⟩
    · exact fun real => dob_of_real (of_decide_eq_true real)
    · rintro ⟨address, isAddress, country⟩
      exact absurd (noCountry address isAddress) country
    · rintro ⟨_, absent, _⟩
      cases absent
    · intro country
      obtain ⟨text, isCountry, _⟩ := ne_empty_of_some country
      exact .inr (isCountry.trans (by simp [normalizeStripe, isCountry]))
    · exact ⟨chrono.now_nonempty, by simp [normalizeStripe], by simp [normalizeStripe]⟩

theorem eidas_attested_iff (claims : EidasOidcClaims) :
    OnlyAttested chrono (.eidas claims)
        (claimsToAttributes chrono {} (normalizeEidas chrono claims)) ↔
      (RawProviderClaims.eidas claims).FieldsGiven := by
  rw [onlyAttested_iff]
  have texts : some "" ∉ (normalizeEidas chrono claims).optionalTexts ↔
      claims.gender ≠ some "" ∧ claims.issuingCountry ≠ "" := by
    rw [← List.forall_mem_ne']
    simp [VerifiedIdentityClaims.optionalTexts, normalizeEidas]
  rw [texts, RawProviderClaims.FieldsGiven]
  refine ⟨fun attested => attested.2.2.2.2.1, fun given => ⟨?_, ?_, ?_, ?_, given, ?_⟩⟩
  · exact fun real => dob_of_real (of_decide_eq_true real)
  · exact fun _ => .inl rfl
  · exact fun _ => .inl rfl
  · exact fun _ => .inl rfl
  · exact ⟨chrono.now_nonempty, by simp [normalizeEidas], by simp [normalizeEidas]⟩

theorem upperExceptions_nonempty : ∀ e ∈ upperExceptions, e.2 ≠ [] := by decide

/-- Every character has an upper case. -/
theorem upperChar_ne_nil (c : Char) : upperChar c ≠ [] := by
  unfold upperChar
  rcases mapCase_cases upperRanges upperExceptions c with ⟨r, _, _, mapped⟩ | ⟨e, member, _, mapped⟩ |
    mapped
  · simp [mapped]
  · simpa [mapped] using upperExceptions_nonempty e member
  · simp [mapped]

theorem toUpperCase_eq_empty {s : String} : toUpperCase s = "" ↔ s = "" := by
  refine ⟨fun empty => ?_, fun empty => by rw [empty]; rfl⟩
  have none : s.toList.flatMap upperChar = [] := by
    have := congrArg String.toList empty
    simpa [toUpperCase] using this
  rw [List.flatMap_eq_nil_iff] at none
  cases chars : s.toList with
  | nil => exact String.toList_inj.mp chars
  | cons c rest => exact absurd (none c (chars ▸ List.mem_cons_self)) (upperChar_ne_nil c)

theorem didit_country_of_resident {claims : DiditVerificationData}
    (resident : claims.isResident = true) :
    claims.residentCountry = some claims.residentCountryCode ∧ claims.residentCountryCode ≠ "" := by
  simp only [DiditVerificationData.isResident, Bool.and_eq_true, beq_iff_eq] at resident
  have given : claims.residentCountryCode ≠ "" := by
    intro empty
    rw [empty] at resident
    cases resident.2
  obtain ⟨text, isCountry, _⟩ := ne_empty_of_some given
  exact ⟨isCountry.trans (by simp [DiditVerificationData.residentCountryCode, isCountry]), given⟩

theorem didit_gender_iff (claims : DiditVerificationData) :
    (normalizeDidit chrono claims).gender ≠ some "" ↔ claims.gender ≠ some "" := by
  simp only [normalizeDidit]
  cases claims.gender with
  | none => simp
  | some g =>
    rw [Option.map_some, ne_eq, ne_eq, Option.some.injEq, Option.some.injEq, ← @toUpperCase_eq_empty g]
    split
    case h_1 isM => simp [isM]
    case h_2 isF => simp [isF]
    case h_3 isX => simp [isX]
    case h_4 => rfl

theorem didit_attested_iff (claims : DiditVerificationData) :
    OnlyAttested chrono (.didit claims)
        (claimsToAttributes chrono {} (normalizeDidit chrono claims)) ↔
      (RawProviderClaims.didit claims).FieldsGiven := by
  rw [onlyAttested_iff]
  have texts : some "" ∉ (normalizeDidit chrono claims).optionalTexts ↔
      claims.gender ≠ some "" ∧ claims.documentType ≠ "" ∧ claims.documentNumber ≠ "" ∧
        claims.issuingState ≠ "" := by
    rw [← List.forall_mem_ne', ← @didit_gender_iff chrono]
    simp only [VerifiedIdentityClaims.optionalTexts, List.forall_mem_cons]
    generalize (normalizeDidit chrono claims).gender = gender
    simp only [normalizeDidit]
    split <;> simp_all
  have country : (normalizeDidit chrono claims).country =
      if claims.isResident then claims.residentCountryCode else claims.issuingState := rfl
  have residentCountry : (normalizeDidit chrono claims).residentCountry =
      if claims.isResident then some claims.residentCountryCode else none := rfl
  rw [texts, country, residentCountry, RawProviderClaims.FieldsGiven]
  refine ⟨?_, ?_⟩
  · rintro ⟨_, _, _, fromAddress, given, _⟩
    refine ⟨?_, given⟩
    cases resident : claims.isResident with
    | true => exact .inl rfl
    | false =>
      rw [resident] at fromAddress
      exact .inr ((fromAddress given.2.2.2).resolve_left nofun)
  · rintro ⟨own, given⟩
    refine ⟨?_, ?_, ?_, ?_, given, ?_⟩
    · exact fun real => dob_of_real (of_decide_eq_true real)
    · exact fun nationality => .inr ⟨claims.nationality, rfl, nationality⟩
    · rintro ⟨text, here, _⟩
      split at here
      case isTrue resident =>
        exact .inr ⟨_, didit_country_of_resident resident⟩
      case isFalse => cases here
    · intro _
      split
      case isTrue resident => exact .inr (didit_country_of_resident resident).1
      case isFalse foreign => exact .inr (own.resolve_left foreign)
    · exact ⟨chrono.now_nonempty, by simp [normalizeDidit], by simp [normalizeDidit]⟩

theorem google_attested_iff (claims : GoogleOidcClaims) :
    OnlyAttested chrono (.google claims)
        (claimsToAttributes chrono {} (normalizeGoogle chrono claims)) ↔
      (RawProviderClaims.google claims).FieldsGiven := by
  rw [onlyAttested_iff]
  have texts : some "" ∉ (normalizeGoogle chrono claims).optionalTexts ↔
      claims.email ≠ some "" ∧ claims.name ≠ some "" ∧ claims.picture ≠ some "" ∧
        claims.locale ≠ some "" ∧ claims.hd ≠ some "" := by
    rw [← List.forall_mem_ne']
    simp [VerifiedIdentityClaims.optionalTexts, normalizeGoogle]
  rw [texts, RawProviderClaims.FieldsGiven]
  refine ⟨fun attested => attested.2.2.2.2.1, fun given => ⟨?_, ?_, ?_, ?_, given, ?_⟩⟩
  · exact fun real => absurd real (by simp [VerifiedIdentityClaims.hasRealDob, normalizeGoogle])
  · exact fun given => absurd rfl given
  · rintro ⟨_, absent, _⟩
    cases absent
  · exact fun given => absurd rfl given
  · exact ⟨chrono.now_nonempty, by simp [normalizeGoogle], by simp [normalizeGoogle]⟩

/-- The credential of a real provider asserts only what its raw claims carry exactly when nothing
had to be filled in from a field of another meaning and no field is an empty text. -/
theorem only_attested_iff (chrono : Chrono) (raw : RawProviderClaims)
    (normalized : VerifiedIdentityClaims) (real : raw.isMock = false)
    (normalizes : raw.normalize chrono = some normalized) :
    OnlyAttested chrono raw (claimsToAttributes chrono {} normalized) ↔ raw.FieldsGiven := by
  cases raw with
  | bankId claims => exact iff_of_true (bankid_attested normalizes) trivial
  | digiD claims =>
    obtain rfl := Option.some.inj normalizes
    exact iff_of_true (digid_attested claims) trivial
  | onfido claims =>
    obtain rfl := Option.some.inj normalizes
    exact onfido_attested_iff claims
  | jumio claims =>
    obtain rfl := Option.some.inj normalizes
    exact jumio_attested_iff claims
  | stripeIdentity claims =>
    obtain rfl := Option.some.inj normalizes
    exact stripe_attested_iff claims
  | eidas claims =>
    obtain rfl := Option.some.inj normalizes
    exact eidas_attested_iff claims
  | didit claims =>
    obtain rfl := Option.some.inj normalizes
    exact didit_attested_iff claims
  | google claims =>
    obtain rfl := Option.some.inj normalizes
    exact google_attested_iff claims
  | mock claims => cases real

end

/-! ### A holder with a foreign address -/

/-- Stripe's outputs for someone who lives in the Netherlands; of which country they are a citizen
is not among them. -/
def dutchAddress : StripeVerifiedOutputs where
  firstName := "Karin"
  lastName := "Svensson"
  dob := ⟨1, 1, 1995⟩
  address := some ⟨"Kerkstraat 1", "Amsterdam", "1012 AB", "NL"⟩
  idNumber := some "123"
  idNumberType := none

/-- The credential calls them Dutch and a citizen of the Union. -/
theorem nationality_from_address :
    ∃ normalized, (RawProviderClaims.stripeIdentity dutchAddress).normalize sampleChrono =
        some normalized ∧
      getClaim (claimsToAttributes sampleChrono {} normalized) "nationality" =
        some (.string "NL") ∧
      getClaim (claimsToAttributes sampleChrono {} normalized) "isEuCitizen" = some (.bool true) ∧
      ¬OnlyAttested sampleChrono (.stripeIdentity dutchAddress)
        (claimsToAttributes sampleChrono {} normalized) := by
  refine ⟨_, rfl, ?_, ?_, fun attested => ?_⟩
  · rw [getClaim_claimsToAttributes]
    have code : normalizeNationalityToAlpha2 "NL" = "NL" := by decide
    exact congrArg (fun text => some (Json.string text)) code
  · rw [getClaim_claimsToAttributes]
    have citizen : isEuCitizen "NL" = true := by decide
    exact congrArg (fun flag => some (Json.bool flag)) citizen
  have asserted : Asserts (claimsToAttributes sampleChrono {}
      (normalizeStripe sampleChrono dutchAddress)) "nationality" :=
    (asserts_nationality (by decide)).mpr (by decide)
  rcases attested.nationality "nationality" (by decide) asserted with isEid | ⟨_, absent, _⟩
  · cases isEid
  · cases absent

def dutchApplicant : OnfidoApplicantData where
  firstName := "Jan"
  lastName := "Jansen"
  dob := "1995-01-01"
  address := none
  nationality := some "Dutch"
  documentType := some "passport"
  documentNumber := some "NXC65LP76"
  idNumbers := []

theorem only_attested_at_applicant :
    OnlyAttested sampleChrono (.onfido dutchApplicant)
      (claimsToAttributes sampleChrono {} (normalizeOnfido sampleChrono dutchApplicant)) :=
  (only_attested_iff sampleChrono (.onfido dutchApplicant)
    (normalizeOnfido sampleChrono dutchApplicant) rfl rfl).mpr ⟨by decide, by decide⟩

end OwlId.Issuer
