import Mathlib
import OwlId.Issuer.Issuance
import OwlId.Lib.Slices

/-! # Claim normalization

Each identity provider returns its own shape of claims; `normalize` brings the nine shapes
to the common `VerifiedIdentityClaims`.  What a provider does not attest to is filled in:
an empty text, `None`, or the first of January 1900 for a date of birth.  A normaliser
that would panic has no result.
-/

namespace OwlId.Issuer

open OwlId.Lib

/-! ## Dates -/

/-- What normalization takes from `chrono`, besides what issuance does. -/
structure Chrono extends Calendar where
  /-- `NaiveDate::parse_from_str(_, "%Y%m%d")`. -/
  parseCompact : String → Option NaiveDate
  /-- `NaiveDate::from_ymd_opt`. -/
  fromYmdOpt : Int → Nat → Nat → Option NaiveDate
  /-- `NaiveDate::to_string`. -/
  display : NaiveDate → String
  /-- `Utc::now().to_rfc3339()`. -/
  now : String
  -- what is printed has digits
  display_nonempty : ∀ date, display date ≠ ""
  now_nonempty : now ≠ ""

/-- The date of birth that stands for none. -/
def sentinelDob : NaiveDate := ⟨1900, 1, 1⟩

/-- `NaiveDate::years_since`. -/
def NaiveDate.yearsSince (date base : NaiveDate) : Option Nat :=
  let years := date.year - base.year -
    if date.month < base.month ∨ date.month = base.month ∧ date.day < base.day then 1 else 0
  if 0 ≤ years then some years.toNat else none

def isOverAge (today dateOfBirth : NaiveDate) (minAge : Nat) : Bool :=
  minAge ≤ (today.yearsSince dateOfBirth).getD 0

/-! ## The common shape -/

def euCountries : List String :=
  ["AT", "BE", "BG", "HR", "CY", "CZ", "DK", "EE", "FI", "FR", "DE", "GR", "HU", "IE", "IT",
    "LV", "LT", "LU", "MT", "NL", "PL", "PT", "RO", "SK", "SI", "ES", "SE",
    "AUT", "BEL", "BGR", "HRV", "CYP", "CZE", "DNK", "EST", "FIN", "FRA", "DEU", "GRC", "HUN",
    "IRL", "ITA", "LVA", "LTU", "LUX", "MLT", "NLD", "POL", "PRT", "ROU", "SVK", "SVN", "ESP",
    "SWE",
    "Austria", "Belgium", "Bulgaria", "Croatia", "Cyprus", "Czech Republic", "Denmark", "Estonia",
    "Finland", "France", "Germany", "Greece", "Hungary", "Ireland", "Italy", "Latvia",
    "Lithuania", "Luxembourg", "Malta", "Netherlands", "Poland", "Portugal", "Romania",
    "Slovakia", "Slovenia", "Spain", "Sweden",
    "Dutch", "German", "French", "Italian", "Spanish", "Belgian", "Austrian", "Polish",
    "Swedish", "Danish", "Finnish", "Greek", "Portuguese", "Irish", "Czech", "Hungarian",
    "Romanian", "Bulgarian", "Croatian", "Slovak", "Slovenian", "Estonian", "Latvian",
    "Lithuanian", "Cypriot", "Maltese", "Luxembourgish"]

def isEuCitizen (nationality : String) : Bool :=
  euCountries.any fun c => eqIgnoreAsciiCase c nationality

inductive VerificationLevel where
  | low | substantial | high
deriving DecidableEq

def VerificationLevel.asStr : VerificationLevel → String
  | low => "low"
  | substantial => "substantial"
  | high => "high"

/-- The claims every provider is brought to.  A normaliser leaves out what its provider does not
give: an empty text or `none`. -/
structure VerifiedIdentityClaims where
  firstName : String
  lastName : String
  dateOfBirth : NaiveDate
  placeOfBirth : String := ""
  nationality : String
  gender : Option String := none
  nationalId : String
  passportNumber : Option String := none
  driversLicense : Option String := none
  taxId : Option String := none
  documentType : Option String := none
  documentNumber : Option String := none
  issuingCountry : Option String := none
  documentExpiry : Option NaiveDate := none
  documentIssueDate : Option NaiveDate := none
  portraitImage : Option String := none
  streetAddress : String := ""
  city : String := ""
  postalCode : String := ""
  country : String
  email : Option String := none
  emailVerified : Option Bool := none
  name : Option String := none
  picture : Option String := none
  locale : Option String := none
  hostedDomain : Option String := none
  isOver18 : Bool
  isOver21 : Bool
  isOver65 : Bool
  isEuCitizen : Bool
  isResident : Bool
  residentCountry : Option String := none
  verifiedAt : String
  verificationLevel : VerificationLevel
  providerId : String
  verificationMethod : String
deriving DecidableEq

/-! ## DigiD -/

structure DigiDSamlClaims where
  commonName : String
  bsn : String
  /-- `YYYYMMDD`. -/
  dateOfBirth : Option String
  surname : Option String
  authLevel : String

section

variable (chrono : Chrono)

/-- The first word of a name, and the others. -/
def splitName (words : List String) : String × String :=
  (words.headD "", " ".intercalate (words.drop 1))

def normalizeDigid (claims : DigiDSamlClaims) : VerifiedIdentityClaims :=
  let nameParts := splitWhitespace claims.commonName
  let (firstName, lastName) :=
    if 2 ≤ nameParts.length then splitName nameParts else (claims.commonName, "")
  let dateOfBirth := (claims.dateOfBirth.bind chrono.parseCompact).getD sentinelDob
  { firstName := firstName
    lastName := claims.surname.getD lastName
    dateOfBirth := dateOfBirth
    nationality := "Dutch"
    nationalId := claims.bsn
    country := "Netherlands"
    isOver18 := isOverAge chrono.today dateOfBirth 18
    isOver21 := isOverAge chrono.today dateOfBirth 21
    isOver65 := isOverAge chrono.today dateOfBirth 65
    isEuCitizen := true
    isResident := true
    residentCountry := some "NL"
    verifiedAt := chrono.now
    verificationLevel :=
      match claims.authLevel with
      | "Hoog" | "high" => .high
      | "Substantieel" | "substantial" => .substantial
      | _ => .low
    providerId := "digid"
    verificationMethod := "saml_assertion" }

/-! ## BankID -/

structure BankIdUser where
  /-- `YYYYMMDDXXXX`. -/
  personalNumber : String
  name : String
  givenName : String
  surname : String

structure BankIdCompletionData where
  user : BankIdUser

/-- The date of birth is the slice `[..8]` of the personal number; `none` where that panics. -/
def normalizeBankid (claims : BankIdCompletionData) : Option VerifiedIdentityClaims := do
  let dobStr ← sliceTo 8 claims.user.personalNumber
  let dateOfBirth := (chrono.parseCompact dobStr).getD sentinelDob
  return {
    firstName := claims.user.givenName
    lastName := claims.user.surname
    dateOfBirth := dateOfBirth
    nationality := "Swedish"
    nationalId := claims.user.personalNumber
    country := "Sweden"
    isOver18 := isOverAge chrono.today dateOfBirth 18
    isOver21 := isOverAge chrono.today dateOfBirth 21
    isOver65 := isOverAge chrono.today dateOfBirth 65
    isEuCitizen := true
    isResident := true
    residentCountry := some "SE"
    verifiedAt := chrono.now
    verificationLevel := .high
    providerId := "bankid"
    verificationMethod := "bank_mobile_app" }

/-! ## Onfido -/

structure OnfidoAddress where
  line1 : String
  town : String
  postcode : String
  country : String

structure OnfidoApplicantData where
  firstName : String
  lastName : String
  dob : String
  address : Option OnfidoAddress
  nationality : Option String
  documentType : Option String
  documentNumber : Option String
  idNumbers : List String

def normalizeOnfido (claims : OnfidoApplicantData) : VerifiedIdentityClaims :=
  let dateOfBirth := (chrono.parseFromStr claims.dob).getD sentinelDob
  let nationality := claims.nationality.getD ""
  let (passportNumber, nationalId) :=
    match claims.documentType with
    | some "passport" => (claims.documentNumber, claims.idNumbers.head?.getD "")
    | _ => (none, (claims.documentNumber.or claims.idNumbers.head?).getD "")
  { firstName := claims.firstName
    lastName := claims.lastName
    dateOfBirth := dateOfBirth
    nationality := nationality
    nationalId := nationalId
    passportNumber := passportNumber
    documentType := claims.documentType
    documentNumber := claims.documentNumber
    streetAddress := (claims.address.map OnfidoAddress.line1).getD ""
    city := (claims.address.map OnfidoAddress.town).getD ""
    postalCode := (claims.address.map OnfidoAddress.postcode).getD ""
    country := (claims.address.map OnfidoAddress.country).getD ""
    isOver18 := isOverAge chrono.today dateOfBirth 18
    isOver21 := isOverAge chrono.today dateOfBirth 21
    isOver65 := isOverAge chrono.today dateOfBirth 65
    isEuCitizen := isEuCitizen nationality
    isResident := false
    verifiedAt := chrono.now
    verificationLevel := .high
    providerId := "onfido"
    verificationMethod := "document_liveness" }

/-! ## Jumio -/

structure JumioAddress where
  line1 : String
  city : String
  postalCode : String
  country : String

structure JumioIdentityData where
  firstName : String
  lastName : String
  dateOfBirth : String
  placeOfBirth : Option String
  nationality : Option String
  gender : Option String
  idType : String
  idNumber : String
  idCountry : String
  address : Option JumioAddress

/-- Without an address the country is the one that issued the document. -/
def normalizeJumio (claims : JumioIdentityData) : VerifiedIdentityClaims :=
  let dateOfBirth := (chrono.parseFromStr claims.dateOfBirth).getD sentinelDob
  let nationality := claims.nationality.getD ""
  let (passportNumber, driversLicense, nationalId) :=
    match claims.idType with
    | "PASSPORT" => (some claims.idNumber, none, "")
    | "DRIVING_LICENSE" => (none, some claims.idNumber, "")
    | _ => (none, none, claims.idNumber)
  { firstName := claims.firstName
    lastName := claims.lastName
    dateOfBirth := dateOfBirth
    placeOfBirth := claims.placeOfBirth.getD ""
    nationality := nationality
    gender := claims.gender
    nationalId := nationalId
    passportNumber := passportNumber
    driversLicense := driversLicense
    documentType := some claims.idType
    documentNumber := some claims.idNumber
    issuingCountry := some claims.idCountry
    streetAddress := (claims.address.map JumioAddress.line1).getD ""
    city := (claims.address.map JumioAddress.city).getD ""
    postalCode := (claims.address.map JumioAddress.postalCode).getD ""
    country := (claims.address.map JumioAddress.country).getD claims.idCountry
    isOver18 := isOverAge chrono.today dateOfBirth 18
    isOver21 := isOverAge chrono.today dateOfBirth 21
    isOver65 := isOverAge chrono.today dateOfBirth 65
    isEuCitizen := isEuCitizen nationality
    isResident := false
    verifiedAt := chrono.now
    verificationLevel := .high
    providerId := "jumio"
    verificationMethod := "document_liveness" }

/-! ## Stripe Identity -/

structure StripeDob where
  day : Nat
  month : Nat
  year : Int

structure StripeAddress where
  line1 : String
  city : String
  postalCode : String
  country : String

structure StripeVerifiedOutputs where
  firstName : String
  lastName : String
  dob : StripeDob
  address : Option StripeAddress
  idNumber : Option String
  idNumberType : Option String

/-- `str::contains`. -/
def containsText (s needle : String) : Bool := decide (needle.toList <:+: s.toList)

/-- The nationality is the country of the address. -/
def normalizeStripe (claims : StripeVerifiedOutputs) : VerifiedIdentityClaims :=
  let dateOfBirth :=
    (chrono.fromYmdOpt claims.dob.year claims.dob.month claims.dob.day).getD sentinelDob
  let country := (claims.address.map StripeAddress.country).getD ""
  let nationality := country
  { firstName := claims.firstName
    lastName := claims.lastName
    dateOfBirth := dateOfBirth
    nationality := nationality
    nationalId := claims.idNumber.getD ""
    taxId := (claims.idNumberType.filter fun t => containsText t "tax" || containsText t "cpf").bind
      fun _ => claims.idNumber
    documentNumber := claims.idNumber
    streetAddress := (claims.address.map StripeAddress.line1).getD ""
    city := (claims.address.map StripeAddress.city).getD ""
    postalCode := (claims.address.map StripeAddress.postalCode).getD ""
    country := country
    isOver18 := isOverAge chrono.today dateOfBirth 18
    isOver21 := isOverAge chrono.today dateOfBirth 21
    isOver65 := isOverAge chrono.today dateOfBirth 65
    isEuCitizen := isEuCitizen nationality
    isResident := false
    verifiedAt := chrono.now
    verificationLevel := .high
    providerId := "stripe-identity"
    verificationMethod := "document_selfie" }

/-! ## eIDAS -/

structure EidasOidcClaims where
  familyName : String
  givenName : String
  dateOfBirth : String
  personIdentifier : String
  issuingCountry : String
  acr : String
  placeOfBirth : Option String
  currentAddress : Option String
  gender : Option String

def normalizeEidas (claims : EidasOidcClaims) : VerifiedIdentityClaims :=
  let dateOfBirth := (chrono.parseFromStr claims.dateOfBirth).getD sentinelDob
  { firstName := claims.givenName
    lastName := claims.familyName
    dateOfBirth := dateOfBirth
    placeOfBirth := claims.placeOfBirth.getD ""
    nationality := claims.issuingCountry
    gender := claims.gender
    nationalId := claims.personIdentifier
    issuingCountry := some claims.issuingCountry
    streetAddress := claims.currentAddress.getD ""
    country := claims.issuingCountry
    isOver18 := isOverAge chrono.today dateOfBirth 18
    isOver21 := isOverAge chrono.today dateOfBirth 21
    isOver65 := isOverAge chrono.today dateOfBirth 65
    isEuCitizen := true
    isResident := true
    residentCountry := some claims.issuingCountry
    verifiedAt := chrono.now
    verificationLevel :=
      if containsText claims.acr "high" then .high
      else if containsText claims.acr "substantial" then .substantial
      else .low
    providerId := "eidas"
    verificationMethod := "eidas_oidc" }

/-! ## Didit -/

structure DiditVerificationData where
  firstName : String
  lastName : String
  dateOfBirth : String
  nationality : String
  documentType : String
  documentNumber : String
  issuingState : String
  gender : Option String
  expirationDate : Option String
  dateOfIssue : Option String
  portraitImage : Option String
  address : Option String
  placeOfBirth : Option String
  residentCountry : Option String
  addressVerified : Bool

def DiditVerificationData.residentCountryCode (claims : DiditVerificationData) : String :=
  claims.residentCountry.getD ""

/-- Residency is taken from an address that was found in a geographic lookup. -/
def DiditVerificationData.isResident (claims : DiditVerificationData) : Bool :=
  claims.addressVerified && claims.residentCountryCode.utf8ByteSize == 2

def normalizeDidit (claims : DiditVerificationData) : VerifiedIdentityClaims :=
  let dateOfBirth := (chrono.parseFromStr claims.dateOfBirth).getD sentinelDob
  let (passportNumber, driversLicense, nationalId) :=
    match toLowerCase claims.documentType with
    | "passport" => (some claims.documentNumber, none, "")
    | "driver's license" | "drivers_license" | "driving_license" =>
      (none, some claims.documentNumber, "")
    | _ => (none, none, claims.documentNumber)
  { firstName := claims.firstName
    lastName := claims.lastName
    dateOfBirth := dateOfBirth
    placeOfBirth := claims.placeOfBirth.getD ""
    nationality := claims.nationality
    gender := claims.gender.map fun g =>
      match toUpperCase g with
      | "M" => "Male"
      | "F" => "Female"
      | "X" => "Other"
      | other => other
    nationalId := nationalId
    passportNumber := passportNumber
    driversLicense := driversLicense
    documentType := some claims.documentType
    documentNumber := some claims.documentNumber
    issuingCountry := some claims.issuingState
    documentExpiry := claims.expirationDate.bind chrono.parseFromStr
    documentIssueDate := claims.dateOfIssue.bind chrono.parseFromStr
    portraitImage := claims.portraitImage
    streetAddress := claims.address.getD ""
    country := if claims.isResident then claims.residentCountryCode else claims.issuingState
    isOver18 := isOverAge chrono.today dateOfBirth 18
    isOver21 := isOverAge chrono.today dateOfBirth 21
    isOver65 := isOverAge chrono.today dateOfBirth 65
    isEuCitizen := isEuCitizen claims.nationality
    isResident := claims.isResident
    residentCountry := if claims.isResident then some claims.residentCountryCode else none
    verifiedAt := chrono.now
    verificationLevel := .high
    providerId := "didit"
    verificationMethod := "document_liveness" }

/-! ## Google -/

structure GoogleOidcClaims where
  sub : String
  email : Option String
  emailVerified : Bool
  givenName : Option String
  familyName : Option String
  name : Option String
  picture : Option String
  locale : Option String
  hd : Option String

def normalizeGoogle (claims : GoogleOidcClaims) : VerifiedIdentityClaims :=
  let (firstName, lastName) :=
    match claims.givenName, claims.familyName with
    | some f, some l => (f, l)
    | _, _ => splitName (splitWhitespace (claims.name.getD ""))
  { firstName := firstName
    lastName := lastName
    dateOfBirth := sentinelDob
    nationality := ""
    nationalId := claims.sub
    country := ""
    email := claims.email
    emailVerified := some claims.emailVerified
    name := claims.name
    picture := claims.picture
    locale := claims.locale
    hostedDomain := claims.hd
    isOver18 := false
    isOver21 := false
    isOver65 := false
    isEuCitizen := false
    isResident := false
    verifiedAt := chrono.now
    verificationLevel := .low
    providerId := "google"
    verificationMethod := "google_oidc" }

/-! ## Mock providers -/

structure MockClaims where
  providerId : String
  firstName : String
  lastName : String
  dateOfBirth : NaiveDate
  placeOfBirth : String
  nationality : String
  nationalId : String
  streetAddress : String
  city : String
  postalCode : String
  country : String
  gender : Option String
  passportNumber : Option String
  driversLicense : Option String
  taxId : Option String
  verificationLevel : VerificationLevel
  verificationMethod : String
  verifiesResidency : Bool

def normalizeMock (claims : MockClaims) : VerifiedIdentityClaims where
  firstName := claims.firstName
  lastName := claims.lastName
  dateOfBirth := claims.dateOfBirth
  placeOfBirth := claims.placeOfBirth
  nationality := claims.nationality
  gender := claims.gender
  nationalId := claims.nationalId
  passportNumber := claims.passportNumber
  driversLicense := claims.driversLicense
  taxId := claims.taxId
  streetAddress := claims.streetAddress
  city := claims.city
  postalCode := claims.postalCode
  country := claims.country
  isOver18 := isOverAge chrono.today claims.dateOfBirth 18
  isOver21 := isOverAge chrono.today claims.dateOfBirth 21
  isOver65 := isOverAge chrono.today claims.dateOfBirth 65
  isEuCitizen := isEuCitizen claims.nationality
  isResident := claims.verifiesResidency
  residentCountry := if claims.verifiesResidency then some claims.nationality else none
  verifiedAt := chrono.now
  verificationLevel := claims.verificationLevel
  providerId := claims.providerId
  verificationMethod := claims.verificationMethod

/-! ## All providers -/

inductive RawProviderClaims where
  | digiD (claims : DigiDSamlClaims)
  | bankId (claims : BankIdCompletionData)
  | onfido (claims : OnfidoApplicantData)
  | jumio (claims : JumioIdentityData)
  | stripeIdentity (claims : StripeVerifiedOutputs)
  | eidas (claims : EidasOidcClaims)
  | didit (claims : DiditVerificationData)
  | google (claims : GoogleOidcClaims)
  | mock (claims : MockClaims)

/-- `none` where the normaliser panics. -/
def RawProviderClaims.normalize : RawProviderClaims → Option VerifiedIdentityClaims
  | digiD claims => some (normalizeDigid chrono claims)
  | bankId claims => normalizeBankid chrono claims
  | onfido claims => some (normalizeOnfido chrono claims)
  | jumio claims => some (normalizeJumio chrono claims)
  | stripeIdentity claims => some (normalizeStripe chrono claims)
  | eidas claims => some (normalizeEidas chrono claims)
  | didit claims => some (normalizeDidit chrono claims)
  | google claims => some (normalizeGoogle chrono claims)
  | mock claims => some (normalizeMock chrono claims)

end

/-! ## When a normaliser panics -/

/-- The first eight bytes of a BankID personal number end between two characters.  The other
eight shapes have nothing that is sliced. -/
def RawProviderClaims.Sliceable : RawProviderClaims → Prop
  | bankId claims => ∃ start, start <+: claims.user.personalNumber.toList ∧ utf8Bytes start = 8
  | _ => True

theorem normalize_isSome_iff (chrono : Chrono) (raw : RawProviderClaims) :
    (raw.normalize chrono).isSome = true ↔ raw.Sliceable := by
  cases raw with
  | bankId claims =>
    rw [RawProviderClaims.Sliceable, ← sliceTo_isSome_iff]
    simp only [RawProviderClaims.normalize, normalizeBankid]
    cases sliceTo 8 claims.user.personalNumber <;> simp
  | _ => exact iff_of_true rfl trivial

/-- The clock of the samples; it reads the one date they contain. -/
def sampleChrono : Chrono where
  parseFromStr s := if s = "1995-01-01" then some ⟨1995, 1, 1⟩ else none
  today := ⟨2026, 3, 1⟩
  parseCompact s := if s = "19950101" then some ⟨1995, 1, 1⟩ else none
  fromYmdOpt year month day :=
    if year = 1995 ∧ month = 1 ∧ day = 1 then some ⟨1995, 1, 1⟩ else none
  display _ := "1995-01-01"
  now := "2026-03-01T00:00:00+00:00"
  display_nonempty _ := by decide
  now_nonempty := by decide

end OwlId.Issuer
