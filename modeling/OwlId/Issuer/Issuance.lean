import Mathlib
import OwlId.Lib.UnicodeCase
import OwlId.ProofSystem.Predicates
import OwlId.ProofSystem.SdJwt

/-! # Direct credential issuance

`issue_credential_direct`: from a map of verified attributes to a signed SD-JWT VC.
The issuer derives the predicates the attributes support, stamps them as the
`owl_attestation` claim, renames the attributes to standard claim names and signs.

Three tables meet here and are kept apart in the source: the registry is keyed by
attribute name, the stamps by predicate family, the committed claims by standard
name.
-/

namespace OwlId.Issuer

open OwlId.Lib OwlId.ProofSystem

/-! ## Attribute maps -/

def emptyMap : ClaimMap := ⟨[], List.Pairwise.nil⟩

/-- `BTreeMap::get`. -/
def getClaim (map : ClaimMap) (name : String) : Option Json := map.fields.lookup name

/-- `BTreeMap::insert`. -/
def insertClaim (map : ClaimMap) (name : String) (value : Json) : ClaimMap :=
  ⟨Json.insertField name value map.fields, Json.insertField_sorted map.sorted⟩

theorem getClaim_insertClaim (map : ClaimMap) (name other : String) (value : Json) :
    getClaim (insertClaim map name value) other =
      if other = name then some value else getClaim map other :=
  Json.lookup_insertField name other value map.fields

/-! ## Reading attributes -/

/-- A `chrono::NaiveDate`. -/
structure NaiveDate where
  year : Int
  month : Nat
  day : Nat
deriving DecidableEq

/-- What issuance takes from the calendar. -/
structure Calendar where
  /-- `NaiveDate::parse_from_str(_, "%Y-%m-%d")`. -/
  parseFromStr : String → Option NaiveDate
  /-- `Utc::now().date_naive()`. -/
  today : NaiveDate

def yearsSinceDob (calendar : Calendar) (dob : String) : Option Nat := do
  let parsed ← calendar.parseFromStr dob
  let years := calendar.today.year - parsed.year
  let birthdayAhead := calendar.today.month < parsed.month ∨
    (calendar.today.month = parsed.month ∧ calendar.today.day < parsed.day)
  return (max (if birthdayAhead then years - 1 else years) 0).toNat

def verificationLevelToU64 (s : String) : Option Nat :=
  match toAsciiLowercase (trim s) with
  | "0" | "none" | "" => some 0
  | "1" | "low" | "basic" => some 1
  | "2" | "medium" | "substantial" => some 2
  | "3" | "high" => some 3
  | other => parseUnsigned (2 ^ 64) other

/-- The integer the matching circuit asserts on; `none` is not stamped. -/
def attributeAsThreshold (calendar : Calendar) (attributeName : String) (value : Json) :
    Option Nat :=
  match attributeName with
  | "dateOfBirth" => value.asStr.bind (yearsSinceDob calendar)
  | "verificationLevel" =>
    match value with
    | .number n => (Json.number n).asU64
    | .string s => verificationLevelToU64 s
    | _ => none
  | "isResident" | "emailVerified" =>
    match value with
    | .bool b => some b.toNat
    | .number n => (Json.number n).asU64
    | .string s =>
      match toAsciiLowercase s with
      | "true" | "1" | "yes" => some 1
      | "false" | "0" | "no" | "" => some 0
      | _ => none
    | _ => none
  | "residentCountry" | "nationality" =>
    value.asStr.bind fun s => if isAlpha2 (trim s) then some 1 else none
  | _ => none

/-- The first two characters of a longer text are taken for its code. -/
def countryFrom (attrs : ClaimMap) (name : String) : Option String := do
  let raw := trim (← (← getClaim attrs name).asStr)
  if raw = "" then none
  else
    let upper := toUpperCase raw
    if isAlpha2 upper then some upper
    else
      let code := String.ofList (upper.toList.take 2)
      if isAlpha2 code then some code else none

/-! ## Predicates a credential supports -/

def isMeaningful : Json → Bool
  | .null => false
  | .string s => trim s ≠ ""
  | .array items => !items.isEmpty
  | _ => true

/-- Whether the loop over the registry keeps an entry. -/
def supports (calendar : Calendar) (attrs : ClaimMap) (pred : Predicate) : Bool :=
  match pred.params with
  | .setName name =>
    match (getClaim attrs pred.attributeName).bind Json.asStr, lookupDataset name with
    | some value, some dataset => (dataset.canonicalize value).isSome
    | _, _ => false
  | .threshold t =>
    match (getClaim attrs pred.attributeName).bind
        (attributeAsThreshold calendar pred.attributeName) with
    | some actual => !(actual < t)
    | none => false
  | .dynamic =>
    ((getClaim attrs pred.attributeName).bind
      (attributeAsThreshold calendar pred.attributeName)).isSome

def presentAttributes (attrs : ClaimMap) : List String :=
  (attrs.fields.filter fun field => isMeaningful field.2).map Prod.fst

def deriveAvailablePredicates (calendar : Calendar) (attrs : ClaimMap) : List String :=
  ((forAttributes (presentAttributes attrs)).filter (supports calendar attrs)).map Predicate.id

/-! ## Stamps -/

def predicateFamily (id : String) : String := (splitChar ':' id).headD ""

/-- The stamp of a registry entry, if its family has an attest circuit. -/
def stampFor (attrs : ClaimMap) (pred : Predicate) : Option PredicateAttestation :=
  if pred.id = "age:gte" then some { predicate := "age" }
  else if pred.id = "age:range" then some { predicate := "age_range" }
  else
    match predicateFamily pred.id, pred.params with
    | "kyc", .threshold t => some { predicate := "kyc", threshold := some t }
    | "nationality", _ => (countryFrom attrs "nationality").map fun country =>
        { predicate := "nationality", country := some country }
    | "residency", _ => (countryFrom attrs "residentCountry").map fun country =>
        { predicate := "residency", country := some country }
    | "email", _ => some { predicate := "email_verified" }
    | "personhood", _ => some { predicate := "unique_personhood" }
    | _, _ => none

def derivePredicateAttestations (availablePredicates : List String) (personhood : Bool)
    (attrs : ClaimMap) : List PredicateAttestation :=
  (availablePredicates.filterMap fun id => (lookupPredicate id).bind (stampFor attrs)) ++
    if personhood then [{ predicate := "unique_personhood" }] else []

/-- Absent parameters are not serialized. -/
def attestationJson (stamp : PredicateAttestation) : Json :=
  .ofFields
    ([("predicate", Json.string stamp.predicate)] ++
     (stamp.threshold.map fun t => ("threshold", Json.number (.posInt t))).toList ++
     (stamp.minAge.map fun age => ("min_age", Json.number (.posInt age))).toList ++
     (stamp.maxAge.map fun age => ("max_age", Json.number (.posInt age))).toList ++
     (stamp.epoch.map fun epoch => ("epoch", Json.string epoch)).toList ++
     (stamp.appId.map fun appId => ("app_id", Json.string appId)).toList ++
     (stamp.country.map fun country => ("country", Json.string country)).toList)

/-! ## Claims -/

/-- The standard claim name of an attribute. -/
def standardName (k : String) : String :=
  match k with
  | "firstName" => "given_name"
  | "lastName" => "family_name"
  | "dateOfBirth" => "birthdate"
  | "placeOfBirth" => "place_of_birth"
  | "streetAddress" => "street_address"
  | "postalCode" => "postal_code"
  | "nationalId" => "national_id"
  | "passportNumber" => "passport_number"
  | "driversLicense" => "drivers_license"
  | "taxId" => "tax_id"
  | "documentType" => "document_type"
  | "documentNumber" => "document_number"
  | "issuingCountry" => "issuing_country"
  | "documentExpiry" => "document_expiry"
  | "documentIssueDate" => "document_issue_date"
  | "verificationLevel" => "verification_level"
  | "verifiedAt" => "verified_at"
  | "verifiedBy" => "verified_by"
  | "verificationMethod" => "verification_method"
  | "isOver18" => "age_over_18"
  | "isOver21" => "age_over_21"
  | "isOver65" => "age_over_65"
  | "isEuCitizen" => "nationality_eu"
  | "isResident" => "resident"
  | "emailVerified" => "email_verified"
  | other => other

def isKeyMaterial (k : String) : Bool := k = "issuerKey" || k = "ownerKey"

/-- Two attributes may have one standard name: the one later in key order is kept. -/
def renameAttributes (attrs : ClaimMap) : ClaimMap :=
  (attrs.fields.filter fun field => !isKeyMaterial field.1).foldl
    (fun claims field => insertClaim claims (standardName field.1) field.2) emptyMap

def issuedClaims (attrs : ClaimMap) (stamps : List PredicateAttestation) : ClaimMap :=
  if stamps = [] then renameAttributes attrs
  else insertClaim (renameAttributes attrs) "owl_attestation" (.array (stamps.map attestationJson))

/-! ## Issuer identity -/

def dropScheme (scheme url : List Char) : Option (List Char) :=
  if url.take scheme.length = scheme then some (url.drop scheme.length) else none

/-- `trim_end_matches('/')`. -/
def trimEndSlashes (url : List Char) : List Char := (url.reverse.dropWhile (· = '/')).reverse

/-- The path follows the first `/`; a port's colon is percent-encoded. -/
def didWebId (publicUrl : String) : String :=
  let url := publicUrl.toList
  let noScheme := trimEndSlashes
    (((dropScheme "https://".toList url).or (dropScheme "http://".toList url)).getD url)
  let authority := (noScheme.takeWhile (· ≠ '/')).flatMap fun c =>
    if c = ':' then "%3A".toList else [c]
  let path := (noScheme.dropWhile (· ≠ '/')).drop 1
  "did:web:" ++ String.ofList authority ++
    if path = [] then "" else ":" ++ String.ofList (path.map fun c => if c = '/' then ':' else c)

/-! ## Issuance -/

inductive IdpError where
  | invalidField (field reason : String)
  | credentialIssuance (message : String)
deriving DecidableEq

def vct : String := "https://owlid.dev/credentials/identity"

/-- What a run of issuance takes from outside: the calendar, the second it runs at, the fresh
disclosure salts, the next status index and whether the database stores the result. -/
structure IssuanceRun where
  calendar : Calendar
  iat : Option Int
  salts : String → String
  statusIdx : Except String Nat
  stores : Except String Unit

section

variable (P : Primitives) (H : Hashes)

def claimsToSdJwtVc (run : IssuanceRun) (attrs : ClaimMap) (issuerKeypair : KeyPair)
    (stamps : List PredicateAttestation) (issuerPublicUrl : String) (statusIdx : Nat) :
    Except IdpError String := do
  let ownerHex ← okOr ((getClaim attrs "ownerKey").bind Json.asStr)
    (.credentialIssuance "missing ownerKey")
  let holder ← mapErr (fun e => .credentialIssuance ("bad ownerKey: " ++ e.display))
    (PublicKey.fromHex P ownerHex)
  let uri := String.ofList (trimEndSlashes issuerPublicUrl.toList) ++ "/status/1"
  let vc ← mapErr (fun e => .credentialIssuance ("SD-JWT VC: " ++ e.display))
    (issue P H (issuedClaims attrs stamps) run.salts
      { issuer := issuerKeypair, iss := didWebId issuerPublicUrl, vct := vct, holder := holder,
        iat := run.iat, exp := none, status := some ⟨statusIdx, uri⟩ })
  return vc.serialize

/-- The attributes with the two keys in them. -/
def withKeys (attributes : ClaimMap) (issuer : KeyPair) (owner : PublicKey) : ClaimMap :=
  insertClaim (insertClaim attributes "issuerKey" (.string (issuer.publicKey P).toHex))
    "ownerKey" (.string owner.toHex)

def stampsOf (calendar : Calendar) (attrs : ClaimMap) (personhood : Bool) :
    List PredicateAttestation :=
  derivePredicateAttestations (deriveAvailablePredicates calendar attrs) personhood attrs

def issueCredentialDirect (run : IssuanceRun) (issuerPrivateKey ownerPublicKey : String)
    (keyAlgorithm : SignatureAlgorithm) (attributes : ClaimMap) (issuerPublicUrl : String)
    (personhood : Bool) : Except IdpError String := do
  let issuerKeyBytes ← okOr (hexDecode issuerPrivateKey)
    (.invalidField "issuer_private_key" "Invalid hex format")
  let issuerKeypair ← okOr (KeyPair.fromBytes issuerKeyBytes)
    (.invalidField "issuer_private_key" "Invalid key format")
  let ownerPk ← mapErr
    (fun e => .invalidField "owner_public_key" ("Invalid public key format: " ++ e.display))
    (PublicKey.fromHexWithAlgorithm P ownerPublicKey keyAlgorithm)
  let attrs := withKeys P attributes issuerKeypair ownerPk
  let stamps := stampsOf run.calendar attrs personhood
  let statusIdx ← mapErr (fun e => .credentialIssuance ("status idx: " ++ e)) run.statusIdx
  let sdJwtVc ← claimsToSdJwtVc P H run attrs issuerKeypair stamps issuerPublicUrl statusIdx
  mapErr (fun e => .credentialIssuance ("Database error: " ++ e)) run.stores
  return sdJwtVc

end

end OwlId.Issuer
