import Mathlib
import OwlId.Issuer.Normalizer

/-! # From verified claims to attributes

`claims_to_attributes` decides what goes into a credential: an empty text, an absent field
and the sentinel date are left out.  The attributes are written here as a table of rows, a
name and the value that is inserted under it, if any; no name occurs twice, so the map
holds what the table says (`getClaim_claimsToAttributes`).
-/

namespace OwlId.Issuer

open OwlId.Lib OwlId.ProofSystem

/-! ## Nationalities -/

/-- The alpha-3 codes the bridge knows. -/
def alpha3Table : List (String × String) :=
  [("AUT", "AT"), ("BEL", "BE"), ("BGR", "BG"), ("HRV", "HR"), ("CYP", "CY"), ("CZE", "CZ"),
    ("DNK", "DK"), ("EST", "EE"), ("FIN", "FI"), ("FRA", "FR"), ("DEU", "DE"), ("GRC", "GR"),
    ("HUN", "HU"), ("IRL", "IE"), ("ITA", "IT"), ("LVA", "LV"), ("LTU", "LT"), ("LUX", "LU"),
    ("MLT", "MT"), ("NLD", "NL"), ("POL", "PL"), ("PRT", "PT"), ("ROU", "RO"), ("SVK", "SK"),
    ("SVN", "SI"), ("ESP", "ES"), ("SWE", "SE"),
    ("GBR", "GB"), ("USA", "US"), ("CAN", "CA"), ("AUS", "AU"), ("CHE", "CH"), ("NOR", "NO"),
    ("ISL", "IS"), ("JPN", "JP"), ("BRA", "BR"), ("TUR", "TR")]

/-- The names of countries and nationalities the bridge knows. -/
def nameTable : List (String × String) :=
  [("austrian", "AT"), ("austria", "AT"), ("belgian", "BE"), ("belgium", "BE"),
    ("bulgarian", "BG"), ("bulgaria", "BG"), ("croatian", "HR"), ("croatia", "HR"),
    ("cypriot", "CY"), ("cyprus", "CY"), ("czech", "CZ"), ("czechia", "CZ"),
    ("czech republic", "CZ"), ("danish", "DK"), ("denmark", "DK"), ("estonian", "EE"),
    ("estonia", "EE"), ("finnish", "FI"), ("finland", "FI"), ("french", "FR"), ("france", "FR"),
    ("german", "DE"), ("germany", "DE"), ("greek", "GR"), ("greece", "GR"), ("hungarian", "HU"),
    ("hungary", "HU"), ("irish", "IE"), ("ireland", "IE"), ("italian", "IT"), ("italy", "IT"),
    ("latvian", "LV"), ("latvia", "LV"), ("lithuanian", "LT"), ("lithuania", "LT"),
    ("luxembourgish", "LU"), ("luxembourg", "LU"), ("maltese", "MT"), ("malta", "MT"),
    ("dutch", "NL"), ("netherlands", "NL"), ("the netherlands", "NL"), ("polish", "PL"),
    ("poland", "PL"), ("portuguese", "PT"), ("portugal", "PT"), ("romanian", "RO"),
    ("romania", "RO"), ("slovak", "SK"), ("slovakia", "SK"), ("slovenian", "SI"),
    ("slovenia", "SI"), ("spanish", "ES"), ("spain", "ES"), ("swedish", "SE"), ("sweden", "SE"),
    ("british", "GB"), ("united kingdom", "GB"), ("uk", "GB"), ("american", "US"),
    ("united states", "US"), ("usa", "US"), ("canadian", "CA"), ("canada", "CA"),
    ("australian", "AU"), ("australia", "AU"), ("swiss", "CH"), ("switzerland", "CH"),
    ("norwegian", "NO"), ("norway", "NO"), ("icelandic", "IS"), ("iceland", "IS"),
    ("japanese", "JP"), ("japan", "JP"), ("brazilian", "BR"), ("brazil", "BR"),
    ("turkish", "TR"), ("turkey", "TR"), ("turkiye", "TR")]

/-- A text of two bytes is taken for a code, one in neither table is returned as it is. -/
def normalizeNationalityToAlpha2 (input : String) : String :=
  let upper := toUpperCase (trim input)
  if upper.utf8ByteSize = 2 then upper
  else
    match alpha3Table.lookup upper with
    | some alpha2 => alpha2
    | none =>
      match nameTable.lookup (toLowerCase (trim input)) with
      | some alpha2 => alpha2
      | none => input

/-! ## Attributes -/

structure BridgeConfig where
  includeRawFields : Bool := true
  includeDerivedProofs : Bool := true
  includeMetadata : Bool := true

/-- A text is emitted unless it is empty. -/
def nonEmptyText (value : String) : Option Json :=
  if value = "" then none else some (.string value)

def VerifiedIdentityClaims.hasRealDob (claims : VerifiedIdentityClaims) : Bool :=
  claims.dateOfBirth ≠ sentinelDob

def VerifiedIdentityClaims.looksLikeDocumentSession (claims : VerifiedIdentityClaims) : Bool :=
  claims.passportNumber.isSome || claims.documentNumber.isSome || claims.issuingCountry.isSome

section

variable (chrono : Chrono)

def rawFieldRows (claims : VerifiedIdentityClaims) : List (String × Option Json) :=
  [("firstName", nonEmptyText claims.firstName),
    ("lastName", nonEmptyText claims.lastName),
    ("dateOfBirth",
      if claims.hasRealDob then some (.string (chrono.display claims.dateOfBirth)) else none),
    ("placeOfBirth", nonEmptyText claims.placeOfBirth),
    ("nationality",
      if claims.nationality = "" then none
      else some (.string (normalizeNationalityToAlpha2 claims.nationality))),
    ("gender", claims.gender.map .string),
    -- the subject of an account is not a government id
    ("nationalId",
      if claims.looksLikeDocumentSession then nonEmptyText claims.nationalId else none),
    ("sub", if claims.looksLikeDocumentSession then none else nonEmptyText claims.nationalId),
    ("passportNumber", claims.passportNumber.map .string),
    ("driversLicense", claims.driversLicense.map .string),
    ("taxId", claims.taxId.map .string),
    ("documentType", claims.documentType.map .string),
    ("documentNumber", claims.documentNumber.map .string),
    ("issuingCountry", claims.issuingCountry.map .string),
    ("documentExpiry", claims.documentExpiry.map fun date => .string (chrono.display date)),
    ("documentIssueDate", claims.documentIssueDate.map fun date => .string (chrono.display date)),
    ("streetAddress", nonEmptyText claims.streetAddress),
    ("city", nonEmptyText claims.city),
    ("postalCode", nonEmptyText claims.postalCode),
    ("country", nonEmptyText claims.country),
    ("email", claims.email.map .string),
    ("name", claims.name.map .string),
    ("picture", claims.picture.map .string),
    ("locale", claims.locale.map .string),
    ("hostedDomain", claims.hostedDomain.map .string)]

def derivedProofRows (claims : VerifiedIdentityClaims) : List (String × Option Json) :=
  [("isOver18", if claims.hasRealDob then some (.bool claims.isOver18) else none),
    ("isOver21", if claims.hasRealDob then some (.bool claims.isOver21) else none),
    ("isOver65", if claims.hasRealDob then some (.bool claims.isOver65) else none),
    ("isEuCitizen", if claims.nationality = "" then none else some (.bool claims.isEuCitizen)),
    ("isResident", if claims.country = "" then none else some (.bool claims.isResident)),
    ("residentCountry", claims.residentCountry.bind nonEmptyText),
    ("emailVerified", claims.emailVerified.map .bool)]

def metadataRows (claims : VerifiedIdentityClaims) : List (String × Option Json) :=
  [("verificationLevel", some (.string claims.verificationLevel.asStr)),
    ("verifiedAt", some (.string claims.verifiedAt)),
    ("verifiedBy", some (.string claims.providerId)),
    ("verificationMethod", some (.string claims.verificationMethod))]

def attributeRows (config : BridgeConfig) (claims : VerifiedIdentityClaims) :
    List (String × Option Json) :=
  (if config.includeRawFields then rawFieldRows chrono claims else []) ++
    (if config.includeDerivedProofs then derivedProofRows claims else []) ++
    if config.includeMetadata then metadataRows claims else []

def insertRow (map : ClaimMap) (row : String × Option Json) : ClaimMap :=
  match row.2 with
  | some value => insertClaim map row.1 value
  | none => map

def claimsToAttributes (config : BridgeConfig) (claims : VerifiedIdentityClaims) : ClaimMap :=
  (attributeRows chrono config claims).foldl insertRow emptyMap

/-! ## Reading the attributes back -/

theorem getClaim_insertRow (map : ClaimMap) (row : String × Option Json) (name : String) :
    getClaim (insertRow map row) name =
      if name = row.1 then row.2.or (getClaim map name) else getClaim map name := by
  obtain ⟨key, value⟩ := row
  cases value with
  | none => simp [insertRow]
  | some value =>
    rw [insertRow, getClaim_insertClaim]
    simp

/-- Rows of distinct names are read back as they stand. -/
theorem getClaim_insertRows (map : ClaimMap) {rows : List (String × Option Json)}
    (distinct : (rows.map Prod.fst).Nodup) (name : String) :
    getClaim (rows.foldl insertRow map) name = (rows.lookup name).join.or (getClaim map name) := by
  induction rows generalizing map with
  | nil => simp
  | cons row rest ih =>
    obtain ⟨fresh, others⟩ := List.nodup_cons.mp distinct
    rw [List.foldl_cons, ih _ others, getClaim_insertRow]
    by_cases here : name = row.1
    · have absent : rest.lookup name = none := by
        rw [List.lookup_eq_none_iff]
        intro other member
        refine bne_iff_ne.mpr fun same => fresh ?_
        rw [← here, same]
        exact List.mem_map_of_mem member
      subst here
      rw [absent, if_pos rfl]
      simp [List.lookup]
    · have other : (name == row.1) = false := by simpa using here
      rw [if_neg here, List.lookup_cons, other]

theorem lookup_rows_iff {rows : List (String × Option Json)}
    (distinct : (rows.map Prod.fst).Nodup) {name : String} {value : Option Json} :
    rows.lookup name = some value ↔ (name, value) ∈ rows := by
  induction rows with
  | nil => simp
  | cons row rest ih =>
    obtain ⟨fresh, others⟩ := List.nodup_cons.mp distinct
    obtain ⟨key, held⟩ := row
    by_cases here : name = key
    · subst here
      have absent : (name, value) ∉ rest := fun member =>
        fresh (List.mem_map.mpr ⟨(name, value), member, rfl⟩)
      simp [absent, eq_comm]
    · have other : (name == key) = false := by simpa using here
      rw [List.lookup_cons, other, List.mem_cons, Prod.mk.injEq]
      simp only [here, false_and, false_or]
      exact ih others

theorem attributeRows_distinct (config : BridgeConfig) (claims : VerifiedIdentityClaims) :
    ((attributeRows chrono config claims).map Prod.fst).Nodup := by
  obtain ⟨rawFields, derivedProofs, metadata⟩ := config
  cases rawFields <;> cases derivedProofs <;> cases metadata <;>
    simp [attributeRows, rawFieldRows, derivedProofRows, metadataRows]

/-- The credential holds under a name what the table has for it. -/
theorem getClaim_claimsToAttributes (config : BridgeConfig) (claims : VerifiedIdentityClaims)
    (name : String) :
    getClaim (claimsToAttributes chrono config claims) name =
      ((attributeRows chrono config claims).lookup name).join := by
  rw [claimsToAttributes, getClaim_insertRows emptyMap (attributeRows_distinct chrono config claims)]
  exact Option.or_none

theorem getClaim_eq_some_iff {config : BridgeConfig} {claims : VerifiedIdentityClaims}
    {name : String} {value : Json} :
    getClaim (claimsToAttributes chrono config claims) name = some value ↔
      (name, some value) ∈ attributeRows chrono config claims := by
  rw [getClaim_claimsToAttributes, Option.join_eq_some_iff,
    lookup_rows_iff (attributeRows_distinct chrono config claims)]

end

end OwlId.Issuer
