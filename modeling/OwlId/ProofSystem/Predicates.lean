import Mathlib
import OwlId.Lib.Text

/-! # The predicate registry

The catalogue of predicates an issuer may stamp on a credential and the datasets that
set-membership entries of it are checked against.  A stamp is a
`PredicateAttestation`: the family of the predicate and the parameters its variant has.
-/

namespace OwlId.ProofSystem

open OwlId.Lib

/-! ## Datasets -/

/-- A named set of leaf strings; `normalize` maps other spellings to a leaf. -/
structure Dataset where
  name : String
  items : List String
  normalize : Option (String → Option String)

def Dataset.canonicalize (dataset : Dataset) (input : String) : Option String :=
  match dataset.normalize with
  | some norm => norm input
  | none => dataset.items.find? (· = input)

def euAlpha2Leaves : List String :=
  ["AT", "BE", "BG", "HR", "CY", "CZ", "DK", "EE", "FI", "FR", "DE", "GR", "HU", "IE", "IT", "LV",
    "LT", "LU", "MT", "NL", "PL", "PT", "RO", "SK", "SI", "ES", "SE"]

def euAlpha3 : List (String × String) :=
  [("AUT", "AT"), ("BEL", "BE"), ("BGR", "BG"), ("HRV", "HR"), ("CYP", "CY"), ("CZE", "CZ"),
    ("DNK", "DK"), ("EST", "EE"), ("FIN", "FI"), ("FRA", "FR"), ("DEU", "DE"), ("GRC", "GR"),
    ("HUN", "HU"), ("IRL", "IE"), ("ITA", "IT"), ("LVA", "LV"), ("LTU", "LT"), ("LUX", "LU"),
    ("MLT", "MT"), ("NLD", "NL"), ("POL", "PL"), ("PRT", "PT"), ("ROU", "RO"), ("SVK", "SK"),
    ("SVN", "SI"), ("ESP", "ES"), ("SWE", "SE")]

/-- English names and demonyms, in lower case. -/
def euNames : List (String × String) :=
  [("austria", "AT"), ("austrian", "AT"), ("belgium", "BE"), ("belgian", "BE"),
    ("bulgaria", "BG"), ("bulgarian", "BG"), ("croatia", "HR"), ("croatian", "HR"),
    ("cyprus", "CY"), ("cypriot", "CY"), ("czechia", "CZ"), ("czech republic", "CZ"),
    ("czech", "CZ"), ("denmark", "DK"), ("danish", "DK"), ("estonia", "EE"), ("estonian", "EE"),
    ("finland", "FI"), ("finnish", "FI"), ("france", "FR"), ("french", "FR"), ("germany", "DE"),
    ("german", "DE"), ("greece", "GR"), ("greek", "GR"), ("hungary", "HU"), ("hungarian", "HU"),
    ("ireland", "IE"), ("irish", "IE"), ("italy", "IT"), ("italian", "IT"), ("latvia", "LV"),
    ("latvian", "LV"), ("lithuania", "LT"), ("lithuanian", "LT"), ("luxembourg", "LU"),
    ("luxembourgish", "LU"), ("malta", "MT"), ("maltese", "MT"), ("netherlands", "NL"),
    ("the netherlands", "NL"), ("dutch", "NL"), ("poland", "PL"), ("polish", "PL"),
    ("portugal", "PT"), ("portuguese", "PT"), ("romania", "RO"), ("romanian", "RO"),
    ("slovakia", "SK"), ("slovak", "SK"), ("slovenia", "SI"), ("slovenian", "SI"),
    ("spain", "ES"), ("spanish", "ES"), ("sweden", "SE"), ("swedish", "SE")]

def normalizeEu (input : String) : Option String :=
  let upper := toAsciiUppercase (trim input)
  let lower := toAsciiLowercase (trim input)
  (euAlpha2Leaves.find? (· = upper)).or ((euAlpha3.lookup upper).or (euNames.lookup lower))

def eu : Dataset := ⟨"eu", euAlpha2Leaves, some normalizeEu⟩

def lookupDataset (name : String) : Option Dataset := [eu].find? fun dataset => dataset.name = name

/-! ## Predicates -/

inductive PredicateParams where
  | threshold (t : Nat)
  | setName (name : String)
  | dynamic
deriving DecidableEq

structure Predicate where
  id : String
  attributeName : String
  params : PredicateParams
deriving DecidableEq

def registry : List Predicate :=
  [⟨"age:gte", "dateOfBirth", .dynamic⟩,
    ⟨"age:range", "dateOfBirth", .dynamic⟩,
    ⟨"nationality:in", "nationality", .dynamic⟩,
    ⟨"kyc:>=basic", "verificationLevel", .threshold 1⟩,
    ⟨"kyc:>=substantial", "verificationLevel", .threshold 2⟩,
    ⟨"kyc:>=high", "verificationLevel", .threshold 3⟩,
    ⟨"residency:in", "residentCountry", .dynamic⟩,
    ⟨"email:verified", "emailVerified", .threshold 1⟩,
    ⟨"personhood:unique", "personhoodSecret", .threshold 1⟩]

def lookupPredicate (id : String) : Option Predicate := registry.find? fun p => p.id = id

/-- The entries whose attribute is among `attrs`. -/
def forAttributes (attrs : List String) : List Predicate :=
  registry.filter fun p => p.attributeName ∈ attrs

/-- An id names one entry. -/
theorem lookupPredicate_of_mem {pred : Predicate} (member : pred ∈ registry) :
    lookupPredicate pred.id = some pred := by
  revert pred
  decide

/-! ## Stamps -/

/-- What an issuer asserts can be attested; the parameters a variant lacks are absent. -/
structure PredicateAttestation where
  predicate : String
  threshold : Option Nat := none
  minAge : Option Nat := none
  maxAge : Option Nat := none
  epoch : Option String := none
  appId : Option String := none
  country : Option String := none
deriving DecidableEq

end OwlId.ProofSystem
