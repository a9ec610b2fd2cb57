import Mathlib
import OwlId.Lib.UnicodeCase
import OwlId.ProofSystem.Attestation
import OwlId.ProofSystem.Json

/-! # Claim routing

The table from DCQL claim paths, with the values of the claim, to predicates.
-/

namespace OwlId.ProofSystem

open OwlId.Lib

inductive RoutedPredicate where
  | ageGte (threshold : Nat)
  | ageRange (min max : Nat)
  | kycGte (threshold : Nat)
  | nationalityIn (countries : List String)
  | residencyIn (countries : List String)
  | emailVerified
  | uniquePersonhood (epoch appId : String)
deriving DecidableEq

def euCountryCodes : List String :=
  ["AT", "BE", "BG", "CY", "CZ", "DE", "DK", "EE", "ES", "FI", "FR", "GR", "HR", "HU", "IE", "IT",
    "LT", "LU", "LV", "MT", "NL", "PL", "PT", "RO", "SE", "SI", "SK"]

/-- Two bytes, all of them letters. -/
def isCountryCode (s : String) : Bool :=
  (asBytes s).length == 2 && s.toList.all isAsciiAlphabetic

def countryCodes (arr : List Json) : List String :=
  (arr.filterMap fun v => v.asStr.map toUpperCase).filter isCountryCode

def collectCountryCodes (arr : List Json) : Option (List String) :=
  let codes := countryCodes arr
  if codes.isEmpty = true ∨ countrySetSlots < codes.length then none else some codes

/-- A nested array, an object with `countries`, or a flat array. -/
def pickCountrySet (values : List Json) : Option (List String) := do
  let first ← values.head?
  match first.asArray with
  | some arr => collectCountryCodes arr
  | none =>
    match (first.get "countries").bind Json.asArray with
    | some arr => collectCountryCodes arr
    | none => collectCountryCodes values

def pickPersonhoodScope (values : List Json) : Option RoutedPredicate := do
  let v ← values.head?
  let epoch ← (v.get "epoch").bind Json.asStr
  let appId ← (v.get "app_id").bind Json.asStr
  some (.uniquePersonhood epoch appId)

def pickAgeThreshold (values : List Json) : Option RoutedPredicate := do
  let v ← values.head?
  let threshold ← v.asU64
  some (.ageGte threshold)

def pickAgeRange (values : List Json) : Option RoutedPredicate := do
  let v ← values.head?
  let min ← (v.get "min").bind Json.asU64
  let max ← (v.get "max").bind Json.asU64
  some (.ageRange min max)

/-- The rung a label stands for. -/
def rungOf (s : String) : Option Nat :=
  if s = "high" then some 3 else if s = "substantial" then some 2
  else if s = "basic" then some 1 else none

/-- The first number or label, by default the lowest rung. -/
def pickKycThreshold : List Json → Nat
  | [] => 1
  | v :: rest =>
    match v.asU64 with
    | some n => n
    | none =>
      match v.asStr.bind rungOf with
      | some rung => rung
      | none => pickKycThreshold rest

def routeClaim (path : String) (values : List Json) : Option RoutedPredicate :=
  match path with
  | "age_over" => pickAgeThreshold values
  | "age_range" => pickAgeRange values
  | "nationality_in" => (pickCountrySet values).map .nationalityIn
  | "resident_in" => (pickCountrySet values).map .residencyIn
  | "nationality_eu" => some (.nationalityIn euCountryCodes)
  | "email_verified" => some .emailVerified
  | "verification_level" => some (.kycGte (pickKycThreshold values))
  | "unique_person" => pickPersonhoodScope values
  | _ => none

end OwlId.ProofSystem
