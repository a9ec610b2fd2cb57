import Mathlib
import OwlId.Lib.Table
import OwlId.ProofSystem.SdJwt

/-! # DCQL queries

The query a verifier asks of a wallet, the attestation key each credential query
stands for, and the solver of `credential_sets`.  Nothing here looks at a
signature: presentations are verified one by one before a query is evaluated.
-/

namespace OwlId.Verification

open OwlId.Lib OwlId.ProofSystem

/-! ## The wire types -/

/-- The predicates a verifier can ask for.  Thresholds are `u64`, ages `u32`. -/
inductive OwlPredicate where
  | ageGte (threshold : UInt64)
  | ageRange (min max : UInt32)
  | kycGte (threshold : UInt64)
  | nationalityIn (countries : List String)
  | residencyIn (countries : List String)
  | emailVerified
  | uniquePersonhood (epoch appId : String)
deriving DecidableEq

/-- `vct_values`: the credential types a query accepts, any when empty. -/
structure DcqlMeta where
  vctValues : List String
deriving DecidableEq

structure DcqlClaimQuery where
  path : List String
  values : List Json := []

structure DcqlCredentialQuery where
  id : String
  format : String
  «meta» : Option DcqlMeta
  claims : List DcqlClaimQuery
  owlPredicate : Option OwlPredicate

structure DcqlCredentialSet where
  options : List (List String)
  required : Option Bool
deriving DecidableEq

structure DcqlRequest where
  credentials : List DcqlCredentialQuery
  credentialSets : Option (List DcqlCredentialSet)

/-- `HashMap<String, Vec<String>>`: the presentations under each credential id. -/
abbrev VpToken := Table fun entry : String × List String => entry.1

/-! ## Attestation keys -/

/-- The key, and the path segment of the contract that records it. -/
structure AttestKey where
  keyHex : String
  kind : String
deriving DecidableEq

def owlRootAnchor (owlRootHex : Option String) : Option Bytes32 := do
  let v ← hexDecode (trimStart0x (← owlRootHex))
  tryInto32 v

def owlRootRequired (queryId predicate : String) : String :=
  "DCQL credential " ++ queryId ++ ": " ++ predicate ++ " is bound to an issuer-signed owl_root, " ++
    "which this credential lacks (reissue it)"

def anchorFor (queryId predicate : String) (owlRootHex : Option String) : Except String Bytes32 :=
  okOr (owlRootAnchor owlRootHex) (owlRootRequired queryId predicate)

/-- Decode a 32-byte value from hex, tolerating `0x`. -/
def decodeHex32 (hex : String) : Except String Bytes32 := do
  let v ← okOr (hexDecode (trimStart0x hex)) "not hex"
  okOr (tryInto32 v) "must be 32 bytes"

def requireVerifierId (queryId predicate purpose verifierId : String) : Except String Unit :=
  ensure (verifierId ≠ "") ("DCQL credential " ++ queryId ++ ": verifier_id required for " ++
    predicate ++ " (" ++ purpose ++ ")")

def saltPurpose : String := "per-verifier salt binding the on-chain attestation key"

def scopePurpose : String := "binds the campaign scope to the verifier identity"

section

variable (H : Hashes) (now : UtcMonth)

/-- The key of one predicate, with the errors its arguments can cause. -/
def predicateKey (queryId : String) (owlRootHex : Option String) (verifierId : String) :
    OwlPredicate → Except String (Bytes32 × String)
  | .ageGte threshold => do
    let anchor ← anchorFor queryId "age" owlRootHex
    return (ageKey H anchor threshold.toNat (currentAgeEpoch now), "age")
  | .ageRange min max => do
    let anchor ← anchorFor queryId "age_range" owlRootHex
    -- `as u16` keeps the low 16 bits of either bound
    return (ageRangeKey H anchor (min.toNat % 2 ^ 16) (max.toNat % 2 ^ 16)
      (currentAgeEpoch now), "age_range")
  | .kycGte threshold => do
    let anchor ← anchorFor queryId "kyc" owlRootHex
    return (kycKey H anchor threshold.toNat, "kyc")
  | .nationalityIn countries => do
    requireVerifierId queryId "nationality_in" saltPurpose verifierId
    let anchor ← anchorFor queryId "nationality_in" owlRootHex
    return (nationalityKey H anchor verifierId countries, "nationality")
  | .residencyIn countries => do
    requireVerifierId queryId "residency_in" saltPurpose verifierId
    let anchor ← anchorFor queryId "residency_in" owlRootHex
    return (residencyKey H anchor verifierId countries, "residency")
  | .emailVerified => do
    let anchor ← anchorFor queryId "email_verified" owlRootHex
    return (emailVerifiedKey H anchor, "email")
  | .uniquePersonhood epoch appId => do
    requireVerifierId queryId "unique_personhood" scopePurpose verifierId
    let anchor ← anchorFor queryId "unique_personhood" owlRootHex
    let epochBytes ← mapErr (fun e => "DCQL credential " ++ queryId ++ ": epoch " ++ e)
      (decodeHex32 epoch)
    let campaign ← mapErr (fun e => "DCQL credential " ++ queryId ++ ": app_id " ++ e)
      (decodeHex32 appId)
    return (uniquePersonhoodKey H anchor epochBytes (personhoodAppId H verifierId campaign),
      "personhood")

/-- Whether the query's `meta` admits a credential of this type. -/
def vctAllowed (query : DcqlCredentialQuery) (vct : String) : Bool :=
  match query.meta with
  | some m => m.vctValues.isEmpty || m.vctValues.contains vct
  | none => true

def plaintextRefused (queryId : String) : String :=
  "DCQL credential " ++ queryId ++ ": plaintext disclosure claims (`claims[].path`) are not " ++
    "accepted by OwlID. Use the `owl_predicate` extension to dispatch every " ++
    "check to a Midnight on-chain attestation."

def predicateMissing (queryId : String) : String :=
  "DCQL credential " ++ queryId ++ ": missing `owl_predicate` extension. OwlID does not " ++
    "disclose plaintext claim values; every credential query MUST carry an " ++
    "`owl_predicate` describing which Midnight on-chain attestation to check."

def deriveAttestKey (query : DcqlCredentialQuery) (vct credIdHex : String)
    (owlRootHex : Option String) (verifierId : String) : Except String AttestKey := do
  ensure (query.format = "dc+sd-jwt")
    ("DCQL credential.format must be dc+sd-jwt (got " ++ query.format ++ ")")
  ensure (vctAllowed query vct = true) ("credential vct " ++ vct ++ " not in DCQL meta.vct_values")
  let credVec ← okOr (hexDecode (trimStart0x credIdHex)) "credential_id not hex"
  -- only the shape of the id is checked: every key anchors on owl_root
  let _ ← okOr (tryInto32 credVec) "credential_id must be 32 bytes"
  ensure (query.claims = []) (plaintextRefused query.id)
  let predicate ← okOr query.owlPredicate (predicateMissing query.id)
  let (attestKey, kind) ← predicateKey H now query.id owlRootHex verifierId predicate
  return ⟨hexEncode attestKey.toList, kind⟩

/-- What a derived key is made of. -/
theorem deriveAttestKey_eq_ok {query : DcqlCredentialQuery} {vct credIdHex : String}
    {owlRootHex : Option String} {verifierId : String} {ak : AttestKey} :
    deriveAttestKey H now query vct credIdHex owlRootHex verifierId = .ok ak ↔
      query.format = "dc+sd-jwt" ∧ vctAllowed query vct = true ∧
      (∃ credId, hexDecode (trimStart0x credIdHex) = some (Vector.toList (n := 32) credId)) ∧
      query.claims = [] ∧
      ∃ predicate key, query.owlPredicate = some predicate ∧
        predicateKey H now query.id owlRootHex verifierId predicate = .ok (key, ak.kind) ∧
        ak.keyHex = hexEncode key.toList := by
  simp only [deriveAttestKey, bind_eq_ok, ensure_eq_ok, okOr_eq_ok, pure_eq_ok, exists_const,
    tryInto32_eq_some]
  constructor
  · rintro ⟨hformat, hvct, _, hex, credId, rfl, hclaims, predicate, hpredicate, ⟨key, kind⟩, hkey,
      rfl⟩
    exact ⟨hformat, hvct, ⟨credId, hex⟩, hclaims, predicate, key, hpredicate, hkey, rfl⟩
  · rintro ⟨hformat, hvct, ⟨credId, hex⟩, hclaims, predicate, key, hpredicate, hkey, hkeyHex⟩
    refine ⟨hformat, hvct, _, hex, credId, rfl, hclaims, predicate, hpredicate, ⟨key, ak.kind⟩,
      hkey, ?_⟩
    cases ak
    simp_all

end

/-! ## Credential sets -/

/-- `{:?}` of a character; one that does not print would be written as a code point. -/
def debugChar : Char → String
  | '"' => "\\\""
  | '\\' => "\\\\"
  | '\n' => "\\n"
  | '\r' => "\\r"
  | '\t' => "\\t"
  | '\x00' => "\\0"
  | c => c.toString

def debugString (s : String) : String := "\"" ++ String.join (s.toList.map debugChar) ++ "\""

def debugRow (row : List String) : String := "[" ++ ", ".intercalate (row.map debugString) ++ "]"

/-- `{:?}` of the option rows. -/
def debugOptions (options : List (List String)) : String :=
  "[" ++ ", ".intercalate (options.map debugRow) ++ "]"

/-- Every credential is required when there are no sets. -/
def checkAllCredentials (satisfied : List String) :
    List DcqlCredentialQuery → Except String Unit
  | [] => .ok ()
  | cred :: rest => do
    ensure (cred.id ∈ satisfied) ("DCQL credential " ++ cred.id ++ " not satisfied")
    checkAllCredentials satisfied rest

def rowSatisfied (satisfied row : List String) : Bool := row.all (satisfied.contains ·)

def anyRowSatisfied (satisfied : List String) (set : DcqlCredentialSet) : Bool :=
  set.options.any (rowSatisfied satisfied)

def checkSets (satisfied : List String) : List DcqlCredentialSet → Except String Unit
  | [] => .ok ()
  | set :: rest => do
    ensure (¬ (set.required.getD true ∧ ¬ anyRowSatisfied satisfied set))
      ("DCQL credential_set unsatisfied (options=" ++ debugOptions set.options ++ ")")
    checkSets satisfied rest

def checkCredentialSets (request : DcqlRequest) (satisfied : List String) : Except String Unit :=
  match request.credentialSets with
  | none => checkAllCredentials satisfied request.credentials
  | some sets => checkSets satisfied sets

/-- The query evaluated when the wire carries none. -/
def permissiveQuery (vpToken : VpToken) : DcqlRequest where
  credentials := vpToken.rows.map fun entry => ⟨entry.1, "dc+sd-jwt", none, [], none⟩
  credentialSets := none

/-! ## What the solver accepts -/

/-- Whether a set must be satisfied. -/
def DcqlCredentialSet.isRequired (set : DcqlCredentialSet) : Bool := set.required.getD true

/-- The sets that must be satisfied, none when the field is absent. -/
def requiredSets (sets : Option (List DcqlCredentialSet)) : List DcqlCredentialSet :=
  (sets.getD []).filter DcqlCredentialSet.isRequired

/-- Some row of the set consists of these ids. -/
def Covers (ids : String → Prop) (set : DcqlCredentialSet) : Prop :=
  ∃ row ∈ set.options, ∀ id ∈ row, ids id

theorem Covers.mono {ids ids' : String → Prop} {set : DcqlCredentialSet}
    (weaker : ∀ id, ids id → ids' id) (covered : Covers ids set) : Covers ids' set := by
  obtain ⟨row, member, all⟩ := covered
  exact ⟨row, member, fun id inRow => weaker id (all id inRow)⟩

theorem anyRowSatisfied_iff {satisfied : List String} {set : DcqlCredentialSet} :
    anyRowSatisfied satisfied set = true ↔ Covers (· ∈ satisfied) set := by
  simp [anyRowSatisfied, rowSatisfied, Covers]

theorem checkAllCredentials_eq_ok {satisfied : List String} {creds : List DcqlCredentialQuery}
    {u : Unit} :
    checkAllCredentials satisfied creds = .ok u ↔ ∀ cred ∈ creds, cred.id ∈ satisfied := by
  induction creds with
  | nil => simp [checkAllCredentials]
  | cons cred rest ih => simp [checkAllCredentials, ih]

theorem checkSets_eq_ok {satisfied : List String} {sets : List DcqlCredentialSet} {u : Unit} :
    checkSets satisfied sets = .ok u ↔
      ∀ set ∈ sets, set.isRequired = true → Covers (· ∈ satisfied) set := by
  induction sets with
  | nil => simp [checkSets]
  | cons set rest ih =>
    simp only [checkSets, bind_eq_ok, ensure_eq_ok, exists_const, ih, List.forall_mem_cons,
      not_and_not_right, anyRowSatisfied_iff, DcqlCredentialSet.isRequired]

/-- The solver accepts exactly when every credential, or every required set, is covered. -/
theorem checkCredentialSets_eq_ok {request : DcqlRequest} {satisfied : List String} {u : Unit} :
    checkCredentialSets request satisfied = .ok u ↔
      (request.credentialSets = none → ∀ cred ∈ request.credentials, cred.id ∈ satisfied) ∧
      ∀ set ∈ requiredSets request.credentialSets, Covers (· ∈ satisfied) set := by
  cases sets : request.credentialSets with
  | none =>
    simp [checkCredentialSets, sets, checkAllCredentials_eq_ok, requiredSets]
  | some list =>
    simp [checkCredentialSets, sets, checkSets_eq_ok, requiredSets]

end OwlId.Verification
