import Mathlib
import OwlId.Sdk.Wallet
import OwlId.Verification.DcqlSoundness

/-! # Declarative predicate requests

What a verifier declares is compiled to claim paths with values.  The wallet plans
attestations from the `owl_predicate` extension and the server derives its key from the same
extension, which the compiler never writes: the server refuses every compiled query, and the
wallet plans nothing for it.
-/

namespace OwlId.Sdk

open OwlId.Lib OwlId.ProofSystem
open OwlId.Verification (DcqlClaimQuery DcqlCredentialQuery DcqlRequest AttestKey VerifyDcqlRequest
  VerifyDcqlResponse World Service deriveAttestKey deriveAttestKey_eq_ok verifyDcql keyFor)

/-! ## The compiler -/

inductive DeclaredLevel where
  | basic | substantial | high
  | number (n : Number)

/-- `PredicateRequest`, with any number that JSON can write. -/
inductive DeclaredPredicate where
  | ageOver (threshold : Number)
  | ageRange (min max : Number)
  | kycLevel (level : DeclaredLevel)
  | residencyIn (countries : List String)
  | nationalityIn (countries : List String)
  | emailVerified
  | uniquePerson (epoch appId : String)

def DeclaredLevel.json : DeclaredLevel → Json
  | .basic => .string "basic"
  | .substantial => .string "substantial"
  | .high => .string "high"
  | .number n => .number n

/-- A claim of a compiled query. -/
structure DcqlClaim where
  path : List String
  values : List Json

def countriesJson (countries : List String) : Json := .array (countries.map .string)

def toDcqlClaim : DeclaredPredicate → DcqlClaim
  | .ageOver threshold => ⟨["age_over"], [.number threshold]⟩
  | .ageRange min max =>
    ⟨["age_range"], [.ofFields [("min", .number min), ("max", .number max)]]⟩
  | .kycLevel level => ⟨["verification_level"], [level.json]⟩
  | .residencyIn countries => ⟨["resident_in"], [countriesJson countries]⟩
  | .nationalityIn countries => ⟨["nationality_in"], [countriesJson countries]⟩
  | .emailVerified => ⟨["email_verified"], [.bool true]⟩
  | .uniquePerson epoch appId =>
    ⟨["unique_person"], [.ofFields [("epoch", .string epoch), ("app_id", .string appId)]]⟩

structure CompiledQuery where
  id : String
  format : String
  claims : List DcqlClaim

def owlDcqlFormat : String := "dc+sd-jwt"

def buildDcqlRequest (predicates : List DeclaredPredicate) : Except String (List CompiledQuery) :=
  if predicates.length = 0 then .error "buildDcqlRequest: at least one predicate is required"
  else .ok [⟨"cred0", owlDcqlFormat, predicates.map toDcqlClaim⟩]

/-- The query the wallet and the server read.  There is no extension and no `meta` in it. -/
def CompiledQuery.read (query : CompiledQuery) : DcqlCredentialQuery where
  id := query.id
  format := query.format
  «meta» := none
  claims := query.claims.map fun claim => ⟨claim.path, claim.values⟩
  owlPredicate := none

/-- The request `requestPredicates` opens a session with. -/
def declaredRequest (queries : List CompiledQuery) : DcqlRequest :=
  ⟨queries.map CompiledQuery.read, none⟩

/-! ## The planner -/

/-- What the orchestrator must see attested. -/
structure RequiredAttestation where
  predicate : String
  threshold : Option Nat := none
  minAge : Option Nat := none
  maxAge : Option Nat := none
  epoch : Option String := none
  appId : Option String := none
  countries : Option (List String) := none
  verifierId : Option String := none
deriving DecidableEq

def requiredAttestationsFor (query : DcqlCredentialQuery) (verifierId : Option String) :
    List RequiredAttestation :=
  match readOwlPredicate query with
  | none => []
  | some (.ageGte threshold) => [{ predicate := "age", threshold := some threshold }]
  | some (.ageRange min max) =>
    [{ predicate := "age_range", minAge := some min, maxAge := some max }]
  | some (.kycGte threshold) => [{ predicate := "kyc", threshold := some threshold }]
  | some (.nationalityIn countries) =>
    [{ predicate := "nationality", countries := some countries, verifierId := verifierId }]
  | some (.residencyIn countries) =>
    [{ predicate := "residency", countries := some countries, verifierId := verifierId }]
  | some .emailVerified => [{ predicate := "email_verified" }]
  | some (.uniquePersonhood epoch appId) =>
    [{ predicate := "unique_personhood", epoch := some epoch, appId := some appId,
       verifierId := verifierId }]

/-! ## What it would take -/

/-- The server derives a key for every query, of some credential. -/
def Evaluable (request : DcqlRequest) : Prop :=
  ∀ query ∈ request.credentials, ∃ H now vct credIdHex owlRootHex verifierId ak,
    deriveAttestKey H now query vct credIdHex owlRootHex verifierId = .ok ak

/-- Whatever is matched, something is planned for it. -/
def Planned (request : DcqlRequest) : Prop :=
  ∀ query ∈ request.credentials, ∀ verifierId, requiredAttestationsFor query verifierId ≠ []

/-- Some presentation is accepted for it. -/
def Verifiable (request : DcqlRequest) : Prop :=
  ∃ (W : World) (svc svc' : Service) (sent : VerifyDcqlRequest) (response : VerifyDcqlResponse),
    sent.query = request ∧ verifyDcql W svc sent = (.ok response, svc') ∧ response.valid = true

/-- Without the extension no key is derived. -/
theorem deriveAttestKey_of_missing {H : Hashes} {now : UtcMonth} {query : DcqlCredentialQuery}
    {vct credIdHex verifierId : String} {owlRootHex : Option String} {ak : AttestKey}
    (missing : query.owlPredicate = none) :
    deriveAttestKey H now query vct credIdHex owlRootHex verifierId ≠ .ok ak := by
  intro derived
  obtain ⟨_, _, _, _, predicate, _, asked, _⟩ := (deriveAttestKey_eq_ok _ _).mp derived
  exact absurd (missing.symm.trans asked) nofun

/-- A request that asks for presentations, none with the extension, is never satisfied. -/
theorem not_verifiable_of_missing {request : DcqlRequest} (sets : request.credentialSets = none)
    (asks : request.credentials ≠ [])
    (missing : ∀ query ∈ request.credentials, query.owlPredicate = none) : ¬ Verifiable request := by
  rintro ⟨W, svc, svc', sent, response, rfl, returns, valid⟩
  obtain ⟨rows, solved⟩ := Verification.verifyDcql_valid returns valid
  obtain ⟨query, member⟩ := List.exists_mem_of_ne_nil _ asks
  obtain ⟨row, presented, named⟩ := List.mem_map.mp
    ((Verification.checkCredentialSets_eq_ok.mp solved).1 sets query member)
  -- the id selects some query of the request, and that query has no extension either
  cases selected : Verification.queryById sent.query.credentials row.1 with
  | none =>
    exact Verification.queryById_eq_none.mp selected
      (List.mem_map.mpr ⟨query, member, named.symm⟩)
  | some other =>
    obtain ⟨presentation, _, _, satisfied⟩ := rows row presented
    obtain ⟨outcome, ak, _, derived, _⟩ := satisfied other selected
    exact deriveAttestKey_of_missing (missing other (Verification.queryById_eq_some selected).1)
      derived

/-! ## Main result -/

/-- Whatever is declared, the server derives no key for the compiled query and accepts no
    presentation for it, and the wallet plans no attestation. -/
theorem declared_predicates_never_honoured (first : DeclaredPredicate)
    (rest : List DeclaredPredicate) :
    ∃ queries, buildDcqlRequest (first :: rest) = .ok queries ∧
      ¬ Evaluable (declaredRequest queries) ∧ ¬ Planned (declaredRequest queries) ∧
      ¬ Verifiable (declaredRequest queries) := by
  have built : buildDcqlRequest (first :: rest) =
      .ok [⟨"cred0", owlDcqlFormat, (first :: rest).map toDcqlClaim⟩] := by
    rw [buildDcqlRequest, if_neg (by simp)]
  refine ⟨_, built, ?_, ?_, ?_⟩
  · intro evaluable
    obtain ⟨_, _, _, _, _, _, _, derived⟩ := evaluable _ (List.mem_singleton_self _)
    exact deriveAttestKey_of_missing rfl derived
  · intro planned
    exact planned _ (List.mem_singleton_self _) none rfl
  · refine not_verifiable_of_missing rfl (by simp [declaredRequest]) fun query member => ?_
    obtain rfl := List.mem_singleton.mp member
    rfl

/-! ## An age check -/

def ageQuery : CompiledQuery := ⟨"cred0", owlDcqlFormat, [⟨["age_over"], [.number (.posInt 18)]⟩]⟩

/-- An age check is matched by a credential with an age stamp, but the wallet plans nothing for it
    and the server refuses the query for its shape. -/
theorem age_check_not_honoured :
    buildDcqlRequest [.ageOver (.posInt 18)] = .ok [ageQuery] ∧
      credentialSatisfies sampleWalletWorld sampleCredential ageQuery.read = true ∧
      requiredAttestationsFor ageQuery.read (some "https://rp.example") = [] ∧
      deriveAttestKey sampleHashes ⟨2026, 6⟩ ageQuery.read "https://owlid.dev/credentials/identity"
        (hexEncode (List.replicate 32 1)) (some (hexEncode (List.replicate 32 2)))
        "https://rp.example" = .error (Verification.plaintextRefused "cred0") := by
  refine ⟨rfl, by decide, rfl, ?_⟩
  have read : trimStart0x (hexEncode (List.replicate 32 1)) = hexEncode (List.replicate 32 1) := by
    decide
  simp only [deriveAttestKey, read, hexDecode_hexEncode]
  rfl

end OwlId.Sdk
