import Mathlib
import OwlId.Lib.Traced
import OwlId.Sdk.Countries
import OwlId.Sdk.DatePacking
import OwlId.Sdk.OwlRoot
import OwlId.Sdk.PredicateRequests
import OwlId.Contracts.Binding

/-! # The attestation orchestrator

`ensureCredentialPredicatesAttested` goes through the predicates stamped on a credential.
For each one that is required it asks whether its attestation is on chain and, if not,
assembles a circuit call, proves it, relays the proof and follows the job, with up to three
attempts.  The wallet derives what it passes in from a stored credential.

What the orchestrator takes from outside (the verification service, the prover, the abort
signal and the clock) is a `Runtime` over an arbitrary state, so a statement about every
runtime is one about every order and timing of answers.
-/

namespace OwlId.Sdk

open OwlId.Lib OwlId.ProofSystem OwlId.Contracts

/-! ## Families -/

inductive PredicateKind where
  | age | kyc | residency | email | nationality | ageRange | personhood
deriving DecidableEq

/-- The standard claim each predicate opens in its circuit. -/
def owlBoundClaim : PredicateKind → String
  | .kyc => "verification_level"
  | .email => "email_verified"
  | .nationality => "nationality"
  | .residency => "residentCountry"
  | .personhood => "personhoodSecret"
  | .age | .ageRange => "birthdate"

structure FamilySpec where
  kind : PredicateKind
  circuitId : String
  attributeName : String
deriving DecidableEq

def families : String → Option FamilySpec
  | "age" => some ⟨.age, "attestAgeGte", "dateOfBirth"⟩
  | "age_range" => some ⟨.ageRange, "attestAgeRange", "dateOfBirth"⟩
  | "kyc" => some ⟨.kyc, "attestKycGte", "verificationLevel"⟩
  | "residency" => some ⟨.residency, "attestResidencyIn", "residentCountry"⟩
  | "email_verified" => some ⟨.email, "attestEmailVerified", "emailVerified"⟩
  | "nationality" => some ⟨.nationality, "attestNationalityIn", "nationality"⟩
  | "unique_personhood" => some ⟨.personhood, "attestUniquePersonhood", "personhoodSecret"⟩
  | _ => none

/-! ## Witnesses -/

/-- How the language writes a number, and reads one: `none` is NaN, and the error the text of a
    number that is no integer. -/
structure Numerals where
  text : Number → String
  parse : String → Option (Except String Int)

inductive WitnessValue where
  | dobValue (ymd : Nat)
  | kycLevel (level : Int)
  | residentCountry (code : String)
  | emailVerifiedFlag (flag : Nat)
  | nationalityCode (code : String)
  | personhoodSecret (secret : Bytes)
deriving DecidableEq

structure PredicateWitness where
  value : WitnessValue
  /-- `allowedCountrySet` and `verifierIdHash`. -/
  countrySet : Option (List String × Bytes32)
  claimSalt : Bytes32
  claimPath : MerkleTreePath
deriving DecidableEq

section

variable (N : Numerals)

mutual
/-- `String(v)`. -/
def jsString : Json → String
  | .null => "null"
  | .bool b => if b then "true" else "false"
  | .number n => N.text n
  | .string s => s
  | .array items => ",".intercalate (jsStrings items)
  | .object _ => "[object Object]"

/-- The elements as `join` writes them, `null` as nothing. -/
def jsStrings : List Json → List String
  | [] => []
  | .null :: rest => "" :: jsStrings rest
  | item :: rest => jsString item :: jsStrings rest
end

/-- `BigInt(n)`. -/
def bigIntOf (n : Except String Int) : Except String Int :=
  mapErr (fun text => "The number " ++ text ++
    " cannot be converted to a BigInt because it is not an integer") n

/-- `BigInt(kycLevelToNumber(v))`. -/
def kycLevelToNumber (v : Json) : Except String Int :=
  match v with
  | .number n =>
    match jsNumber n with
    | .integer m => .ok m
    | .fraction => bigIntOf (.error (N.text n))
  | v =>
    match toLowerCase (jsString N v) with
    | "0" | "none" | "" => .ok 0
    | "1" | "low" | "basic" => .ok 1
    | "2" | "medium" | "substantial" => .ok 2
    | "3" | "high" => .ok 3
    | s =>
      match N.parse s with
      | some n => bigIntOf n
      | none => .error ("unrecognised verificationLevel: " ++ jsString N v)

/-- `n >= 1`. -/
def atLeastOne : Number → Bool
  | .posInt n => 1 ≤ n
  | .negInt _ => false
  | .float bits => 0x3FF0000000000000 ≤ bits && bits < 0x8000000000000000

def emailVerifiedToNumber (v : Json) : Except String Nat :=
  match v with
  | .bool b => .ok b.toNat
  | .number n => .ok (atLeastOne n).toNat
  | v =>
    match toLowerCase (jsString N v) with
    | "true" | "1" | "yes" => .ok 1
    | "false" | "0" | "no" | "" => .ok 0
    | _ => .error ("unrecognised emailVerified: " ++ jsString N v)

def normalizeCountry (v : Json) : Except String String :=
  match v with
  | .string s =>
    let trimmed := toUpperCase (jsTrim s)
    if utf16Length trimmed ≠ 2 ∨ isUpperAlpha2 trimmed = false then
      .error ("country must be ISO 3166-1 alpha-2: got \"" ++ s ++ "\"")
    else .ok trimmed
  | v => .error ("unrecognised country: " ++ jsString N v)

/-- The `witness` function of a family, on the attribute it reads. -/
def witnessValue (kind : PredicateKind) (v : Json) : Except String WitnessValue :=
  match kind with
  | .age | .ageRange => do return .dobValue (← dobYmd (jsString N v))
  | .kyc => do return .kycLevel (← kycLevelToNumber N v)
  | .residency => do return .residentCountry (← normalizeCountry N v)
  | .email => do return .emailVerifiedFlag (← emailVerifiedToNumber N v)
  | .nationality => do return .nationalityCode (← normalizeCountry N v)
  | .personhood => .ok (.personhoodSecret (hexToBytes (jsString N v)))

end

/-! ## Credentials -/

structure CredentialJson where
  rootHash : String
  owlRoot : Option String
  claimDisclosures : List ClaimEntry
  attributes : List (String × Json)
  predicateAttestations : List OwlAttestationRef

/-- The attribute is set, whether or not it was there. -/
def assign (name : String) (value : Option String) (attributes : List (String × Json)) :
    List (String × Json) :=
  match value with
  | some text => (name, .string text) :: attributes
  | none => attributes

/-- The credential as the orchestrator reads it; `none` where the SD-JWT VC does not parse. -/
def walletCredentialToProofJson (W : WalletWorld) (cred : WalletCredential) :
    Option CredentialJson :=
  cred.sdJwtVc.map fun parsed =>
    let claims := cred.verifiedClaims
    { rootHash := parsed.credentialIdHex
      owlRoot := parsed.owlRootHex
      claimDisclosures := parsed.disclosuresRaw
      attributes :=
        assign "residentCountry" ((residentAlpha2 W claims).filter (· ≠ ""))
          (assign "nationality" ((nationalityAlpha2 W claims).filter (· ≠ "")) claims)
      predicateAttestations := (parsed.owlAttestation.getD []).map (backfill W claims) }

/-! ## Iterations -/

/-- The events an iteration can end with when it does not ensure its predicate. -/
inductive SkipEvent where
  | unsupported
  | missingAttribute (name : String)
  | unsatisfiable (threshold : Option Nat) (actual : Option Int) (reason : String)
deriving DecidableEq

/-- How an iteration ends without a result; what is thrown leaves the loop as well. -/
inductive Stop where
  | notRequired
  | skipped (event : SkipEvent)
  | thrown (message : String)
deriving DecidableEq

structure EnsureResult where
  predicate : String
  threshold : Option Nat
  alreadyOnChain : Bool
deriving DecidableEq

structure AttestQuery where
  predicate : String
  rootHash : String
  owlRoot : String
  threshold : Option Nat
  minAge : Option Nat
  maxAge : Option Nat
  epoch : Option String
  appId : Option String
  countries : Option (List String)
  verifierId : Option String
deriving DecidableEq

def reason (text : String) : Stop := .skipped (.unsatisfiable none none text)

def isCountryPredicate (predicate : String) : Bool :=
  predicate == "nationality" || predicate == "residency"

/-- Whether an entry asks for the stamped predicate. -/
def matchesEntry (sp : OwlAttestationRef) (r : RequiredAttestation) : Bool :=
  if r.predicate ≠ sp.predicate then false
  else if sp.predicate = "age" ∨ sp.predicate = "age_range" then true
  else if isCountryPredicate sp.predicate then
    (sp.country.map toUpperCase).any fun stamped => (r.countries.getD []).contains stamped
  else r.threshold == sp.threshold

def isRequired (required : Option (List RequiredAttestation)) (sp : OwlAttestationRef) : Bool :=
  match required with
  | none => true
  | some entries => entries.any (matchesEntry sp)

/-- A text that is there and not empty. -/
def truthy (text : Option String) : Option String := text.filter (· ≠ "")

structure Scope where
  epoch : String
  appId : String
  effectiveAppId : String
deriving DecidableEq

structure Bounds where
  threshold : Option Nat
  minAge : Option Nat
  maxAge : Option Nat
deriving DecidableEq

structure CountrySet where
  countries : List String
  verifierIdHash : Bytes32
  setHash : Bytes32
deriving DecidableEq

/-- What an iteration has settled before it first asks the service. -/
structure Plan where
  spec : FamilySpec
  scope : Option Scope
  countrySet : Option CountrySet
  query : AttestQuery
deriving DecidableEq

section

variable (H : Hashes)

/-- `SHA-256(verifierIdHash(client_id) || appId)`, over the first 32 bytes of the campaign. -/
def effectiveAppId (verifierId : String) (appId : Bytes) : Bytes32 :=
  persistentHash H [verifierIdHash H verifierId, padBytes appId]

def computeSetHash (verifierIdHash : Bytes32) (canonCountries : List String) :
    Except String Bytes32 :=
  if countrySetSlots < canonCountries.length then
    .error ("allowedCountrySet exceeds cap: " ++ toString canonCountries.length ++ " > 256")
  else
    match buildAllowedSetTree canonCountries with
    | some leaves =>
      .ok (persistentHash H [verifierIdHash, frToLeBytes32 (merkleRootOf H leaves)])
    | none => .error "allowedCountrySet exceeds cap"

/-- The entry that `find` by name returns. -/
def entryNamed (required : Option (List RequiredAttestation)) (predicate : String) :
    Option RequiredAttestation :=
  (required.getD []).find? fun r => r.predicate == predicate

/-- The scope of an entry that has all three parts. -/
def scopeOf (r : RequiredAttestation) : Option Scope := do
  let epoch ← truthy r.epoch
  let appId ← truthy r.appId
  let verifierId ← truthy r.verifierId
  return ⟨epoch, appId, hexEncode (effectiveAppId H verifierId (hexToBytes appId)).toList⟩

/-- The first entry of the name that has all three parts. -/
def scopeEntry (required : Option (List RequiredAttestation)) (predicate : String) :
    Option RequiredAttestation :=
  (required.getD []).find? fun r => r.predicate == predicate && (scopeOf H r).isSome

def scopeFor (required : Option (List RequiredAttestation)) (sp : OwlAttestationRef)
    (spec : FamilySpec) : Except Stop (Option Scope) :=
  if spec.kind = .personhood then
    match (scopeEntry H required sp.predicate).bind (scopeOf H) with
    | some scope => .ok (some scope)
    | none => .error (.skipped .unsupported)
  else .ok none

/-- Threshold and bounds, from the entry for ages and from the stamp otherwise. -/
def boundsFor (required : Option (List RequiredAttestation)) (sp : OwlAttestationRef)
    (spec : FamilySpec) : Except Stop Bounds :=
  if spec.kind = .age ∨ spec.kind = .ageRange then
    match entryNamed required sp.predicate with
    | some r => .ok ⟨r.threshold, r.minAge, r.maxAge⟩
    | none => .error (.skipped .unsupported)
  else .ok ⟨sp.threshold, sp.minAge, sp.maxAge⟩

def notInSet (country : Option String) (canon : List String) : Stop :=
  reason ("credential stamped country " ++ country.getD "<none>" ++ " not in verifier set " ++
    ",".intercalate canon)

def countrySetFor (required : Option (List RequiredAttestation)) (sp : OwlAttestationRef) :
    Except Stop (Option CountrySet) :=
  if isCountryPredicate sp.predicate then do
    let entry := entryNamed required sp.predicate
    let codes := (entry.bind RequiredAttestation.countries).getD []
    ensure (codes ≠ []) (.skipped .unsupported)
    let verifierId ← okOr (truthy (entry.bind RequiredAttestation.verifierId))
      (reason "verifierId required for nationality / residency (per-verifier salt)")
    let canon := canonicaliseCountries codes
    ensure (canon ≠ [])
      (reason "verifier-supplied country list contained no valid alpha-2 codes")
    ensure ((truthy (sp.country.map toUpperCase)).any canon.contains = true)
      (notInSet sp.country canon)
    let setHash ← mapErr Stop.thrown (computeSetHash H (verifierIdHash H verifierId) canon)
    return some ⟨canon, verifierIdHash H verifierId, setHash⟩
  else .ok none

/-- What the service is asked, before the proof and after a failure. -/
def queryFor (required : Option (List RequiredAttestation)) (sp : OwlAttestationRef)
    (scope : Option Scope) (bounds : Bounds) (countrySet : Option CountrySet) (owlRoot : String) :
    AttestQuery where
  predicate := sp.predicate
  rootHash := owlRoot
  owlRoot := owlRoot
  threshold := bounds.threshold
  minAge := bounds.minAge
  maxAge := bounds.maxAge
  epoch := scope.map Scope.epoch
  appId := scope.map Scope.appId
  countries := countrySet.map CountrySet.countries
  verifierId :=
    if isCountryPredicate sp.predicate = true ∨ sp.predicate = "unique_personhood" then
      (entryNamed required sp.predicate).bind RequiredAttestation.verifierId
    else none

/-- The steps before the first call of the service. -/
def planFor (doc : CredentialJson) (required : Option (List RequiredAttestation))
    (sp : OwlAttestationRef) : Except Stop Plan := do
  ensure (isRequired required sp = true) .notRequired
  let spec ← okOr (families sp.predicate) (.skipped .unsupported)
  ensure ((doc.attributes.lookup spec.attributeName).isSome = true)
    (.skipped (.missingAttribute spec.attributeName))
  let scope ← scopeFor H required sp spec
  let bounds ← boundsFor required sp spec
  let countrySet ← countrySetFor H required sp
  let owlRoot ← okOr doc.owlRoot (.skipped (.unsatisfiable bounds.threshold none
    "credential predates owl_root binding — request a fresh credential"))
  return ⟨spec, scope, countrySet, queryFor required sp scope bounds countrySet owlRoot⟩

/-! ## Calls -/

inductive CircuitArg where
  | bytes (b : Bytes)
  | bigint (n : Nat)
deriving DecidableEq

structure CircuitCall where
  kind : PredicateKind
  circuitId : String
  args : List CircuitArg
  witness : PredicateWitness
deriving DecidableEq

/-- The value a circuit compares with its threshold, where it has one. -/
def numericWitnessValue (today : CalendarDate) : WitnessValue → Option Int
  | .dobValue ymd => some (((today.packed : Int) - ymd) / 10000)
  | .kycLevel level => some level
  | .emailVerifiedFlag flag => some flag
  | .residentCountry _ | .nationalityCode _ | .personhoodSecret _ => none

def findClaimPath (built : OwlRootTree) (name : String) : Except String MerkleTreePath :=
  match built.indexByName name with
  | some idx =>
    .ok ⟨built.leaves.getD idx zero32, ⟨(Merkle.pathTo (merkleNode H) merkleDepth
      (fun i => countryLeafFr H (built.leaves.getD i zero32)) idx).toArray, by simp⟩⟩
  | none => .error ("claim '" ++ name ++ "' is not bound in owl_root")

/-- The salt and the path of the claim a kind opens. -/
def claimBinding (disclosures : List ClaimEntry) (kind : PredicateKind) :
    Except String (Bytes32 × MerkleTreePath) := do
  let built ← buildOwlRootTree H disclosures
  let entry ← okOr (disclosures.find? fun d => d.name == owlBoundClaim kind)
    ("no disclosure salt for " ++ owlBoundClaim kind)
  let path ← findClaimPath H built (owlBoundClaim kind)
  return (salt32For H entry.salt, path)

def bigIntUndefined : Stop := .thrown "Cannot convert undefined to a BigInt"

/-- The public arguments of a circuit. -/
def circuitArgs (plan : Plan) (today : CalendarDate) : Except Stop (List CircuitArg) :=
  let root := CircuitArg.bytes (hexToBytes plan.query.owlRoot)
  let ageEpoch := CircuitArg.bigint (currentAgeEpoch ⟨today.year, today.month⟩)
  match plan.scope with
  | some scope =>
    .ok [root, .bytes (hexToBytes scope.epoch), .bytes (hexToBytes scope.effectiveAppId)]
  | none =>
    match plan.spec.kind with
    | .ageRange => do
      let minAge ← okOr plan.query.minAge bigIntUndefined
      let maxAge ← okOr plan.query.maxAge bigIntUndefined
      return [root, .bigint minAge, .bigint maxAge, ageEpoch]
    | .age => .ok [root, .bigint (plan.query.threshold.getD 18), ageEpoch]
    | _ =>
      match plan.countrySet with
      | some set => .ok [root, .bytes set.setHash.toList]
      | none =>
        match plan.query.threshold with
        | none => .ok [root]
        | some threshold => .ok [root, .bigint threshold]

def belowThreshold (name : String) (actual : Int) (threshold : Nat) : String :=
  "credential's " ++ name ++ "=" ++ toString actual ++ " < required " ++ toString threshold

/-- Whether the value is known to fall short of the threshold. -/
def fallsShort (threshold : Option Nat) (actual : Option Int) : Option (Nat × Int) :=
  match threshold, actual with
  | some t, some a => if a < t then some (t, a) else none
  | _, _ => none

/-- The steps between the answer of the service and the proof. -/
def assemble (N : Numerals) (doc : CredentialJson) (plan : Plan) (today : CalendarDate) :
    Except Stop CircuitCall := do
  let unsatisfiable := fun text =>
    Stop.skipped (.unsatisfiable plan.query.threshold none text)
  let held := (doc.attributes.lookup plan.spec.attributeName).getD .null
  let value ← mapErr unsatisfiable (witnessValue N plan.spec.kind held)
  let binding ← mapErr (fun text => unsatisfiable ("owl_root binding unavailable: " ++ text))
    (claimBinding H doc.claimDisclosures plan.spec.kind)
  let short := fallsShort plan.query.threshold (numericWitnessValue today value)
  match short with
  | some (t, a) =>
    .error (.skipped (.unsatisfiable (some t) (some a)
      (belowThreshold plan.spec.attributeName a t)))
  | none =>
    let args ← circuitArgs plan today
    return ⟨plan.spec.kind, plan.spec.circuitId, args,
      ⟨value, plan.countrySet.map fun set => (set.countries, set.verifierIdHash),
        binding.1, binding.2⟩⟩

end

def isBytes32 : CircuitArg → Bool
  | .bytes b => b.length == 32
  | .bigint _ => false

def isUint (width : Nat) : CircuitArg → Bool
  | .bytes _ => false
  | .bigint n => n < 2 ^ width

/-- The checks of the generated contracts: how many arguments a circuit takes, and of what
    types. -/
def CircuitCall.wellTyped (call : CircuitCall) : Bool :=
  match call.kind, call.args with
  | .age, [root, threshold, asOfYmd] =>
    isBytes32 root && isUint 16 threshold && isUint 32 asOfYmd
  | .ageRange, [root, minAge, maxAge, asOfYmd] =>
    isBytes32 root && isUint 16 minAge && isUint 16 maxAge && isUint 32 asOfYmd
  | .kyc, [root, threshold] => isBytes32 root && isUint 8 threshold
  | .nationality, [root, setHash] | .residency, [root, setHash] =>
    isBytes32 root && isBytes32 setHash
  | .email, [root] => isBytes32 root
  | .personhood, [root, epoch, appId] => isBytes32 root && isBytes32 epoch && isBytes32 appId
  | _, _ => false

/-! ## Surroundings -/

structure PredicateStatusEvent where
  status : String
  error : Option String
deriving DecidableEq

/-- The endpoints of the verification service.  A job without an id has the empty one; a stream
    of status events ends, or fails with a message. -/
structure PredicateTransport (σ Snapshot : Type) where
  isAttested : AttestQuery → σ → Except String Bool × σ
  snapshot : PredicateKind → σ → Except String Snapshot × σ
  relay : PredicateKind → Bytes → σ → Except String String × σ
  statusEvents : String → σ → (List PredicateStatusEvent × Option String) × σ

/-- The transport with the prover, the signal and the clock. -/
structure Runtime (σ Snapshot : Type) extends PredicateTransport σ Snapshot where
  prove : CircuitCall → Snapshot → σ → Except String Bytes × σ
  aborted : σ → Bool
  today : σ → CalendarDate
  -- a circuit runs only on arguments of its types
  typed : ∀ call snapshot s tx,
    (prove call snapshot s).1 = .ok tx → call.wellTyped = true

inductive Event where
  | asked (query : AttestQuery) (answer : Bool)
  /-- With the state of the signal when the proof returned. -/
  | proved (call : CircuitCall) (tx : Bytes) (aborted : Bool)
  | relayed (kind : PredicateKind) (tx : Bytes)
  | ended (status : String)
deriving DecidableEq

/-! ## The loop -/

def abortError : Stop := .thrown "Presentation aborted by holder"

def isTerminal (ev : PredicateStatusEvent) : Bool :=
  !(["queued", "balancing", "submitting", "submitted"].contains ev.status)

def success : String := "SucceedEntirely"

def failFallible : String := "FailFallible"

def abortBudgetMs : Nat := 5 * 60000

def maxAttestAttempts : Nat := 3

def timedOut (predicate jobId : String) : String :=
  "on-chain attestation for '" ++ predicate ++ "' timed out after " ++ toString abortBudgetMs ++
    "ms (jobId=" ++ jobId ++ ")"

def attestFailed (predicate jobId : String) (ev : PredicateStatusEvent) : String :=
  "on-chain attestation for '" ++ predicate ++ "' failed: status=" ++ ev.status ++ ", jobId=" ++
    jobId ++
    (match truthy ev.error with
      | some text => " (" ++ text ++ ")"
      | none => "") ++
    (if ev.status = failFallible then
      " — contract state moved between proving and inclusion on all 3 attempts"
    else "")

/-- The error of a second insertion of one nullifier. -/
def mentionsReplay (error : Option String) : Bool :=
  decide ("personhood replay".toList <:+: (toLowerCase (error.getD "")).toList)

section

variable {σ Snapshot : Type} (R : Runtime σ Snapshot)

def askAttested (query : AttestQuery) : Traced σ Event Stop Bool := do
  match ← Traced.call (R.isAttested query) with
  | .error message => Traced.stop (.thrown message)
  | .ok answer => do
    Traced.record (.asked query answer)
    return answer

/-- Snapshot and proof; a failure of either skips the predicate. -/
def proveOnce (threshold : Option Nat) (call : CircuitCall) : Traced σ Event Stop Bytes := do
  let failed := fun message =>
    Stop.skipped (.unsatisfiable threshold none ("attestation prep failed: " ++ message))
  match ← Traced.call (R.snapshot call.kind) with
  | .error message => Traced.stop (failed message)
  | .ok snapshot => do
    match ← Traced.call (R.prove call snapshot) with
    | .error message => Traced.stop (failed message)
    | .ok tx => do
      let aborted ← Traced.look R.aborted
      Traced.record (.proved call tx aborted)
      if aborted then Traced.stop abortError else return tx

/-- The relay and the status events of its job, up to a terminal one. -/
def relayOnce (predicate : String) (kind : PredicateKind) (tx : Bytes) :
    Traced σ Event Stop (String × PredicateStatusEvent) := do
  Traced.record (.relayed kind tx)
  match ← Traced.call (R.relay kind tx) with
  | .error message => Traced.stop (.thrown message)
  | .ok jobId => do
    if jobId = "" then Traced.stop (.thrown ("relay for '" ++ predicate ++ "' returned no jobId"))
    else do
      let events ← Traced.call (R.statusEvents jobId)
      let aborted ← Traced.look R.aborted
      match events.1.find? isTerminal, events.2 with
      | none, some message => Traced.stop (.thrown message)
      | terminal, _ => do
        if aborted then
          Traced.stop (.thrown ("presentation aborted by caller (jobId=" ++ jobId ++ ")"))
        else
          match terminal with
          | none => Traced.stop (.thrown (timedOut predicate jobId))
          | some ev => do
            Traced.record (.ended ev.status)
            return (jobId, ev)

/-- A nullifier that was inserted before may have been inserted for this very key. -/
def recheckReplay (query : AttestQuery) (job : String × PredicateStatusEvent) :
    Traced σ Event Stop Bool :=
  if query.predicate = "unique_personhood" ∧ mentionsReplay job.2.error = true then
    askAttested R query
  else pure false

/-- Whether the key is attested although the job did not succeed. -/
def recheck (query : AttestQuery) (job : String × PredicateStatusEvent) :
    Traced σ Event Stop Bool := do
  let replayed ← recheckReplay R query job
  if replayed then return true else askAttested R query

/-- The attempts that are left. -/
def attempts (query : AttestQuery) (call : CircuitCall) : Nat → Traced σ Event Stop EnsureResult
  | 0 => Traced.stop (.thrown "")
  | left + 1 => do
    let tx ← proveOnce R query.threshold call
    let job ← relayOnce R query.predicate call.kind tx
    if job.2.status = success then return ⟨query.predicate, query.threshold, false⟩
    else do
      let settled ← recheck R query job
      if settled then return ⟨query.predicate, query.threshold, true⟩
      else if job.2.status = failFallible ∧ 0 < left then attempts query call left
      else Traced.stop (.thrown (attestFailed query.predicate job.1 job.2))

variable (H : Hashes) (N : Numerals) (doc : CredentialJson)
  (required : Option (List RequiredAttestation))

/-- The body of the loop over the stamped predicates. -/
def ensureOne (sp : OwlAttestationRef) : Traced σ Event Stop EnsureResult := do
  let plan ← Traced.ofExcept (planFor H doc required sp)
  let attested ← askAttested R plan.query
  if attested then return ⟨plan.query.predicate, plan.query.threshold, true⟩
  else do
    let today ← Traced.look R.today
    let call ← Traced.ofExcept (assemble H N doc plan today)
    let aborted ← Traced.look R.aborted
    if aborted then Traced.stop abortError
    else attempts R plan.query call maxAttestAttempts

structure Iteration where
  stamped : OwlAttestationRef
  result : Except Stop EnsureResult
  trace : List Event

/-- The message of an iteration that leaves the loop. -/
def Iteration.thrown (it : Iteration) : Option String :=
  match it.result with
  | .error (.thrown message) => some message
  | _ => none

/-- The rounds of the loop, and the surroundings after them. -/
def iterations : List OwlAttestationRef → σ → List Iteration × σ
  | [], s => ([], s)
  | sp :: rest, s =>
    let round := ensureOne R H N doc required sp s
    let it : Iteration := ⟨sp, round.1, round.2.1⟩
    if it.thrown.isSome then ([it], round.2.2)
    else
      let later := iterations rest round.2.2
      (it :: later.1, later.2)

/-- What the iterations amount to. -/
def returned (its : List Iteration) : Except String (List EnsureResult) :=
  match its.findSome? Iteration.thrown with
  | some message => .error message
  | none => .ok (its.filterMap fun it => it.result.toOption)

/-- Its trace are the iterations. -/
def ensureCredentialPredicatesAttested : Traced σ Iteration String (List EnsureResult) :=
  fun s =>
    let its := iterations R H N doc required doc.predicateAttestations s
    (returned its.1, its)

end

/-- The required names without a result. -/
def unattestedRequiredPredicates (required : Option (List RequiredAttestation))
    (results : List EnsureResult) : List String :=
  ((required.getD []).map RequiredAttestation.predicate).filter fun p =>
    !(results.map EnsureResult.predicate).contains p

end OwlId.Sdk
