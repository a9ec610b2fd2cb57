import Mathlib
import OwlId.Verification.KeyDerivation
import OwlId.Verification.DcqlSoundness

/-! # The predicate check endpoint

`POST /predicates/attested` lets a wallet ask whether a predicate is already
attested before it presents.  It derives the key a second time, from a flat request
and with guards of its own; the main result says on which requests the two
derivations agree.
-/

namespace OwlId.Verification

open OwlId.Lib OwlId.ProofSystem

/-! ## The endpoint -/

structure CheckPredicateRequest where
  credentialId : String
  owlRoot : Option String
  predicate : String
  threshold : Option UInt64
  minAge : Option UInt16
  maxAge : Option UInt16
  epoch : Option String
  appId : Option String
  countries : Option (List String)
  verifierId : Option String

structure CheckPredicateResponse where
  predicate : String
  attestKey : String
  attested : Bool

def predicateSidecarKind : String → Option String
  | "age" => some "age"
  | "kyc" => some "kyc"
  | "nationality" => some "nationality"
  | "residency" => some "residency"
  | "age_range" => some "age_range"
  | "email_verified" => some "email"
  | "unique_personhood" => some "personhood"
  | _ => none

def decodeLabelled (label hex : String) : Except ApiError Bytes32 := do
  let vec ← okOr (hexDecode (trimStart0x hex)) (.invalidInput (label ++ " not hex"))
  okOr (tryInto32 vec) (.invalidInput (label ++ " must be 32 bytes"))

def requireField {α : Type} (value : Option α) (field predicate : String) : Except ApiError α :=
  okOr value (.invalidInput (field ++ " required for " ++ predicate))

def requireVerifier (req : CheckPredicateRequest) (predicate purpose : String) :
    Except ApiError String :=
  okOr (req.verifierId.filter (· ≠ ""))
    (.invalidInput ("verifierId required for " ++ predicate ++ " (" ++ purpose ++ ")"))

/-- The body the two country branches share. -/
def countryKey (keyOf : Bytes32 → String → List String → Bytes32) (predicate : String)
    (req : CheckPredicateRequest) (owlAnchor : Bytes32) : Except ApiError Bytes32 := do
  let codes ← requireField req.countries "countries" predicate
  ensure (¬ (codes = [] ∨ countrySetSlots < codes.length))
    (.invalidInput ("countries must be 1..=" ++ toString countrySetSlots ++
      " ISO-3166 alpha-2 codes"))
  let verifierId ← requireVerifier req predicate "per-verifier salt for setHash"
  return keyOf owlAnchor verifierId codes

section

variable (H : Hashes) (now : UtcMonth)

/-- The key of a request, with the errors its fields can cause. -/
def checkPredicateKey (req : CheckPredicateRequest) : Except ApiError Bytes32 := do
  let credVec ← okOr (hexDecode (trimStart0x req.credentialId))
    (.invalidInput "credential_id not hex")
  -- only the shape of the id is checked: every key anchors on owl_root
  let _ ← okOr (tryInto32 credVec) (.invalidInput "credential_id must be 32 bytes")
  let owlRoot ← okOr req.owlRoot (.invalidInput "owl_root required (predicate keys bind it)")
  let owlAnchor ← decodeLabelled "owl_root" owlRoot
  match req.predicate with
  | "age" => do
    let threshold ← requireField req.threshold "threshold" "age"
    return ageKey H owlAnchor threshold.toNat (currentAgeEpoch now)
  | "kyc" => do
    let threshold ← requireField req.threshold "threshold" "kyc"
    return kycKey H owlAnchor threshold.toNat
  | "nationality" => countryKey (nationalityKey H) "nationality" req owlAnchor
  | "residency" => countryKey (residencyKey H) "residency" req owlAnchor
  | "age_range" => do
    let minAge ← requireField req.minAge "min_age" "age_range"
    let maxAge ← requireField req.maxAge "max_age" "age_range"
    return ageRangeKey H owlAnchor minAge.toNat maxAge.toNat (currentAgeEpoch now)
  | "email_verified" => return emailVerifiedKey H owlAnchor
  | "unique_personhood" => do
    let epochHex ← requireField req.epoch "epoch" "unique_personhood"
    let epoch ← decodeLabelled "epoch" epochHex
    let appIdHex ← requireField req.appId "app_id" "unique_personhood"
    let campaign ← decodeLabelled "app_id" appIdHex
    let verifierId ← requireVerifier req "unique_personhood"
      "binds the campaign scope to the verifier identity"
    return uniquePersonhoodKey H owlAnchor epoch (personhoodAppId H verifierId campaign)
  | other => .error (.invalidInput ("unknown predicate: " ++ other))

end

def checkPredicateAttested (W : World) (attestations : Finset String) (req : CheckPredicateRequest) :
    Except ApiError CheckPredicateResponse × Finset String :=
  match checkPredicateKey W.hashes (utcMonth W.now) req with
  | .error e => (.error e, attestations)
  | .ok key =>
    let keyHex := hexEncode key.toList
    -- the mirror first, the chain on a miss
    let (attested, attestations) :=
      if keyHex ∈ attestations then (true, attestations)
      else match predicateSidecarKind req.predicate with
        | some kind => attestationOnChain W attestations kind keyHex
        | none => (false, attestations)
    (.ok ⟨req.predicate, keyHex, attested⟩, attestations)

/-! ## Requests that express a predicate -/

/-- The request asks for the predicate; fields the predicate does not use are free. -/
def Expresses (req : CheckPredicateRequest) : OwlPredicate → Prop
  | .ageGte threshold => req.predicate = "age" ∧ req.threshold = some threshold
  | .ageRange min max => req.predicate = "age_range" ∧
      req.minAge.map UInt16.toUInt32 = some min ∧ req.maxAge.map UInt16.toUInt32 = some max
  | .kycGte threshold => req.predicate = "kyc" ∧ req.threshold = some threshold
  | .nationalityIn countries => req.predicate = "nationality" ∧ req.countries = some countries
  | .residencyIn countries => req.predicate = "residency" ∧ req.countries = some countries
  | .emailVerified => req.predicate = "email_verified"
  | .uniquePersonhood epoch appId => req.predicate = "unique_personhood" ∧
      req.epoch = some epoch ∧ req.appId = some appId

/-- The guard on country lists that only the endpoint has. -/
def OwlPredicate.Listed : OwlPredicate → Prop
  | .nationalityIn countries | .residencyIn countries =>
    ¬ (countries = [] ∨ countrySetSlots < countries.length)
  | _ => True

@[simp] theorem decodeLabelled_eq_ok {label hex : String} {bytes : Bytes32} :
    decodeLabelled label hex = .ok bytes ↔ decodeHex32 hex = .ok bytes := by
  simp [decodeLabelled, decodeHex32]

theorem owlRootAnchor_eq_some {owlRoot : Option String} {anchor : Bytes32} :
    owlRootAnchor owlRoot = some anchor ↔ ∃ hex, owlRoot = some hex ∧ decodeHex32 hex = .ok anchor := by
  cases owlRoot with
  | none => simp [owlRootAnchor]
  | some hex => simp [owlRootAnchor, decodeHex32, Option.bind_eq_some_iff]

theorem requireVerifier_eq_ok {req : CheckPredicateRequest} {predicate purpose verifierId : String} :
    requireVerifier req predicate purpose = .ok verifierId ↔
      req.verifierId.getD "" = verifierId ∧ verifierId ≠ "" := by
  cases named : req.verifierId with
  | none =>
    simp only [requireVerifier, named, okOr_eq_ok, Option.filter_none, Option.getD_none]
    constructor
    · intro absent
      cases absent
    · rintro ⟨empty, nonempty⟩
      exact absurd empty.symm nonempty
  | some text =>
    simp [requireVerifier, named, Option.filter_eq_some_iff]

theorem countryKey_eq_ok {keyOf : Bytes32 → String → List String → Bytes32} {predicate : String}
    {req : CheckPredicateRequest} {owlAnchor key : Bytes32} {countries : List String}
    (listed : req.countries = some countries) :
    countryKey keyOf predicate req owlAnchor = .ok key ↔
      ¬ (countries = [] ∨ countrySetSlots < countries.length) ∧ req.verifierId.getD "" ≠ "" ∧
        keyOf owlAnchor (req.verifierId.getD "") countries = key := by
  simp only [countryKey, requireField, listed, bind_eq_ok, okOr_eq_ok, ensure_eq_ok, pure_eq_ok,
    requireVerifier_eq_ok, exists_const, Option.some.injEq]
  constructor
  · rintro ⟨codes, same, sized, verifierId, ⟨given, named⟩, hkey⟩
    subst same given
    exact ⟨sized, named, hkey⟩
  · rintro ⟨sized, named, hkey⟩
    exact ⟨countries, rfl, sized, _, ⟨rfl, named⟩, hkey⟩

/-- When the endpoint derives a key, and which. -/
theorem checkPredicateKey_eq_ok {H : Hashes} {now : UtcMonth} {req : CheckPredicateRequest}
    {predicate : OwlPredicate} {key : Bytes32} (expressed : Expresses req predicate) :
    checkPredicateKey H now req = .ok key ↔
      (∃ credId, hexDecode (trimStart0x req.credentialId) = some (Vector.toList (n := 32) credId)) ∧
      predicate.Listed ∧ (predicate.verifierBound = true → req.verifierId.getD "" ≠ "") ∧
      ∃ anchor, owlRootAnchor req.owlRoot = some anchor ∧
        predicate.recipe H now (req.verifierId.getD "") anchor = some key := by
  have shared : ∀ branch : Bytes32 → Except ApiError Bytes32,
      (checkPredicateKey H now req = do
        let credVec ← okOr (hexDecode (trimStart0x req.credentialId))
          (.invalidInput "credential_id not hex")
        let _ ← okOr (tryInto32 credVec) (.invalidInput "credential_id must be 32 bytes")
        let owlRoot ← okOr req.owlRoot (.invalidInput "owl_root required (predicate keys bind it)")
        let owlAnchor ← decodeLabelled "owl_root" owlRoot
        branch owlAnchor) →
      (checkPredicateKey H now req = .ok key ↔
        (∃ credId, hexDecode (trimStart0x req.credentialId) =
          some (Vector.toList (n := 32) credId)) ∧
        ∃ anchor, owlRootAnchor req.owlRoot = some anchor ∧ branch anchor = .ok key) := by
    intro branch unfolded
    rw [unfolded]
    simp only [bind_eq_ok, okOr_eq_ok, tryInto32_eq_some, decodeLabelled_eq_ok,
      owlRootAnchor_eq_some]
    constructor
    · rintro ⟨_, hex, credId, same, owlRoot, given, anchor, decoded, last⟩
      subst same
      exact ⟨⟨credId, hex⟩, anchor, ⟨owlRoot, given, decoded⟩, last⟩
    · rintro ⟨⟨credId, hex⟩, anchor, ⟨owlRoot, given, decoded⟩, last⟩
      exact ⟨_, hex, credId, rfl, owlRoot, given, anchor, decoded, last⟩
  cases predicate with
  | ageGte threshold =>
    obtain ⟨name, given⟩ := expressed
    rw [shared (fun owlAnchor => .ok (ageKey H owlAnchor threshold.toNat (currentAgeEpoch now)))
      (by simp only [checkPredicateKey, name, given, requireField]; rfl)]
    simp [OwlPredicate.Listed, OwlPredicate.verifierBound, OwlPredicate.recipe]
  | ageRange min max =>
    obtain ⟨name, hmin, hmax⟩ := expressed
    obtain ⟨lo, hlo, rfl⟩ := Option.map_eq_some_iff.mp hmin
    obtain ⟨hi, hhi, rfl⟩ := Option.map_eq_some_iff.mp hmax
    have narrow (n : UInt16) : n.toUInt32.toNat % 2 ^ 16 = n.toNat := by
      have bound := n.toNat_lt
      rw [UInt16.toNat_toUInt32]
      omega
    rw [shared (fun owlAnchor => .ok (ageRangeKey H owlAnchor lo.toNat hi.toNat (currentAgeEpoch now)))
      (by simp only [checkPredicateKey, name, hlo, hhi, requireField]; rfl)]
    simp only [OwlPredicate.Listed, OwlPredicate.verifierBound, OwlPredicate.recipe, narrow,
      Except.ok.injEq, Option.some.injEq, Bool.false_eq_true, false_implies, true_and]
  | kycGte threshold =>
    obtain ⟨name, given⟩ := expressed
    rw [shared (fun owlAnchor => .ok (kycKey H owlAnchor threshold.toNat))
      (by simp only [checkPredicateKey, name, given, requireField]; rfl)]
    simp [OwlPredicate.Listed, OwlPredicate.verifierBound, OwlPredicate.recipe]
  | nationalityIn countries =>
    obtain ⟨name, given⟩ := expressed
    rw [shared (countryKey (nationalityKey H) "nationality" req)
      (by simp only [checkPredicateKey, name])]
    simp only [countryKey_eq_ok given, OwlPredicate.Listed, OwlPredicate.verifierBound,
      OwlPredicate.recipe, Option.some.injEq, forall_const]
    constructor
    · rintro ⟨credId, anchor, root, sized, named, hkey⟩
      exact ⟨credId, sized, named, anchor, root, hkey⟩
    · rintro ⟨credId, sized, named, anchor, root, hkey⟩
      exact ⟨credId, anchor, root, sized, named, hkey⟩
  | residencyIn countries =>
    obtain ⟨name, given⟩ := expressed
    rw [shared (countryKey (residencyKey H) "residency" req)
      (by simp only [checkPredicateKey, name])]
    simp only [countryKey_eq_ok given, OwlPredicate.Listed, OwlPredicate.verifierBound,
      OwlPredicate.recipe, Option.some.injEq, forall_const]
    constructor
    · rintro ⟨credId, anchor, root, sized, named, hkey⟩
      exact ⟨credId, sized, named, anchor, root, hkey⟩
    · rintro ⟨credId, sized, named, anchor, root, hkey⟩
      exact ⟨credId, anchor, root, sized, named, hkey⟩
  | emailVerified =>
    have name : req.predicate = "email_verified" := expressed
    rw [shared (fun owlAnchor => .ok (emailVerifiedKey H owlAnchor))
      (by simp only [checkPredicateKey, name]; rfl)]
    simp [OwlPredicate.Listed, OwlPredicate.verifierBound, OwlPredicate.recipe]
  | uniquePersonhood epoch appId =>
    obtain ⟨name, hepoch, happ⟩ := expressed
    rw [shared (fun owlAnchor => do
        let epoch ← decodeLabelled "epoch" epoch
        let campaign ← decodeLabelled "app_id" appId
        let verifierId ← requireVerifier req "unique_personhood"
          "binds the campaign scope to the verifier identity"
        return uniquePersonhoodKey H owlAnchor epoch (personhoodAppId H verifierId campaign))
      (by simp only [checkPredicateKey, name, hepoch, happ, requireField]; rfl)]
    simp only [bind_eq_ok, decodeLabelled_eq_ok, requireVerifier_eq_ok, pure_eq_ok,
      OwlPredicate.Listed, OwlPredicate.verifierBound, OwlPredicate.recipe, Option.bind_eq_bind,
      Option.bind_eq_some_iff, toOption_eq_some, Option.pure_def, Option.some.injEq, forall_const,
      true_and]
    constructor
    · rintro ⟨credId, anchor, root, e, he, a, ha, verifierId, ⟨given, named⟩, hkey⟩
      subst given
      exact ⟨credId, named, anchor, root, e, he, a, ha, hkey⟩
    · rintro ⟨credId, named, anchor, root, e, he, a, ha, hkey⟩
      exact ⟨credId, anchor, root, e, he, a, ha, _, ⟨rfl, named⟩, hkey⟩

/-! ## Agreement -/

/-- Both derivations reject, or both accept and the endpoint answers with the lookup the
    query path makes. -/
def Agree (W : World) (attestations : Finset String) (query : DcqlCredentialQuery) (vct : String)
    (req : CheckPredicateRequest) : Prop :=
  let derived := deriveAttestKey W.hashes (utcMonth W.now) query vct req.credentialId req.owlRoot
    (req.verifierId.getD "")
  ((∃ message, derived = .error message) ∧
    ∃ e, (checkPredicateAttested W attestations req).1 = .error e) ∨
  ∃ ak, derived = .ok ak ∧ checkPredicateAttested W attestations req =
    (.ok ⟨req.predicate, ak.keyHex, (isAttested W attestations ak).1⟩,
      (isAttested W attestations ak).2)

theorem sidecarKind_of_expresses {req : CheckPredicateRequest} {predicate : OwlPredicate}
    (expressed : Expresses req predicate) :
    predicateSidecarKind req.predicate = some predicate.kind := by
  cases predicate with
  | emailVerified => rw [show req.predicate = "email_verified" from expressed]; rfl
  | _ => rw [expressed.1]; rfl

/-- A key the endpoint derives is looked up the way the query path looks it up. -/
theorem checkPredicateAttested_of_key {W : World} {attestations : Finset String}
    {req : CheckPredicateRequest} {predicate : OwlPredicate} {key : Bytes32}
    (expressed : Expresses req predicate)
    (derived : checkPredicateKey W.hashes (utcMonth W.now) req = .ok key) :
    checkPredicateAttested W attestations req =
      (.ok ⟨req.predicate, hexEncode key.toList,
          (isAttested W attestations ⟨hexEncode key.toList, predicate.kind⟩).1⟩,
        (isAttested W attestations ⟨hexEncode key.toList, predicate.kind⟩).2) := by
  simp only [checkPredicateAttested, derived, sidecarKind_of_expresses expressed, isAttested]

theorem checkPredicateAttested_error {W : World} {attestations : Finset String}
    {req : CheckPredicateRequest} :
    (∃ e, (checkPredicateAttested W attestations req).1 = .error e) ↔
      ∀ key, checkPredicateKey W.hashes (utcMonth W.now) req ≠ .ok key := by
  cases derived : checkPredicateKey W.hashes (utcMonth W.now) req with
  | error e => simp [checkPredicateAttested, derived]
  | ok key => simp [checkPredicateAttested, derived]

/-- When the query path derives a key, for a query that constrains only the predicate. -/
theorem deriveAttestKey_iff {H : Hashes} {now : UtcMonth} {query : DcqlCredentialQuery}
    {vct credIdHex verifierId : String} {owlRootHex : Option String} {predicate : OwlPredicate}
    {ak : AttestKey} (asks : query.owlPredicate = some predicate)
    (format : query.format = "dc+sd-jwt") (typed : vctAllowed query vct = true)
    (noClaims : query.claims = []) :
    deriveAttestKey H now query vct credIdHex owlRootHex verifierId = .ok ak ↔
      (∃ credId, hexDecode (trimStart0x credIdHex) = some (Vector.toList (n := 32) credId)) ∧
      (predicate.verifierBound = true → verifierId ≠ "") ∧
      ∃ anchor key, owlRootAnchor owlRootHex = some anchor ∧
        predicate.recipe H now verifierId anchor = some key ∧
        ak = ⟨hexEncode key.toList, predicate.kind⟩ := by
  rw [deriveAttestKey_eq_ok]
  constructor
  · intro ⟨_, _, credId, _, asked, key, asks', derived, hex⟩
    obtain rfl := Option.some.inj (asks.symm.trans asks')
    obtain ⟨named, ⟨anchor, root, recipe⟩, kind⟩ := predicateKey_eq_ok.mp derived
    refine ⟨credId, named, anchor, key, root, recipe, ?_⟩
    cases ak
    simp_all
  · intro ⟨credId, named, anchor, key, root, recipe, same⟩
    subst same
    exact ⟨format, typed, credId, noClaims, predicate, key, asks,
      predicateKey_eq_ok.mpr ⟨named, ⟨anchor, root, recipe⟩, rfl⟩, rfl⟩

theorem exists_recipe_of_unlisted {H : Hashes} {now : UtcMonth} {verifierId : String}
    {anchor : Bytes32} {predicate : OwlPredicate} (unlisted : ¬ predicate.Listed) :
    ∃ key, predicate.recipe H now verifierId anchor = some key := by
  cases predicate with
  | nationalityIn countries | residencyIn countries => exact ⟨_, rfl⟩
  | _ => exact absurd trivial unlisted

/-- A list the endpoint refuses strands the holder: only the query path accepts it. -/
theorem not_agree_of_unlisted {W : World} {attestations : Finset String}
    {query : DcqlCredentialQuery} {vct : String} {req : CheckPredicateRequest}
    {predicate : OwlPredicate} (asks : query.owlPredicate = some predicate)
    (format : query.format = "dc+sd-jwt") (typed : vctAllowed query vct = true)
    (noClaims : query.claims = []) (expressed : Expresses req predicate)
    (unlisted : ¬ predicate.Listed) (named : req.verifierId.getD "" ≠ "") {anchor : Bytes32}
    (root : owlRootAnchor req.owlRoot = some anchor)
    (credId : ∃ credId, hexDecode (trimStart0x req.credentialId) =
      some (Vector.toList (n := 32) credId)) : ¬ Agree W attestations query vct req := by
  intro agree
  obtain ⟨key, recipe⟩ :=
    @exists_recipe_of_unlisted W.hashes (utcMonth W.now) (req.verifierId.getD "") anchor _ unlisted
  have accepted := (deriveAttestKey_iff (H := W.hashes) asks format typed noClaims).mpr
    ⟨credId, fun _ => named, anchor, key, root, recipe, rfl⟩
  have refused : ∃ e, (checkPredicateAttested W attestations req).1 = .error e :=
    checkPredicateAttested_error.mpr fun key derived =>
      unlisted ((checkPredicateKey_eq_ok expressed).mp derived).2.1
  obtain ⟨e, refused⟩ := refused
  cases agree with
  | inl rejects =>
    obtain ⟨⟨message, failed⟩, _⟩ := rejects
    rw [accepted] at failed
    cases failed
  | inr accepts =>
    obtain ⟨ak, _, answered⟩ := accepts
    rw [answered] at refused
    cases refused

/-- The two derivations agree unless a well-formed request carries an empty or oversized
    country list. -/
theorem key_derivations_agree_iff (W : World) (attestations : Finset String)
    (query : DcqlCredentialQuery) (vct : String) (req : CheckPredicateRequest)
    (predicate : OwlPredicate) (asks : query.owlPredicate = some predicate)
    (format : query.format = "dc+sd-jwt") (typed : vctAllowed query vct = true)
    (noClaims : query.claims = []) (expressed : Expresses req predicate) :
    Agree W attestations query vct req ↔
      (predicate.Listed ∨ req.verifierId.getD "" = "" ∨ owlRootAnchor req.owlRoot = none ∨
        ¬ ∃ credId, hexDecode (trimStart0x req.credentialId) =
          some (Vector.toList (n := 32) credId)) := by
  constructor
  · intro agree
    by_contra stranded
    simp only [not_or, not_not] at stranded
    obtain ⟨unlisted, named, root, credId⟩ := stranded
    obtain ⟨anchor, root⟩ := Option.ne_none_iff_exists'.mp root
    exact not_agree_of_unlisted asks format typed noClaims expressed unlisted named root credId agree
  · intro holds
    cases derived : deriveAttestKey W.hashes (utcMonth W.now) query vct req.credentialId req.owlRoot
        (req.verifierId.getD "") with
    | ok ak =>
      obtain ⟨credId, named, anchor, key, root, recipe, rfl⟩ :=
        (deriveAttestKey_iff asks format typed noClaims).mp derived
      have listed : predicate.Listed := by
        by_contra unlisted
        have bound : predicate.verifierBound = true := by
          cases predicate with
          | nationalityIn countries | residencyIn countries => rfl
          | _ => exact absurd trivial unlisted
        have excuse := holds.resolve_left unlisted
        simp [named bound, root, credId] at excuse
      have checked : checkPredicateKey W.hashes (utcMonth W.now) req = .ok key :=
        (checkPredicateKey_eq_ok expressed).mpr ⟨credId, listed, named, anchor, root, recipe⟩
      exact .inr ⟨_, derived, checkPredicateAttested_of_key expressed checked⟩
    | error message =>
      refine .inl ⟨⟨message, derived⟩, checkPredicateAttested_error.mpr ?_⟩
      intro key checked
      obtain ⟨credId, _, named, anchor, root, recipe⟩ := (checkPredicateKey_eq_ok expressed).mp checked
      have accepted := (deriveAttestKey_iff (H := W.hashes) asks format typed noClaims).mpr
        ⟨credId, named, anchor, key, root, recipe, rfl⟩
      rw [derived] at accepted
      cases accepted

/-! ### Requests for a nationality -/

def nationalityRequest (countries : List String) : CheckPredicateRequest where
  credentialId := hexEncode zero32.toList
  owlRoot := some (hexEncode zero32.toList)
  predicate := "nationality"
  threshold := none
  minAge := none
  maxAge := none
  epoch := none
  appId := none
  countries := some countries
  verifierId := some "verifier"

/-- The query path accepts an empty list of countries, the endpoint refuses it. -/
theorem empty_countries_disagree :
    ¬ Agree (sampleWorld 1800000000) ∅ (bareQuery (.nationalityIn [])) "" (nationalityRequest []) :=
  not_agree_of_unlisted rfl rfl rfl rfl ⟨rfl, rfl⟩ (by simp [OwlPredicate.Listed]) (by decide)
    (owlRootAnchor_hexEncode zero32) ⟨zero32, by simp [nationalityRequest]⟩

theorem key_derivations_agree_at_sample :
    Agree (sampleWorld 1800000000) ∅ (bareQuery (.nationalityIn ["DE"])) ""
      (nationalityRequest ["DE"]) :=
  (key_derivations_agree_iff (sampleWorld 1800000000) ∅ _ "" _ (.nationalityIn ["DE"]) rfl rfl rfl
    rfl ⟨rfl, rfl⟩).mpr (.inl (by simp [OwlPredicate.Listed, countrySetSlots, merkleDepth]))

end OwlId.Verification
