import Mathlib
import OwlId.Verification.DcqlSoundness

/-! # Validity dates

An issuer may sign `exp`, `nbf` and `iat` into a credential.  None of the checks on
a presentation reads them or the clock, so a presentation that is accepted once is
accepted at every time, and dates are respected exactly when there are none.
-/

namespace OwlId.Verification

open OwlId.Lib OwlId.ProofSystem

/-! ## Dates -/

/-- The value of a double from its bits. -/
def doubleValue (bits : UInt64) : ℚ :=
  let sign : ℚ := if bits.toNat / 2 ^ 63 = 0 then 1 else -1
  let exponent : Nat := bits.toNat / 2 ^ 52 % 2 ^ 11
  let mantissa : Nat := bits.toNat % 2 ^ 52
  if exponent = 0 then sign * mantissa / 2 ^ 1074
  else sign * (2 ^ 52 + mantissa) * 2 ^ exponent / 2 ^ 1075

def numberValue : Number → ℚ
  | .posInt n => n
  | .negInt n => n
  | .float bits => doubleValue bits

/-- The seconds a date claim denotes; a claim that is not a number is none. -/
def numericDate (payload : Json) (field : String) : Option ℚ :=
  match payload.get field with
  | some (.number n) => some (numberValue n)
  | _ => none

/-- The time is within the signed dates. -/
structure InWindow (payload : Json) (now : Time) : Prop where
  exp : ∀ date, numericDate payload "exp" = some date → now ≤ date
  nbf : ∀ date, numericDate payload "nbf" = some date → date ≤ now
  iat : ∀ date, numericDate payload "iat" = some date → date ≤ now

/-- No date was signed. -/
structure Undated (payload : Json) : Prop where
  exp : numericDate payload "exp" = none
  nbf : numericDate payload "nbf" = none
  iat : numericDate payload "iat" = none

theorem Undated.inWindow {payload : Json} (undated : Undated payload) (now : Time) :
    InWindow payload now := by
  constructor
  · simp [undated.exp]
  · simp [undated.nbf]
  · simp [undated.iat]

/-- Every date excludes some time. -/
theorem undated_of_always {payload : Json} (always : ∀ now, InWindow payload now) :
    Undated payload := by
  constructor
  · cases dated : numericDate payload "exp" with
    | none => rfl
    | some date =>
      have bound := (always (⌊date⌋ + 1)).exp date dated
      push_cast at bound
      exact absurd (Int.lt_floor_add_one date) (not_lt.mpr bound)
  · cases dated : numericDate payload "nbf" with
    | none => rfl
    | some date =>
      have bound := (always (⌈date⌉ - 1)).nbf date dated
      push_cast at bound
      exact absurd (Int.ceil_lt_add_one date) (not_lt.mpr (by linarith))
  · cases dated : numericDate payload "iat" with
    | none => rfl
    | some date =>
      have bound := (always (⌈date⌉ - 1)).iat date dated
      push_cast at bound
      exact absurd (Int.ceil_lt_add_one date) (not_lt.mpr (by linarith))

theorem undated_iff {payload : Json} : Undated payload ↔ ∀ now, InWindow payload now :=
  ⟨fun undated now => undated.inWindow now, undated_of_always⟩

/-! ## Acceptance at a time -/

def World.at (W : World) (now : Time) : World := { W with now := now }

/-- An issuer key signed this payload into the presented credential. -/
def SignedPayload (W : World) (presentation : String) (payload : Json) : Prop :=
  ∃ issuerPk header, JwsValid W.primitives issuerPk (issuerJwt presentation) header payload

def ValidAt (W : World) (mirrors : Mirrors) (challenge : String) (audience : Option String)
    (presentation : String) (now : Time) : Prop :=
  ∃ outcome, Passes (W.at now) mirrors challenge audience presentation outcome

def DcqlValidAt (W : World) (svc : Service) (request : VerifyDcqlRequest) (now : Time) : Prop :=
  ∃ response svc', verifyDcql (W.at now) svc request = (.ok response, svc') ∧
    response.valid = true

/-- The payloads of everything presented. -/
def Presented (W : World) (request : VerifyDcqlRequest) (payload : Json) : Prop :=
  ∃ row ∈ request.vpToken.rows, ∃ presentation ∈ row.2, SignedPayload W presentation payload

/-- No check on a presentation looks at the clock, or at the attested keys. -/
theorem Passes.at_any {W : World} {mirrors : Mirrors} {challenge : String}
    {audience : Option String} {presentation : String} {outcome : PresentationOutcome} {t : Time}
    (passes : Passes (W.at t) mirrors challenge audience presentation outcome) (now : Time)
    (keys : Finset String) :
    Passes (W.at now) ⟨mirrors.revocations, keys⟩ challenge audience presentation outcome := by
  obtain ⟨issuerHex, issuerPk, verified, checked, unrevoked, rfl⟩ := passes_iff.mp passes
  exact passes_iff.mpr ⟨issuerHex, issuerPk, verified, checked,
    ⟨unrevoked.cached, unrevoked.chain, unrevoked.status⟩, rfl⟩

/-! ## Acceptance of a token at another time -/

/-- Whether a predicate has a key does not depend on the month, only which key it is. -/
theorem predicateKey_month {H : Hashes} {month : UtcMonth} {queryId verifierId : String}
    {owlRootHex : Option String} {predicate : OwlPredicate} {key : Bytes32} {kind : String}
    (derived : predicateKey H month queryId owlRootHex verifierId predicate = .ok (key, kind))
    (month' : UtcMonth) :
    ∃ key', predicateKey H month' queryId owlRootHex verifierId predicate = .ok (key', kind) := by
  cases predicate with
  | ageGte threshold =>
    simp only [predicateKey, bind_eq_ok, pure_eq_ok, Prod.mk.injEq] at derived ⊢
    obtain ⟨anchor, found, _, rfl⟩ := derived
    exact ⟨_, anchor, found, rfl, rfl⟩
  | ageRange min max =>
    simp only [predicateKey, bind_eq_ok, pure_eq_ok, Prod.mk.injEq] at derived ⊢
    obtain ⟨anchor, found, _, rfl⟩ := derived
    exact ⟨_, anchor, found, rfl, rfl⟩
  | kycGte threshold => exact ⟨key, derived⟩
  | nationalityIn countries => exact ⟨key, derived⟩
  | residencyIn countries => exact ⟨key, derived⟩
  | emailVerified => exact ⟨key, derived⟩
  | uniquePersonhood epoch appId => exact ⟨key, derived⟩

theorem keyFor_at {W : World} {request : VerifyDcqlRequest} {q : DcqlCredentialQuery}
    {presentation : String} {outcome : PresentationOutcome} {t : Time} {ak : AttestKey}
    (derived : keyFor (W.at t) request q presentation outcome = .ok ak) (now : Time) :
    ∃ ak', keyFor (W.at now) request q presentation outcome = .ok ak' := by
  obtain ⟨format, vct, credId, claims, predicate, key, asked, recipe, hex⟩ :=
    (deriveAttestKey_eq_ok _ _).mp derived
  obtain ⟨key', recipe'⟩ := predicateKey_month recipe (utcMonth now)
  exact ⟨⟨hexEncode key'.toList, ak.kind⟩, (deriveAttestKey_eq_ok _ _).mpr
    ⟨format, vct, credId, claims, predicate, key', asked, recipe', rfl⟩⟩

section

variable {W : World} {request : VerifyDcqlRequest}

theorem EntryMirrored.mono {revocations : RevocationRepository} {keys keys' : Finset String}
    (subset : keys ⊆ keys') {row : String × List String} {now : Time}
    (mirrored : EntryMirrored (W.at now) request ⟨revocations, keys⟩ row) :
    EntryMirrored (W.at now) request ⟨revocations, keys'⟩ row := by
  obtain ⟨presentation, outcome, single, passes, attested⟩ := mirrored
  refine ⟨presentation, outcome, single, passes.at_any now keys', fun q selected => ?_⟩
  obtain ⟨ak, derived, member⟩ := attested q selected
  exact ⟨ak, derived, subset member⟩

/-- A valid entry is valid at any other time, given a mirror with the keys of that time. -/
theorem EntryValid.mirrored_at {t : Time} {mirrors : Mirrors} {row : String × List String}
    (valid : EntryValid (W.at t) request mirrors row) (now : Time) :
    ∃ keys, EntryMirrored (W.at now) request ⟨mirrors.revocations, keys⟩ row := by
  obtain ⟨presentation, single, ⟨outcome, passes⟩, satisfied⟩ := valid
  cases selected : queryById request.query.credentials row.1 with
  | none =>
    exact ⟨∅, presentation, outcome, single, passes.at_any now ∅, by simp [selected]⟩
  | some q =>
    obtain ⟨outcome, ak, passes, derived, _⟩ := satisfied q selected
    obtain ⟨ak', derived'⟩ := keyFor_at derived now
    refine ⟨{ak'.keyHex}, presentation, outcome, single, passes.at_any now _, ?_⟩
    intro q' selected'
    obtain rfl : q = q' := by simpa [selected] using selected'
    exact ⟨ak', derived', Finset.mem_singleton_self _⟩

theorem entries_mirrored_at {t : Time} {mirrors : Mirrors} {rows : List (String × List String)}
    (valid : ∀ row ∈ rows, EntryValid (W.at t) request mirrors row) (now : Time) :
    ∃ keys, ∀ row ∈ rows, EntryMirrored (W.at now) request ⟨mirrors.revocations, keys⟩ row := by
  induction rows with
  | nil => exact ⟨∅, by simp⟩
  | cons first rest ih =>
    obtain ⟨firstKeys, firstMirrored⟩ := (valid first List.mem_cons_self).mirrored_at now
    obtain ⟨restKeys, restMirrored⟩ := ih fun row member =>
      valid row (List.mem_cons_of_mem _ member)
    refine ⟨firstKeys ∪ restKeys, fun row member => ?_⟩
    rcases List.mem_cons.mp member with rfl | later
    · exact firstMirrored.mono Finset.subset_union_left
    · exact (restMirrored row later).mono Finset.subset_union_right

theorem verifyDcql_running {svc svc' : Service} {response : VerifyDcqlResponse}
    (returns : verifyDcql W svc request = (.ok response, svc')) (valid : response.valid = true) :
    W.challengeQuery = .ok () := by
  cases query : W.challengeQuery with
  | ok u => rfl
  | error e =>
    simp only [verifyDcql, query, Prod.mk.injEq, Except.ok.injEq] at returns
    simp [← returns.1, failAll] at valid

/-- A request accepted once is accepted at every time, with a fresh challenge and the
    attestations of that time. -/
theorem dcqlValidAt_any {svc : Service} {t : Time} (accepted : DcqlValidAt W svc request t)
    (now : Time) : ∃ svc', DcqlValidAt W svc' request now := by
  obtain ⟨response, _, returns, valid⟩ := accepted
  obtain ⟨entries, solved⟩ := verifyDcql_valid returns valid
  obtain ⟨keys, mirrored⟩ := entries_mirrored_at entries now
  have running : (W.at t).challengeQuery = .ok () := verifyDcql_running returns valid
  let challenges := svc.challenges.insert ⟨request.challenge, now + 300, false⟩
  let svc' : Service := ⟨⟨svc.mirrors.revocations, keys⟩, challenges, svc.sessions⟩
  have live : (PendingChallenge.mk request.challenge (now + 300) false).isLive now = true := by
    simp [PendingChallenge.isLive]
  have fresh : (svc'.takeChallenge now request.challenge).2 = true := by
    simp [svc', challenges, Service.takeChallenge, Challenges.validateServerChallenge,
      Table.find_insert, live]
  exact ⟨svc', verifyDcql_of_mirrored running fresh mirrored solved⟩

end

/-- Dates are respected exactly when none is signed: for a presentation that some time accepts,
    and for a request that some time accepts. -/
theorem dates_respected_iff_undated (W : World) :
    (∀ mirrors challenge audience presentation payload,
      (∃ t, ValidAt W mirrors challenge audience presentation t) →
      SignedPayload W presentation payload →
      ((∀ now, ValidAt W mirrors challenge audience presentation now → InWindow payload now) ↔
        Undated payload)) ∧
    (∀ request, (∃ svc t, DcqlValidAt W svc request t) →
      ((∀ svc now, DcqlValidAt W svc request now →
          ∀ payload, Presented W request payload → InWindow payload now) ↔
        ∀ payload, Presented W request payload → Undated payload)) := by
  refine ⟨fun mirrors challenge audience presentation payload accepted signed => ?_,
    fun request accepted => ?_⟩
  · obtain ⟨t, valid⟩ := accepted
    rw [undated_iff]
    obtain ⟨outcome, passes⟩ := valid
    exact ⟨fun respected now => respected now ⟨outcome, passes.at_any now _⟩,
      fun always now _ => always now⟩
  · obtain ⟨svc, t, valid⟩ := accepted
    constructor
    · intro respected payload presented
      refine undated_of_always fun now => ?_
      obtain ⟨svc', validNow⟩ := dcqlValidAt_any valid now
      exact respected svc' now validNow payload presented
    · intro undated svc now _ payload presented
      exact (undated payload presented).inWindow now

/-! ## An expired credential -/

theorem sample_exp {jwk : Json} {sd : List String} {owlRoot : Bytes32} :
    numericDate (issuePayload sampleIssue jwk sd owlRoot) "exp" = some 1800000000 := by
  simp [numericDate, issuePayload, sampleIssue, Json.get_ofFields,
    Json.ofInt, numberValue]

/-- The sample credential expires in January 2027. -/
theorem sample_signed (now : Time) :
    ∃ payload, SignedPayload (sampleWorld now) samplePresentation payload ∧
      numericDate payload "exp" = some 1800000000 := by
  obtain ⟨_, _, _, _, _, _, _, accepted, _⟩ := sample_accepted
  exact ⟨_, ⟨_, _, accepted.issuerJwt_eq ▸ accepted.signed⟩, sample_exp⟩

theorem sample_validAt (t now : Time) :
    ValidAt (sampleWorld t) (sampleMirrors ∅) sampleKb.nonce (some sampleKb.aud)
      samplePresentation now := by
  obtain ⟨_, verified, _, checked, status, _⟩ := sample_checked now
  exact ⟨_, passes_iff.mpr ⟨_, _, verified, checked, sample_unrevoked now ∅ status _, rfl⟩⟩

def sampleRequest : VerifyDcqlRequest := shapeRequest ["identity"] none ["identity"]

theorem sample_dcqlValidAt (t now : Time) :
    DcqlValidAt (sampleWorld t) (shapeService now) sampleRequest now :=
  shape_valid now (fun _ => List.Subset.refl _) (by simp [requiredSets])

theorem sample_presented {t : Time} {payload : Json}
    (signed : SignedPayload (sampleWorld t) samplePresentation payload) :
    Presented (sampleWorld t) sampleRequest payload :=
  ⟨("identity", [samplePresentation]), List.mem_singleton.mpr rfl, samplePresentation,
    List.mem_singleton.mpr rfl, signed⟩

/-- Accepted in March 2030, by either entry point. -/
theorem expired_credential_accepted :
    ∃ payload, SignedPayload (sampleWorld 1900000000) samplePresentation payload ∧
      numericDate payload "exp" = some 1800000000 ∧ ¬ InWindow payload 1900000000 ∧
      ValidAt (sampleWorld 1900000000) (sampleMirrors ∅) sampleKb.nonce (some sampleKb.aud)
        samplePresentation 1900000000 ∧
      DcqlValidAt (sampleWorld 1900000000) (shapeService 1900000000) sampleRequest 1900000000 := by
  obtain ⟨payload, signed, exp⟩ := sample_signed 1900000000
  refine ⟨payload, signed, exp, fun inside => ?_, sample_validAt _ _, sample_dcqlValidAt _ _⟩
  have bound := inside.exp _ exp
  norm_num at bound

theorem dates_respected_iff_undated_at_sample :
    ∃ payload, SignedPayload (sampleWorld 1750000000) samplePresentation payload ∧
      (¬ ∀ now, ValidAt (sampleWorld 1750000000) (sampleMirrors ∅) sampleKb.nonce
        (some sampleKb.aud) samplePresentation now → InWindow payload now) ∧
      ¬ ∀ svc now, DcqlValidAt (sampleWorld 1750000000) svc sampleRequest now →
        ∀ payload, Presented (sampleWorld 1750000000) sampleRequest payload →
          InWindow payload now := by
  obtain ⟨payload, signed, exp⟩ := sample_signed 1750000000
  have dated : ¬ Undated payload := fun undated => by simp [undated.exp] at exp
  obtain ⟨one, all⟩ := dates_respected_iff_undated (sampleWorld 1750000000)
  refine ⟨payload, signed, ?_, ?_⟩
  · rw [one _ _ _ _ payload ⟨1750000000, sample_validAt _ _⟩ signed]
    exact dated
  · rw [all sampleRequest ⟨_, _, sample_dcqlValidAt 1750000000 1750000000⟩]
    exact fun undated => dated (undated payload (sample_presented signed))

end OwlId.Verification
