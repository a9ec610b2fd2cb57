import Mathlib
import OwlId.Sdk.OrchestratorRuns

/-! # What the orchestrator ensures

A required entry names the parameters of an attestation (`AttestTuple`).  The orchestrator
looks entries up by the predicate's name, in several places, so what it asks for and what it
proves can belong to different entries.  Where entries of one name have one tuple this cannot
happen: a result rests on an attestation of the tuple the service was asked about, and every
required entry is ensured or reported as missing.
-/

namespace OwlId.Sdk

open OwlId.Lib OwlId.ProofSystem OwlId.Contracts Traced

/-! ## Plans and calls -/

theorem families_names {predicate : String} {spec : FamilySpec}
    (row : families predicate = some spec) :
    predicate = "age" ∨ predicate = "age_range" ∨ predicate = "kyc" ∨ predicate = "email_verified" ∨
      (predicate = "nationality" ∨ predicate = "residency") ∨ predicate = "unique_personhood" := by
  unfold families at row
  split at row <;> simp_all

section

variable {H : Hashes} {N : Numerals} {doc : CredentialJson}
  {required : Option (List RequiredAttestation)} {sp : OwlAttestationRef} {plan : Plan}

/-- What a plan was made from. -/
structure PlanOf (H : Hashes) (doc : CredentialJson) (required : Option (List RequiredAttestation))
    (sp : OwlAttestationRef) (plan : Plan) : Prop where
  asked : isRequired required sp = true
  family : families sp.predicate = some plan.spec
  held : (doc.attributes.lookup plan.spec.attributeName).isSome = true
  inScope : scopeFor H required sp plan.spec = .ok plan.scope
  placed : countrySetFor H required sp = .ok plan.countrySet
  rooted : doc.owlRoot = some plan.query.owlRoot
  bounded : ∃ bounds, boundsFor required sp plan.spec = .ok bounds ∧
    plan.query = queryFor required sp plan.scope bounds plan.countrySet plan.query.owlRoot

theorem planOf_of_planFor (planned : planFor H doc required sp = .ok plan) :
    PlanOf H doc required sp plan := by
  simp only [planFor, bind_eq_ok, ensure_eq_ok, okOr_eq_ok, pure_eq_ok, exists_const] at planned
  obtain ⟨asked, spec, family, held, scope, inScope, bounds, bounded, set, placed, owlRoot, rooted,
    rfl⟩ := planned
  exact ⟨asked, family, held, inScope, placed, rooted, bounds, bounded, rfl⟩

/-- What a call was assembled from. -/
structure CallOf (H : Hashes) (N : Numerals) (doc : CredentialJson) (plan : Plan)
    (today : CalendarDate) (call : CircuitCall) : Prop where
  kind : call.kind = plan.spec.kind
  circuitId : call.circuitId = plan.spec.circuitId
  args : circuitArgs plan today = .ok call.args
  value : witnessValue N plan.spec.kind
    ((doc.attributes.lookup plan.spec.attributeName).getD .null) = .ok call.witness.value
  bound : claimBinding H doc.claimDisclosures plan.spec.kind =
    .ok (call.witness.claimSalt, call.witness.claimPath)
  listed : call.witness.countrySet =
    plan.countrySet.map fun set => (set.countries, set.verifierIdHash)
  reaches : fallsShort plan.query.threshold
    (numericWitnessValue today call.witness.value) = none

theorem callOf_of_assemble {today : CalendarDate} {call : CircuitCall}
    (assembled : assemble H N doc plan today = .ok call) :
    CallOf H N doc plan today call := by
  simp only [assemble, bind_eq_ok, mapErr_eq_ok] at assembled
  obtain ⟨value, witness, binding, bound, rest⟩ := assembled
  split at rest
  · cases rest
  · rename_i reaches
    simp only [bind_eq_ok, pure_eq_ok] at rest
    obtain ⟨args, made, rfl⟩ := rest
    exact ⟨rfl, rfl, made, witness, bound, rfl, reaches⟩

end

/-! ## Tuples -/

/-- What an attestation is of, apart from the root it is bound to. -/
inductive AttestTuple where
  | age (threshold : Nat)
  | ageRange (minAge maxAge : Nat)
  | kyc (threshold : Nat)
  | residency (countries : List String) (verifierId : String)
  | emailVerified
  | nationality (countries : List String) (verifierId : String)
  | uniquePersonhood (epoch appId verifierId : String)
deriving DecidableEq

/-- The tuple of the fields as they are; none where one is missing that the predicate needs. -/
def RequiredAttestation.named (r : RequiredAttestation) : Option AttestTuple :=
  match r.predicate with
  | "age" => r.threshold.map .age
  | "age_range" => do return .ageRange (← r.minAge) (← r.maxAge)
  | "kyc" => r.threshold.map .kyc
  | "residency" => do return .residency (← r.countries) (← truthy r.verifierId)
  | "email_verified" => some .emailVerified
  | "nationality" => do return .nationality (← r.countries) (← truthy r.verifierId)
  | "unique_personhood" => do
    return .uniquePersonhood (← truthy r.epoch) (← truthy r.appId) (← truthy r.verifierId)
  | _ => none

/-- An entry names a set of countries by any list of its codes. -/
def RequiredAttestation.tuple (r : RequiredAttestation) : Option AttestTuple :=
  ({ r with countries := r.countries.map canonicaliseCountries }).named

/-- What the service is asked about. -/
def AttestQuery.tuple (q : AttestQuery) : Option AttestTuple :=
  RequiredAttestation.named
    { predicate := q.predicate, threshold := q.threshold, minAge := q.minAge, maxAge := q.maxAge,
      epoch := q.epoch, appId := q.appId, countries := q.countries, verifierId := q.verifierId }

/-- The call is of the tuple's circuit with the tuple's public arguments, in some month. -/
def RecordedBy (H : Hashes) (owlRoot : String) (call : CircuitCall) : AttestTuple → Prop
  | .age threshold => call.kind = .age ∧ ∃ today : CalendarDate, call.args =
      [.bytes (hexToBytes owlRoot), .bigint threshold,
        .bigint (currentAgeEpoch ⟨today.year, today.month⟩)]
  | .ageRange minAge maxAge => call.kind = .ageRange ∧ ∃ today : CalendarDate, call.args =
      [.bytes (hexToBytes owlRoot), .bigint minAge, .bigint maxAge,
        .bigint (currentAgeEpoch ⟨today.year, today.month⟩)]
  | .kyc threshold => call.kind = .kyc ∧
      call.args = [.bytes (hexToBytes owlRoot), .bigint threshold]
  | .residency countries verifierId => call.kind = .residency ∧ ∃ setHash,
      computeSetHash H (verifierIdHash H verifierId) countries = .ok setHash ∧
      call.args = [.bytes (hexToBytes owlRoot), .bytes setHash.toList]
  | .nationality countries verifierId => call.kind = .nationality ∧ ∃ setHash,
      computeSetHash H (verifierIdHash H verifierId) countries = .ok setHash ∧
      call.args = [.bytes (hexToBytes owlRoot), .bytes setHash.toList]
  | .emailVerified => call.kind = .email ∧ call.args = [.bytes (hexToBytes owlRoot)]
  | .uniquePersonhood epoch appId verifierId => call.kind = .personhood ∧
      call.args = [.bytes (hexToBytes owlRoot), .bytes (hexToBytes epoch),
        .bytes (effectiveAppId H verifierId (hexToBytes appId)).toList]

/-- The lookups agree: an age entry that is found by name has a threshold, and the first
    personhood entry is of the verifier whose scope is proved. -/
structure Aligned (H : Hashes) (required : Option (List RequiredAttestation))
    (sp : OwlAttestationRef) : Prop where
  threshold : sp.predicate = "age" → ∀ r, entryNamed required "age" = some r →
    r.threshold.isSome = true
  verifier : sp.predicate = "unique_personhood" →
    ∀ r, scopeEntry H required "unique_personhood" = some r →
      (entryNamed required "unique_personhood").bind RequiredAttestation.verifierId = r.verifierId

section

variable {H : Hashes} {N : Numerals} {doc : CredentialJson}
  {required : Option (List RequiredAttestation)} {sp : OwlAttestationRef} {plan : Plan}
  {today : CalendarDate} {call : CircuitCall}

theorem truthy_eq_some {text : Option String} {s : String} :
    truthy text = some s ↔ text = some s ∧ s ≠ "" := by
  simp [truthy, Option.filter_eq_some_iff]

theorem scopeOf_eq_some {r : RequiredAttestation} {scope : Scope} :
    scopeOf H r = some scope ↔ ∃ verifierId, truthy r.epoch = some scope.epoch ∧
      truthy r.appId = some scope.appId ∧ truthy r.verifierId = some verifierId ∧
      scope.effectiveAppId =
        hexEncode (effectiveAppId H verifierId (hexToBytes scope.appId)).toList := by
  simp only [scopeOf, Option.bind_eq_bind, Option.bind_eq_some_iff, Option.pure_def,
    Option.some.injEq]
  constructor
  · rintro ⟨epoch, hepoch, appId, happ, verifierId, named, rfl⟩
    exact ⟨verifierId, hepoch, happ, named, rfl⟩
  · rintro ⟨verifierId, hepoch, happ, named, effective⟩
    refine ⟨_, hepoch, _, happ, verifierId, named, ?_⟩
    cases scope
    simp_all

theorem scopeFor_personhood {scope : Option Scope} {spec : FamilySpec}
    (personhood : spec.kind = .personhood) (inScope : scopeFor H required sp spec = .ok scope) :
    ∃ r found, scopeEntry H required sp.predicate = some r ∧ scopeOf H r = some found ∧
      scope = some found := by
  rw [scopeFor, if_pos personhood] at inScope
  cases entry : scopeEntry H required sp.predicate with
  | none => simp [entry] at inScope
  | some r =>
    cases found : scopeOf H r with
    | none => simp [entry, found] at inScope
    | some here =>
      simp only [entry, Option.bind_some, found, Except.ok.injEq] at inScope
      exact ⟨r, here, rfl, found, inScope.symm⟩

theorem scopeFor_other {scope : Option Scope} {spec : FamilySpec}
    (other : spec.kind ≠ .personhood) (inScope : scopeFor H required sp spec = .ok scope) :
    scope = none := by
  rw [scopeFor, if_neg other] at inScope
  exact (Except.ok.inj inScope).symm

theorem boundsFor_age {bounds : Bounds} {spec : FamilySpec}
    (age : spec.kind = .age ∨ spec.kind = .ageRange)
    (bounded : boundsFor required sp spec = .ok bounds) :
    ∃ r, entryNamed required sp.predicate = some r ∧
      bounds = ⟨r.threshold, r.minAge, r.maxAge⟩ := by
  rw [boundsFor, if_pos age] at bounded
  cases entry : entryNamed required sp.predicate with
  | none => simp [entry] at bounded
  | some r =>
    simp only [entry, Except.ok.injEq] at bounded
    exact ⟨r, rfl, bounded.symm⟩

theorem boundsFor_other {bounds : Bounds} {spec : FamilySpec}
    (other : ¬(spec.kind = .age ∨ spec.kind = .ageRange))
    (bounded : boundsFor required sp spec = .ok bounds) :
    bounds = ⟨sp.threshold, sp.minAge, sp.maxAge⟩ := by
  rw [boundsFor, if_neg other] at bounded
  exact (Except.ok.inj bounded).symm

/-- The set of a country predicate is that of the entry found by name. -/
structure SetOf (H : Hashes) (required : Option (List RequiredAttestation))
    (sp : OwlAttestationRef) (set : CountrySet) : Prop where
  entry : ∃ r codes verifierId, entryNamed required sp.predicate = some r ∧
    r.countries = some codes ∧ truthy r.verifierId = some verifierId ∧
    set.countries = canonicaliseCountries codes ∧
    set.verifierIdHash = verifierIdHash H verifierId ∧
    computeSetHash H (verifierIdHash H verifierId) set.countries = .ok set.setHash
  holds : (truthy (sp.country.map toUpperCase)).any set.countries.contains = true

theorem countrySetFor_country {set : Option CountrySet}
    (country : isCountryPredicate sp.predicate = true)
    (placed : countrySetFor H required sp = .ok set) :
    ∃ found, set = some found ∧ SetOf H required sp found := by
  rw [countrySetFor, if_pos country] at placed
  simp only [bind_eq_ok, ensure_eq_ok, okOr_eq_ok, mapErr_eq_ok, pure_eq_ok, exists_const]
    at placed
  obtain ⟨nonempty, verifierId, named, _, holds, setHash, hashed, rfl⟩ := placed
  refine ⟨_, rfl, ?_, holds⟩
  cases entry : entryNamed required sp.predicate with
  | none => simp [entry] at nonempty
  | some r =>
    cases codes : r.countries with
    | none => simp [entry, codes] at nonempty
    | some list =>
      simp only [entry, Option.bind_some, codes, Option.getD_some] at named hashed ⊢
      exact ⟨r, list, verifierId, rfl, codes, named, rfl, rfl, hashed⟩

theorem countrySetFor_other {set : Option CountrySet}
    (other : isCountryPredicate sp.predicate = false)
    (placed : countrySetFor H required sp = .ok set) : set = none := by
  rw [countrySetFor, if_neg (by rw [other]; exact Bool.false_ne_true)] at placed
  exact (Except.ok.inj placed).symm

theorem circuitArgs_scope {scope : Scope} (inScope : plan.scope = some scope) :
    circuitArgs plan today = .ok [.bytes (hexToBytes plan.query.owlRoot),
      .bytes (hexToBytes scope.epoch), .bytes (hexToBytes scope.effectiveAppId)] := by
  simp only [circuitArgs, inScope]

theorem circuitArgs_age (unscoped : plan.scope = none) (kind : plan.spec.kind = .age) :
    circuitArgs plan today = .ok [.bytes (hexToBytes plan.query.owlRoot),
      .bigint (plan.query.threshold.getD 18),
      .bigint (currentAgeEpoch ⟨today.year, today.month⟩)] := by
  simp only [circuitArgs, unscoped, kind]

theorem circuitArgs_ageRange (unscoped : plan.scope = none) (kind : plan.spec.kind = .ageRange)
    {args : List CircuitArg} (made : circuitArgs plan today = .ok args) :
    ∃ minAge maxAge, plan.query.minAge = some minAge ∧ plan.query.maxAge = some maxAge ∧
      args = [.bytes (hexToBytes plan.query.owlRoot), .bigint minAge, .bigint maxAge,
        .bigint (currentAgeEpoch ⟨today.year, today.month⟩)] := by
  simp only [circuitArgs, unscoped, kind, bind_eq_ok, okOr_eq_ok, pure_eq_ok] at made
  obtain ⟨minAge, low, maxAge, high, rfl⟩ := made
  exact ⟨minAge, maxAge, low, high, rfl⟩

theorem circuitArgs_country (unscoped : plan.scope = none)
    (kind : plan.spec.kind = .nationality ∨ plan.spec.kind = .residency) {set : CountrySet}
    (placed : plan.countrySet = some set) :
    circuitArgs plan today =
      .ok [.bytes (hexToBytes plan.query.owlRoot), .bytes set.setHash.toList] := by
  rcases kind with kind | kind <;> simp only [circuitArgs, unscoped, kind, placed]

theorem circuitArgs_stamped (unscoped : plan.scope = none) (elsewhere : plan.countrySet = none)
    (kind : plan.spec.kind = .kyc ∨ plan.spec.kind = .email) :
    circuitArgs plan today = .ok (.bytes (hexToBytes plan.query.owlRoot) ::
      (plan.query.threshold.map CircuitArg.bigint).toList) := by
  rcases kind with kind | kind <;>
    cases threshold : plan.query.threshold <;>
    simp [circuitArgs, unscoped, kind, elsewhere, threshold]

/-! ### One family at a time -/

theorem PlanOf.spec_eq (planned : PlanOf H doc required sp plan) {predicate : String}
    {spec : FamilySpec} (name : sp.predicate = predicate)
    (row : families predicate = some spec) : plan.spec = spec := by
  have family := planned.family
  rw [name, row] at family
  exact (Option.some.inj family).symm

theorem PlanOf.age (planned : PlanOf H doc required sp plan) (name : sp.predicate = "age") :
    plan.spec.kind = .age ∧ plan.scope = none ∧ ∃ r, entryNamed required "age" = some r ∧
      plan.query.tuple = r.threshold.map .age ∧ plan.query.threshold = r.threshold := by
  have spec := planned.spec_eq name rfl
  obtain ⟨bounds, bounded, query⟩ := planned.bounded
  obtain ⟨r, entry, rfl⟩ := boundsFor_age (.inl (by rw [spec])) bounded
  refine ⟨by rw [spec], scopeFor_other (by rw [spec]; decide) planned.inScope, r,
    by rw [← name]; exact entry, ?_, by rw [query]; rfl⟩
  rw [query, AttestQuery.tuple, queryFor, name]
  rfl

theorem PlanOf.ageRange (planned : PlanOf H doc required sp plan)
    (name : sp.predicate = "age_range") :
    plan.spec.kind = .ageRange ∧ plan.scope = none ∧ ∃ r, entryNamed required "age_range" = some r ∧
      plan.query.minAge = r.minAge ∧ plan.query.maxAge = r.maxAge ∧
      plan.query.tuple = (do return .ageRange (← r.minAge) (← r.maxAge)) := by
  have spec := planned.spec_eq name rfl
  obtain ⟨bounds, bounded, query⟩ := planned.bounded
  obtain ⟨r, entry, rfl⟩ := boundsFor_age (.inr (by rw [spec])) bounded
  refine ⟨by rw [spec], scopeFor_other (by rw [spec]; decide) planned.inScope, r,
    by rw [← name]; exact entry, by rw [query]; rfl, by rw [query]; rfl, ?_⟩
  rw [query, AttestQuery.tuple, queryFor, name]
  rfl

theorem PlanOf.kyc (planned : PlanOf H doc required sp plan) (name : sp.predicate = "kyc") :
    plan.spec.kind = .kyc ∧ plan.scope = none ∧ plan.countrySet = none ∧
      plan.query.threshold = sp.threshold ∧ plan.query.tuple = sp.threshold.map .kyc := by
  have spec := planned.spec_eq name rfl
  obtain ⟨bounds, bounded, query⟩ := planned.bounded
  obtain rfl := boundsFor_other (by rw [spec]; decide) bounded
  refine ⟨by rw [spec], scopeFor_other (by rw [spec]; decide) planned.inScope,
    countrySetFor_other (by rw [name]; decide) planned.placed, by rw [query]; rfl, ?_⟩
  rw [query, AttestQuery.tuple, queryFor, name]
  rfl

theorem PlanOf.email (planned : PlanOf H doc required sp plan)
    (name : sp.predicate = "email_verified") :
    plan.spec.kind = .email ∧ plan.scope = none ∧ plan.countrySet = none ∧
      plan.query.tuple = some .emailVerified := by
  have spec := planned.spec_eq name rfl
  obtain ⟨bounds, bounded, query⟩ := planned.bounded
  refine ⟨by rw [spec], scopeFor_other (by rw [spec]; decide) planned.inScope,
    countrySetFor_other (by rw [name]; decide) planned.placed, ?_⟩
  rw [query, AttestQuery.tuple, queryFor, name]
  rfl

/-- The tuple of a country predicate. -/
def countryTuple (predicate : String) (countries : List String) (verifierId : String) :
    AttestTuple :=
  if predicate = "nationality" then .nationality countries verifierId
  else .residency countries verifierId

theorem PlanOf.country (planned : PlanOf H doc required sp plan)
    (name : sp.predicate = "nationality" ∨ sp.predicate = "residency") :
    (plan.spec.kind = .nationality ∧ sp.predicate = "nationality" ∨
      plan.spec.kind = .residency ∧ sp.predicate = "residency") ∧ plan.scope = none ∧
    ∃ set r codes verifierId, plan.countrySet = some set ∧
      entryNamed required sp.predicate = some r ∧ r.countries = some codes ∧
      truthy r.verifierId = some verifierId ∧
      computeSetHash H (verifierIdHash H verifierId) (canonicaliseCountries codes) =
        .ok set.setHash ∧
      plan.query.tuple =
        some (countryTuple sp.predicate (canonicaliseCountries codes) verifierId) := by
  have country : isCountryPredicate sp.predicate = true := by
    rcases name with name | name <;> rw [name] <;> rfl
  obtain ⟨set, placed, setOf⟩ := countrySetFor_country country planned.placed
  obtain ⟨r, codes, verifierId, entry, listed, named, canon, _, hashed⟩ := setOf.entry
  obtain ⟨bounds, bounded, query⟩ := planned.bounded
  have asked : plan.query.tuple =
      some (countryTuple sp.predicate (canonicaliseCountries codes) verifierId) := by
    rw [query, AttestQuery.tuple, queryFor, if_pos (.inl country), entry, placed]
    rcases name with name | name <;>
      simp [RequiredAttestation.named, name, countryTuple, canon, named]
  rw [canon] at hashed
  rcases name with name | name
  · have spec := planned.spec_eq name rfl
    exact ⟨.inl ⟨by rw [spec], name⟩, scopeFor_other (by rw [spec]; decide) planned.inScope, set, r,
      codes, verifierId, placed, entry, listed, named, hashed, asked⟩
  · have spec := planned.spec_eq name rfl
    exact ⟨.inr ⟨by rw [spec], name⟩, scopeFor_other (by rw [spec]; decide) planned.inScope, set, r,
      codes, verifierId, placed, entry, listed, named, hashed, asked⟩

theorem PlanOf.personhood (planned : PlanOf H doc required sp plan)
    (name : sp.predicate = "unique_personhood") :
    plan.spec.kind = .personhood ∧
    ∃ r scope verifierId, scopeEntry H required "unique_personhood" = some r ∧
      plan.scope = some scope ∧ scopeOf H r = some scope ∧ truthy r.verifierId = some verifierId ∧
      scope.effectiveAppId =
        hexEncode (effectiveAppId H verifierId (hexToBytes scope.appId)).toList ∧
      plan.query.tuple = (do
        let named ← truthy ((entryNamed required "unique_personhood").bind
          RequiredAttestation.verifierId)
        return .uniquePersonhood scope.epoch scope.appId named) := by
  have spec := planned.spec_eq name rfl
  obtain ⟨bounds, bounded, query⟩ := planned.bounded
  obtain ⟨r, scope, entry, found, inScope⟩ := scopeFor_personhood (by rw [spec]) planned.inScope
  rw [name] at entry
  obtain ⟨verifierId, epoch, appId, named, effective⟩ := scopeOf_eq_some.mp found
  refine ⟨by rw [spec], r, scope, verifierId, entry, inScope, found, named, effective, ?_⟩
  have some_epoch := (truthy_eq_some.mp epoch).2
  have some_appId := (truthy_eq_some.mp appId).2
  rw [query, AttestQuery.tuple, queryFor, name, inScope]
  simp [RequiredAttestation.named, truthy, some_epoch, some_appId, Option.filter_some]

theorem hexToBytes_hexEncode (bytes : Bytes) : hexToBytes (hexEncode bytes) = bytes :=
  hexToBytes_of_decode (by rw [hexDecode_hexEncode])

/-- A call that a circuit runs on is of the tuple the service was asked about. -/
theorem recordedBy_of_call (planned : PlanOf H doc required sp plan)
    (made : CallOf H N doc plan today call) (typed : call.wellTyped = true)
    (aligned : Aligned H required sp) :
    ∃ tuple, plan.query.tuple = some tuple ∧ RecordedBy H plan.query.owlRoot call tuple := by
  have args := made.args
  rcases families_names planned.family with name | name | name | name | name | name
  · obtain ⟨kind, unscoped, r, entry, tuple, threshold⟩ := planned.age name
    obtain ⟨t, given⟩ := Option.isSome_iff_exists.mp (aligned.threshold name r entry)
    rw [circuitArgs_age unscoped kind, threshold, given] at args
    exact ⟨.age t, by rw [tuple, given]; rfl, made.kind.trans kind, today,
      (Except.ok.inj args).symm⟩
  · obtain ⟨kind, unscoped, r, entry, low, high, tuple⟩ := planned.ageRange name
    obtain ⟨minAge, maxAge, hmin, hmax, hargs⟩ := circuitArgs_ageRange unscoped kind args
    refine ⟨.ageRange minAge maxAge, ?_, made.kind.trans kind, today, hargs⟩
    rw [tuple, ← low, ← high, hmin, hmax]
    rfl
  · obtain ⟨kind, unscoped, elsewhere, threshold, tuple⟩ := planned.kyc name
    rw [circuitArgs_stamped unscoped elsewhere (.inl kind), threshold] at args
    cases given : sp.threshold with
    | none =>
      -- the circuit takes two arguments
      rw [given] at args
      simp [CircuitCall.wellTyped, made.kind, kind, ← Except.ok.inj args] at typed
    | some t =>
      rw [given] at args
      exact ⟨.kyc t, by rw [tuple, given]; rfl, made.kind.trans kind, (Except.ok.inj args).symm⟩
  · obtain ⟨kind, unscoped, elsewhere, tuple⟩ := planned.email name
    rw [circuitArgs_stamped unscoped elsewhere (.inr kind)] at args
    cases given : plan.query.threshold with
    | none =>
      rw [given] at args
      exact ⟨.emailVerified, tuple, made.kind.trans kind, (Except.ok.inj args).symm⟩
    | some t =>
      -- the circuit takes one argument
      rw [given] at args
      simp [CircuitCall.wellTyped, made.kind, kind, ← Except.ok.inj args] at typed
  · obtain ⟨kinds, unscoped, set, r, codes, verifierId, placed, _, _, _, hashed, tuple⟩ :=
      planned.country name
    rcases kinds with ⟨kind, name⟩ | ⟨kind, name⟩
    · rw [circuitArgs_country unscoped (.inl kind) placed] at args
      refine ⟨_, tuple, ?_⟩
      rw [name]
      exact ⟨made.kind.trans kind, set.setHash, hashed, (Except.ok.inj args).symm⟩
    · rw [circuitArgs_country unscoped (.inr kind) placed] at args
      refine ⟨_, tuple, ?_⟩
      rw [name]
      exact ⟨made.kind.trans kind, set.setHash, hashed, (Except.ok.inj args).symm⟩
  · obtain ⟨kind, r, scope, verifierId, entry, inScope, _, named, effective, tuple⟩ :=
      planned.personhood name
    rw [circuitArgs_scope inScope] at args
    refine ⟨.uniquePersonhood scope.epoch scope.appId verifierId, ?_, made.kind.trans kind, ?_⟩
    · rw [tuple, aligned.verifier name r entry, named]
      rfl
    · rw [← Except.ok.inj args, effective, hexToBytes_hexEncode]

/-! ## What a result rests on -/

/-- The trace ends with a transaction of this call that succeeded. -/
def LandedCall (trace : List Event) (call : CircuitCall) : Prop :=
  ∃ tx, [.proved call tx false, .relayed call.kind tx, .ended success] <:+ trace

/-- The iteration found the tuple attested under the root, or landed its attestation. -/
def Ensured (H : Hashes) (owlRoot : String) (tuple : AttestTuple) (trace : List Event) : Prop :=
  (∃ query, query.tuple = some tuple ∧ query.owlRoot = owlRoot ∧ .asked query true ∈ trace) ∨
    ∃ call, RecordedBy H owlRoot call tuple ∧ LandedCall trace call

theorem AttemptTrace.result_cases {query : AttestQuery} {n : Nat} {result : EnsureResult}
    {t : List Event} (tried : AttemptTrace query call n (.ok result) t) :
    (result = ⟨query.predicate, query.threshold, true⟩ ∧ .asked query true ∈ t) ∨
    (result = ⟨query.predicate, query.threshold, false⟩ ∧ call.wellTyped = true ∧
      LandedCall t call) := by
  generalize ok : Except.ok result = r at tried
  induction tried with
  | unproved n e | cancelled n tx | unsettled n tx e | failed n tx status asks e no => cases ok
  | landed n tx typed =>
    cases ok
    exact .inr ⟨rfl, typed, tx, List.suffix_refl _⟩
  | attested n tx status asks no =>
    cases ok
    exact .inl ⟨rfl, by simp⟩
  | again n tx asks r rest answered no next ih =>
    have suffix : rest <:+ .proved call tx false :: .relayed call.kind tx :: .ended failFallible ::
        (asks ++ rest) := ⟨.proved call tx false :: .relayed call.kind tx ::
          .ended failFallible :: asks, by simp⟩
    rcases ih ok with ⟨same, member⟩ | ⟨same, typed, tx', last⟩
    · exact .inl ⟨same, suffix.subset member⟩
    · exact .inr ⟨same, typed, tx', last.trans suffix⟩

/-- An iteration with a result, and what the result rests on. -/
theorem RoundTrace.result_cases {result : EnsureResult} {t : List Event}
    (traced : RoundTrace H N doc required sp (.ok result) t) :
    ∃ plan, planFor H doc required sp = .ok plan ∧
      ((result = ⟨sp.predicate, plan.query.threshold, true⟩ ∧ .asked plan.query true ∈ t) ∨
      result = ⟨sp.predicate, plan.query.threshold, false⟩ ∧ ∃ today call,
        CallOf H N doc plan today call ∧ call.wellTyped = true ∧ LandedCall t call) := by
  have named {plan : Plan} (planned : PlanOf H doc required sp plan) :
      plan.query.predicate = sp.predicate := by
    obtain ⟨bounds, _, query⟩ := planned.bounded
    rw [query, queryFor]
  generalize ok : Except.ok result = r at traced
  cases traced with
  | unplanned e stopped | unanswered e | unattempted plan e => cases ok
  | already plan planned =>
    cases ok
    exact ⟨plan, planned, .inl ⟨by rw [named (planOf_of_planFor planned)], by simp⟩⟩
  | attempted plan today call r t planned assembled tried =>
    subst ok
    refine ⟨plan, planned, ?_⟩
    have named := named (planOf_of_planFor planned)
    rcases tried.result_cases with ⟨same, member⟩ | ⟨same, typed, tx, last⟩
    · exact .inl ⟨by rw [same, named], List.mem_cons_of_mem _ member⟩
    · exact .inr ⟨by rw [same, named], today, call, callOf_of_assemble assembled, typed,
        tx, last.trans (List.suffix_cons _ _)⟩

end

/-- Every result that is returned rests on an iteration that found the key of its own query
    attested, or that landed a transaction of the tuple it had asked about. -/
theorem ensured_results_attested {σ Snapshot : Type} (R : Runtime σ Snapshot) (H : Hashes)
    (N : Numerals) (doc : CredentialJson) (required : Option (List RequiredAttestation)) (s : σ)
    (results : List EnsureResult)
    (aligned : ∀ sp ∈ doc.predicateAttestations, Aligned H required sp)
    (returns : (ensureCredentialPredicatesAttested R H N doc required s).1 = .ok results) :
    ∀ result ∈ results, ∃ it ∈ (ensureCredentialPredicatesAttested R H N doc required s).2.1,
      ∃ plan, planFor H doc required it.stamped = .ok plan ∧
        result.predicate = it.stamped.predicate ∧ result.threshold = plan.query.threshold ∧
        (result.alreadyOnChain = true → .asked plan.query true ∈ it.trace) ∧
        (result.alreadyOnChain = false → ∃ tuple call, plan.query.tuple = some tuple ∧
          RecordedBy H plan.query.owlRoot call tuple ∧ LandedCall it.trace call) := by
  intro result member
  obtain ⟨it, among, outcome⟩ := mem_of_returned returns member
  obtain ⟨stamp, traced⟩ := roundTrace_of_mem among
  rw [outcome] at traced
  obtain ⟨plan, planned, rests⟩ := traced.result_cases
  refine ⟨it, among, plan, planned, ?_⟩
  rcases rests with ⟨rfl, asked⟩ | ⟨rfl, today, call, made, typed, landed⟩
  · exact ⟨rfl, rfl, fun _ => asked, fun impossible => Bool.noConfusion impossible⟩
  · obtain ⟨tuple, same, recorded⟩ :=
      recordedBy_of_call (planOf_of_planFor planned) made typed (aligned it.stamped stamp)
    exact ⟨rfl, rfl, fun impossible => Bool.noConfusion impossible,
      fun _ => ⟨tuple, call, same, recorded, landed⟩⟩

/-! ## Required entries -/

/-- Entries of one name ask for one tuple, and those for an age or a level name their
    bounds. -/
structure Unambiguous (entries : List RequiredAttestation) : Prop where
  same : ∀ r ∈ entries, ∀ r' ∈ entries, r.predicate = r'.predicate → r.tuple = r'.tuple
  bounded : ∀ r ∈ entries, r.predicate = "age" ∨ r.predicate = "age_range" ∨
    r.predicate = "kyc" → r.tuple.isSome = true

section

variable {H : Hashes} {doc : CredentialJson} {entries : List RequiredAttestation}
  {sp : OwlAttestationRef} {plan : Plan}

theorem mem_of_entryNamed {predicate : String} {r : RequiredAttestation}
    (entry : entryNamed (some entries) predicate = some r) :
    r ∈ entries ∧ r.predicate = predicate :=
  ⟨List.mem_of_find?_eq_some entry, by simpa using List.find?_some entry⟩

theorem mem_of_scopeEntry {predicate : String} {r : RequiredAttestation}
    (entry : scopeEntry H (some entries) predicate = some r) :
    r ∈ entries ∧ r.predicate = predicate ∧ ∃ scope, scopeOf H r = some scope := by
  have found := List.find?_some entry
  rw [Bool.and_eq_true, beq_iff_eq, Option.isSome_iff_exists] at found
  exact ⟨List.mem_of_find?_eq_some entry, found⟩

/-! ### Tuples of entries -/

theorem tuple_age {r : RequiredAttestation} (name : r.predicate = "age") :
    r.tuple = r.threshold.map .age := by
  rw [RequiredAttestation.tuple, RequiredAttestation.named, name]
  rfl

theorem tuple_ageRange {r : RequiredAttestation} (name : r.predicate = "age_range") :
    r.tuple = (do return .ageRange (← r.minAge) (← r.maxAge)) := by
  rw [RequiredAttestation.tuple, RequiredAttestation.named, name]
  rfl

theorem tuple_kyc {r : RequiredAttestation} (name : r.predicate = "kyc") :
    r.tuple = r.threshold.map .kyc := by
  rw [RequiredAttestation.tuple, RequiredAttestation.named, name]
  rfl

theorem tuple_email {r : RequiredAttestation} (name : r.predicate = "email_verified") :
    r.tuple = some .emailVerified := by
  rw [RequiredAttestation.tuple, RequiredAttestation.named, name]
  rfl

theorem tuple_country {r : RequiredAttestation} {codes : List String} {verifierId : String}
    (name : r.predicate = "nationality" ∨ r.predicate = "residency")
    (listed : r.countries = some codes) (named : truthy r.verifierId = some verifierId) :
    r.tuple = some (countryTuple r.predicate (canonicaliseCountries codes) verifierId) := by
  rw [RequiredAttestation.tuple, RequiredAttestation.named]
  rcases name with name | name <;> simp [name, listed, named, countryTuple]

theorem tuple_personhood {r : RequiredAttestation} {scope : Scope} {verifierId : String}
    (name : r.predicate = "unique_personhood") (found : scopeOf H r = some scope)
    (named : truthy r.verifierId = some verifierId) :
    r.tuple = some (.uniquePersonhood scope.epoch scope.appId verifierId) := by
  obtain ⟨_, epoch, appId, _, _⟩ := scopeOf_eq_some.mp found
  rw [RequiredAttestation.tuple, RequiredAttestation.named, name]
  simp [epoch, appId, named]

/-- A personhood tuple names the verifier of its entry. -/
theorem verifier_of_tuple {r : RequiredAttestation} {epoch appId verifierId : String}
    (name : r.predicate = "unique_personhood")
    (tuple : r.tuple = some (.uniquePersonhood epoch appId verifierId)) :
    r.verifierId = some verifierId := by
  rw [RequiredAttestation.tuple, RequiredAttestation.named, name] at tuple
  simp only [Option.bind_eq_bind, Option.bind_eq_some_iff, Option.pure_def, Option.some.injEq,
    AttestTuple.uniquePersonhood.injEq] at tuple
  obtain ⟨_, _, _, _, named, verifier, _, _, rfl⟩ := tuple
  exact (truthy_eq_some.mp verifier).1

theorem aligned_of_unambiguous (unambiguous : Unambiguous entries) :
    Aligned H (some entries) sp where
  threshold _ r entry := by
    obtain ⟨among, name⟩ := mem_of_entryNamed entry
    have bounded := unambiguous.bounded r among (.inl name)
    rwa [tuple_age name, Option.isSome_map] at bounded
  verifier _ r entry := by
    obtain ⟨among, name, scope, found⟩ := mem_of_scopeEntry entry
    obtain ⟨verifierId, _, _, named, _⟩ := scopeOf_eq_some.mp found
    have tuple := tuple_personhood name found named
    cases first : entryNamed (some entries) "unique_personhood" with
    | none =>
      have absent := List.find?_eq_none.mp first r among
      simp [name] at absent
    | some r' =>
      obtain ⟨among', name'⟩ := mem_of_entryNamed first
      rw [unambiguous.same r among r' among' (name.trans name'.symm)] at tuple
      rw [Option.bind_some, verifier_of_tuple name' tuple, (truthy_eq_some.mp named).1]

/-- The service is asked about the tuple of every entry of the name. -/
theorem tuple_of_plan (planned : PlanOf H doc (some entries) sp plan)
    (unambiguous : Unambiguous entries) {r : RequiredAttestation} (among : r ∈ entries)
    (name : r.predicate = sp.predicate) :
    ∃ tuple, r.tuple = some tuple ∧ plan.query.tuple = some tuple := by
  have same {r' : RequiredAttestation} (among' : r' ∈ entries)
      (name' : r'.predicate = sp.predicate) : r.tuple = r'.tuple :=
    unambiguous.same r among r' among' (name.trans name'.symm)
  have bounded (kind : r.predicate = "age" ∨ r.predicate = "age_range" ∨ r.predicate = "kyc")
      (asks : plan.query.tuple = r.tuple) :
      ∃ tuple, r.tuple = some tuple ∧ plan.query.tuple = some tuple := by
    obtain ⟨tuple, given⟩ := Option.isSome_iff_exists.mp (unambiguous.bounded r among kind)
    exact ⟨tuple, given, asks.trans given⟩
  rcases families_names planned.family with stamp | stamp | stamp | stamp | stamp | stamp
  · obtain ⟨_, _, r', entry, tuple, _⟩ := planned.age stamp
    obtain ⟨among', name'⟩ := mem_of_entryNamed entry
    refine bounded (.inl (name.trans stamp)) ?_
    rw [tuple, same among' (name'.trans stamp.symm), tuple_age name']
  · obtain ⟨_, _, r', entry, _, _, tuple⟩ := planned.ageRange stamp
    obtain ⟨among', name'⟩ := mem_of_entryNamed entry
    refine bounded (.inr (.inl (name.trans stamp))) ?_
    rw [tuple, same among' (name'.trans stamp.symm), tuple_ageRange name']
  · obtain ⟨_, _, _, _, tuple⟩ := planned.kyc stamp
    obtain ⟨r', among', matched⟩ := List.any_eq_true.mp planned.asked
    -- the stamp's tier is that of the entry it was matched with
    simp [matchesEntry, stamp, isCountryPredicate] at matched
    refine bounded (.inr (.inr (name.trans stamp))) ?_
    rw [tuple, same among' (matched.1.trans stamp.symm), tuple_kyc matched.1, matched.2]
  · obtain ⟨_, _, _, tuple⟩ := planned.email stamp
    exact ⟨.emailVerified, tuple_email (name.trans stamp), tuple⟩
  · obtain ⟨_, _, set, r', codes, verifierId, _, entry, listed, named, _, tuple⟩ :=
      planned.country stamp
    obtain ⟨among', name'⟩ := mem_of_entryNamed entry
    rw [← name'] at tuple stamp
    exact ⟨_, (same among' name').trans (tuple_country stamp listed named), tuple⟩
  · obtain ⟨_, r', scope, verifierId, entry, _, found, named, _, tuple⟩ := planned.personhood stamp
    obtain ⟨among', name', _⟩ := mem_of_scopeEntry entry
    have tupleOf := (same among' (name'.trans stamp.symm)).trans (tuple_personhood name' found named)
    refine ⟨_, tupleOf, ?_⟩
    rw [tuple, (aligned_of_unambiguous unambiguous).verifier stamp r' entry, named]
    rfl

/-- Every required entry is reported as missing, or an iteration ensured its tuple. -/
theorem ensured_of_rounds {N : Numerals} {its : List Iteration} {results : List EnsureResult}
    (unambiguous : Unambiguous entries)
    (rounds : ∀ it ∈ its, RoundTrace H N doc (some entries) it.stamped it.result it.trace)
    (reported : ∀ result ∈ results, ∃ it ∈ its, it.result = .ok result) {r : RequiredAttestation}
    (among : r ∈ entries) :
    r.predicate ∈ unattestedRequiredPredicates (some entries) results ∨
      ∃ tuple owlRoot, r.tuple = some tuple ∧ doc.owlRoot = some owlRoot ∧
        ∃ it ∈ its, Ensured H owlRoot tuple it.trace := by
  by_cases landed : r.predicate ∈ results.map EnsureResult.predicate
  · right
    obtain ⟨result, member, name⟩ := List.mem_map.mp landed
    obtain ⟨it, itAmong, outcome⟩ := reported result member
    have traced := rounds it itAmong
    rw [outcome] at traced
    obtain ⟨plan, planned, rests⟩ := traced.result_cases
    have planned := planOf_of_planFor planned
    have stamped : r.predicate = it.stamped.predicate := by
      rw [← name]
      rcases rests with ⟨rfl, _⟩ | ⟨rfl, _⟩ <;> rfl
    obtain ⟨tuple, asks, query⟩ := tuple_of_plan planned unambiguous among stamped
    refine ⟨tuple, plan.query.owlRoot, asks, planned.rooted, it, itAmong, ?_⟩
    rcases rests with ⟨rfl, asked⟩ | ⟨rfl, today, call, made, typed, last⟩
    · exact .inl ⟨plan.query, query, rfl, asked⟩
    · obtain ⟨other, same, recorded⟩ :=
        recordedBy_of_call planned made typed (aligned_of_unambiguous unambiguous)
      obtain rfl := Option.some.inj (query.symm.trans same)
      exact .inr ⟨call, recorded, last⟩
  · left
    rw [unattestedRequiredPredicates, List.mem_filter]
    exact ⟨List.mem_map_of_mem among, by simpa using landed⟩

end

/-- When the orchestrator returns, every required entry is reported as missing, or an iteration
    found exactly its tuple attested or landed its attestation. -/
theorem required_tuples_ensured {σ Snapshot : Type} (R : Runtime σ Snapshot) (H : Hashes)
    (N : Numerals) (doc : CredentialJson) (entries : List RequiredAttestation) (s : σ)
    (results : List EnsureResult) (unambiguous : Unambiguous entries)
    (returns : (ensureCredentialPredicatesAttested R H N doc (some entries) s).1 = .ok results) :
    ∀ r ∈ entries, r.predicate ∈ unattestedRequiredPredicates (some entries) results ∨
      ∃ tuple owlRoot, r.tuple = some tuple ∧ doc.owlRoot = some owlRoot ∧
        ∃ it ∈ (ensureCredentialPredicatesAttested R H N doc (some entries) s).2.1,
          Ensured H owlRoot tuple it.trace := by
  intro r among
  obtain ⟨rounds, reported⟩ := @ensure_ensures _ _ R H N doc (some entries) s
  exact ensured_of_rounds unambiguous (fun it member => (rounds it member).2)
    (reported results returns) among

/-! ### A sample run -/

theorem sample_lands : (ensureCredentialPredicatesAttested sampleRuntime sampleHashes
    sampleNumerals sampleProofJson (some sampleRequired) ()).1 = .ok [⟨"age", some 21, false⟩] :=
  rfl

theorem sample_unambiguous : Unambiguous sampleRequired where
  same r member r' member' _ := by
    rw [List.mem_singleton.mp member, List.mem_singleton.mp member']
  bounded r member _ := by
    rw [List.mem_singleton.mp member]
    rfl

theorem ensured_results_attested_at_sample :
    ∃ it ∈ (ensureCredentialPredicatesAttested sampleRuntime sampleHashes sampleNumerals
        sampleProofJson (some sampleRequired) ()).2.1,
      ∃ (plan : Plan) (tuple : AttestTuple) (call : CircuitCall), plan.query.tuple = some tuple ∧
        RecordedBy sampleHashes plan.query.owlRoot call tuple ∧ LandedCall it.trace call := by
  obtain ⟨it, among, plan, _, _, _, _, landed⟩ := ensured_results_attested sampleRuntime
    sampleHashes sampleNumerals sampleProofJson (some sampleRequired) () _
    (fun _ _ => aligned_of_unambiguous sample_unambiguous) sample_lands _
    (List.mem_singleton_self _)
  obtain ⟨tuple, call, facts⟩ := landed rfl
  exact ⟨it, among, plan, tuple, call, facts⟩

theorem required_tuples_ensured_at_sample :
    ∃ it ∈ (ensureCredentialPredicatesAttested sampleRuntime sampleHashes sampleNumerals
        sampleProofJson (some sampleRequired) ()).2.1,
      ∃ owlRoot, Ensured sampleHashes owlRoot (.age 21) it.trace := by
  rcases required_tuples_ensured sampleRuntime sampleHashes sampleNumerals sampleProofJson
    sampleRequired () _ sample_unambiguous sample_lands _ (List.mem_singleton_self _) with
    missing | ⟨tuple, owlRoot, asks, _, it, among, ensured⟩
  · cases missing
  · obtain rfl := Option.some.inj asks
    exact ⟨it, among, owlRoot, ensured⟩

end OwlId.Sdk
