import Mathlib
import OwlId.Contracts.KeySeparation
import OwlId.Verification.Dcql

/-! # Keys derived from queries

`derive_attest_key` turns a query into the key a contract records.  It accepts wider
parameters than the circuits have: ages of 32 bits where a circuit has 16, and
country lists of any length where the tree has 256 slots.  What does not fit is cut
off rather than rejected, so two queries can be given one key; the main result says
exactly which.
-/

namespace OwlId.Verification

open OwlId.Lib OwlId.ProofSystem OwlId.Contracts

/-! ## What is accepted -/

namespace OwlPredicate

/-- The predicates whose key depends on the verifier. -/
def verifierBound : OwlPredicate → Bool
  | .nationalityIn _ | .residencyIn _ | .uniquePersonhood .. => true
  | _ => false

/-- The path segment of the contract that records the predicate. -/
def kind : OwlPredicate → String
  | .ageGte _ => "age"
  | .ageRange .. => "age_range"
  | .kycGte _ => "kyc"
  | .nationalityIn _ => "nationality"
  | .residencyIn _ => "residency"
  | .emailVerified => "email"
  | .uniquePersonhood .. => "personhood"

/-- The key of a predicate over a decoded root, if its own arguments decode. -/
def recipe (H : Hashes) (now : UtcMonth) (verifierId : String) (anchor : Bytes32) :
    OwlPredicate → Option Bytes32
  | .ageGte threshold => some (ageKey H anchor threshold.toNat (currentAgeEpoch now))
  | .ageRange min max => some
      (ageRangeKey H anchor (min.toNat % 2 ^ 16) (max.toNat % 2 ^ 16) (currentAgeEpoch now))
  | .kycGte threshold => some (kycKey H anchor threshold.toNat)
  | .nationalityIn countries => some (nationalityKey H anchor verifierId countries)
  | .residencyIn countries => some (residencyKey H anchor verifierId countries)
  | .emailVerified => some (emailVerifiedKey H anchor)
  | .uniquePersonhood epoch appId => do
    let epoch ← (decodeHex32 epoch).toOption
    let campaign ← (decodeHex32 appId).toOption
    return uniquePersonhoodKey H anchor epoch (personhoodAppId H verifierId campaign)

end OwlPredicate

theorem toOption_eq_some {ε α : Type} {result : Except ε α} {a : α} :
    result.toOption = some a ↔ result = .ok a := by
  cases result <;> simp [Except.toOption]

theorem predicateKey_eq_ok {H : Hashes} {now : UtcMonth} {queryId verifierId : String}
    {owlRootHex : Option String} {predicate : OwlPredicate} {key : Bytes32} {kind : String} :
    predicateKey H now queryId owlRootHex verifierId predicate = .ok (key, kind) ↔
      (predicate.verifierBound = true → verifierId ≠ "") ∧
      (∃ anchor, owlRootAnchor owlRootHex = some anchor ∧
        predicate.recipe H now verifierId anchor = some key) ∧ predicate.kind = kind := by
  cases predicate with
  | uniquePersonhood epoch appId =>
    simp only [predicateKey, requireVerifierId, anchorFor, bind_eq_ok, ensure_eq_ok, okOr_eq_ok,
      mapErr_eq_ok, pure_eq_ok, exists_const, Prod.mk.injEq, OwlPredicate.verifierBound,
      OwlPredicate.recipe, OwlPredicate.kind, Option.bind_eq_bind, Option.bind_eq_some_iff,
      toOption_eq_some, Option.pure_def, Option.some.injEq, forall_const]
    constructor
    · rintro ⟨named, anchor, root, epoch, hepoch, campaign, hcampaign, key, kind⟩
      exact ⟨named, ⟨anchor, root, epoch, hepoch, campaign, hcampaign, key⟩, kind⟩
    · rintro ⟨named, ⟨anchor, root, epoch, hepoch, campaign, hcampaign, key⟩, kind⟩
      exact ⟨named, anchor, root, epoch, hepoch, campaign, hcampaign, key, kind⟩
  | nationalityIn countries | residencyIn countries =>
    simp only [predicateKey, requireVerifierId, anchorFor, bind_eq_ok, ensure_eq_ok, okOr_eq_ok,
      pure_eq_ok, exists_const, Prod.mk.injEq, OwlPredicate.verifierBound, OwlPredicate.recipe,
      OwlPredicate.kind, Option.some.injEq, forall_const]
    constructor
    · rintro ⟨named, anchor, root, key, kind⟩
      exact ⟨named, ⟨anchor, root, key⟩, kind⟩
    · rintro ⟨named, ⟨anchor, root, key⟩, kind⟩
      exact ⟨named, anchor, root, key, kind⟩
  | _ =>
    simp only [predicateKey, anchorFor, bind_eq_ok, okOr_eq_ok, pure_eq_ok, Prod.mk.injEq,
      OwlPredicate.verifierBound, OwlPredicate.recipe, OwlPredicate.kind, Option.some.injEq,
      Bool.false_eq_true, false_implies, true_and]
    constructor
    · rintro ⟨anchor, root, key, kind⟩
      exact ⟨⟨anchor, root, key⟩, kind⟩
    · rintro ⟨⟨anchor, root, key⟩, kind⟩
      exact ⟨anchor, root, key, kind⟩

/-! ## The fact behind a predicate -/

/-- A reading of the system clock; the calendar library ends with the year 262142. -/
structure ClockReading where
  month : UtcMonth
  inRange : month.year ≤ 262142 ∧ month.month ≤ 12

namespace ClockReading

theorem epoch_lt (now : ClockReading) : currentAgeEpoch now.month < 2 ^ 32 := by
  have range := now.inRange
  rw [currentAgeEpoch]
  omega

def epoch (now : ClockReading) : UInt32 := UInt32.ofNat (currentAgeEpoch now.month)

theorem epoch_toNat (now : ClockReading) : now.epoch.toNat = currentAgeEpoch now.month := by
  have bound := now.epoch_lt
  rw [epoch, UInt32.toNat_ofNat']
  omega

end ClockReading

namespace OwlPredicate

/-- `as u128`. -/
def asU128 (n : UInt64) : Fin (2 ^ 128) :=
  ⟨n.toNat, by have bound := n.toNat_lt; omega⟩

/-- The arguments the recipe is called with. -/
def fact (now : ClockReading) (verifierId : String) : OwlPredicate → Option KeyFact
  | .ageGte threshold => some (.age (asU128 threshold) now.epoch)
  | .ageRange min max => some (.ageRange min.toUInt16 max.toUInt16 now.epoch)
  | .kycGte threshold => some (.kyc (asU128 threshold))
  | .nationalityIn countries => some (.nationality verifierId countries)
  | .residencyIn countries => some (.residency verifierId countries)
  | .emailVerified => some .emailVerified
  | .uniquePersonhood epoch appId => do
    let epoch ← (decodeHex32 epoch).toOption
    let campaign ← (decodeHex32 appId).toOption
    return .uniquePersonhood epoch campaign verifierId

theorem recipe_eq_fact (H : Hashes) (now : ClockReading) (verifierId : String) (anchor : Bytes32)
    (predicate : OwlPredicate) :
    predicate.recipe H now.month verifierId anchor =
      (predicate.fact now verifierId).map fun fact => fact.key H anchor := by
  cases predicate with
  | ageGte threshold => simp [recipe, fact, KeyFact.key, asU128, now.epoch_toNat]
  | ageRange min max => simp [recipe, fact, KeyFact.key, now.epoch_toNat]
  | kycGte threshold => simp [recipe, fact, KeyFact.key, asU128]
  | nationalityIn countries => rfl
  | residencyIn countries => rfl
  | emailVerified => rfl
  | uniquePersonhood epoch appId =>
    cases hepoch : (decodeHex32 epoch).toOption with
    | none => simp [recipe, fact, hepoch]
    | some bytes =>
      cases hcampaign : (decodeHex32 appId).toOption with
      | none => simp [recipe, fact, hepoch, hcampaign]
      | some campaign => simp [recipe, fact, hepoch, hcampaign, KeyFact.key]

/-! ## Two predicates with one key -/

/-- Both predicates ask for the same: equal numbers, equal sets of alpha-2 codes, or the
    same personhood scope. -/
def SameFact : OwlPredicate → OwlPredicate → Prop
  | .ageGte threshold, .ageGte threshold' => threshold = threshold'
  | .ageRange min max, .ageRange min' max' => min = min' ∧ max = max'
  | .kycGte threshold, .kycGte threshold' => threshold = threshold'
  | .nationalityIn countries, .nationalityIn countries'
  | .residencyIn countries, .residencyIn countries' =>
    ∀ code, code ∈ canonicaliseCountries countries ↔ code ∈ canonicaliseCountries countries'
  | .emailVerified, .emailVerified => True
  | .uniquePersonhood epoch appId, .uniquePersonhood epoch' appId' =>
    (decodeHex32 epoch).toOption = (decodeHex32 epoch').toOption ∧
      (decodeHex32 appId).toOption = (decodeHex32 appId').toOption
  | _, _ => False

/-- Country sets that differ only past the last slot of the tree. -/
def AliasedCountries (countries countries' : List String) : Prop :=
  heldCountries countries = heldCountries countries' ∧
    canonicaliseCountries countries ≠ canonicaliseCountries countries'

/-- Different predicates that the narrowing makes equal: age ranges that agree in the
    low 16 bits, or country sets that agree in their first 256 codes. -/
def Aliased (now now' : ClockReading) : OwlPredicate → OwlPredicate → Prop
  | .ageRange min max, .ageRange min' max' =>
    now.epoch = now'.epoch ∧ min.toNat % 2 ^ 16 = min'.toNat % 2 ^ 16 ∧
      max.toNat % 2 ^ 16 = max'.toNat % 2 ^ 16 ∧ ¬ (min = min' ∧ max = max')
  | .nationalityIn countries, .nationalityIn countries' => AliasedCountries countries countries'
  | .residencyIn countries, .residencyIn countries' => AliasedCountries countries countries'
  | _, _ => False

/-- The parameters fit the types of the circuits. -/
def Representable : OwlPredicate → Prop
  | .ageGte threshold => threshold.toNat < 2 ^ 16
  | .ageRange min max => min.toNat < 2 ^ 16 ∧ max.toNat < 2 ^ 16
  | .kycGte threshold => threshold.toNat < 2 ^ 8
  | .nationalityIn countries | .residencyIn countries =>
    (canonicaliseCountries countries).length ≤ countrySetSlots
  | .emailVerified | .uniquePersonhood .. => True

theorem toUInt16_eq_iff {m n : UInt32} :
    m.toUInt16 = n.toUInt16 ↔ m.toNat % 2 ^ 16 = n.toNat % 2 ^ 16 := by
  rw [← UInt16.toNat_inj, UInt32.toNat_toUInt16, UInt32.toNat_toUInt16]

theorem asU128_inj {m n : UInt64} (same : asU128 m = asU128 n) : m = n :=
  UInt64.toNat_inj.mp (Fin.mk.inj same)

theorem sameCountries_or_aliased {countries countries' : List String}
    (held : heldCountries countries = heldCountries countries') :
    (∀ code, code ∈ canonicaliseCountries countries ↔ code ∈ canonicaliseCountries countries') ∨
      AliasedCountries countries countries' := by
  by_cases same : canonicaliseCountries countries = canonicaliseCountries countries'
  · exact .inl (canonicaliseCountries_eq_iff.mp same)
  · exact .inr ⟨held, same⟩

/-- The constructor, numbered as `KeyFact.kind` numbers the facts. -/
def index : OwlPredicate → Nat
  | .ageGte _ => 0
  | .ageRange .. => 1
  | .kycGte _ => 2
  | .nationalityIn _ => 3
  | .residencyIn _ => 4
  | .emailVerified => 5
  | .uniquePersonhood .. => 6

variable {now now' : ClockReading} {verifierId : String} {predicate predicate' : OwlPredicate}
  {known known' : KeyFact}

theorem fact_uniquePersonhood {epoch appId : String}
    (hfact : (uniquePersonhood epoch appId).fact now verifierId = some known) :
    ∃ e a, (decodeHex32 epoch).toOption = some e ∧ (decodeHex32 appId).toOption = some a ∧
      known = .uniquePersonhood e a verifierId := by
  simp only [fact, Option.bind_eq_bind, Option.bind_eq_some_iff, Option.pure_def,
    Option.some.injEq] at hfact
  obtain ⟨e, hepoch, a, hcampaign, rfl⟩ := hfact
  exact ⟨e, a, hepoch, hcampaign, rfl⟩

theorem fact_kind (hfact : predicate.fact now verifierId = some known) :
    known.held.kind.val = predicate.index := by
  cases predicate with
  | uniquePersonhood epoch appId =>
    obtain ⟨_, _, _, _, rfl⟩ := fact_uniquePersonhood hfact
    rfl
  | _ => cases hfact; rfl

/-- Keys can only be equal when the predicates are the same or aliases. -/
theorem sameFact_or_aliased (hfact : predicate.fact now verifierId = some known)
    (hfact' : predicate'.fact now' verifierId = some known') (held : known.held = known'.held) :
    predicate.SameFact predicate' ∨ Aliased now now' predicate predicate' := by
  have sameKind : predicate.index = predicate'.index := by
    rw [← fact_kind hfact, ← fact_kind hfact', held]
  cases predicate with
  | ageGte threshold =>
    cases predicate' with
    | ageGte threshold' =>
      cases hfact
      cases hfact'
      simp only [KeyFact.held, KeyFact.age.injEq] at held
      exact .inl (asU128_inj held.1)
    | _ => cases sameKind
  | ageRange min max =>
    cases predicate' with
    | ageRange min' max' =>
      cases hfact
      cases hfact'
      simp only [KeyFact.held, KeyFact.ageRange.injEq, toUInt16_eq_iff] at held
      obtain ⟨mins, maxs, epochs⟩ := held
      by_cases same : min = min' ∧ max = max'
      · exact .inl same
      · exact .inr ⟨epochs, mins, maxs, same⟩
    | _ => cases sameKind
  | kycGte threshold =>
    cases predicate' with
    | kycGte threshold' =>
      cases hfact
      cases hfact'
      simp only [KeyFact.held, KeyFact.kyc.injEq] at held
      exact .inl (asU128_inj held)
    | _ => cases sameKind
  | nationalityIn countries =>
    cases predicate' with
    | nationalityIn countries' =>
      cases hfact
      cases hfact'
      simp only [KeyFact.held, KeyFact.nationality.injEq] at held
      exact sameCountries_or_aliased held.2
    | _ => cases sameKind
  | residencyIn countries =>
    cases predicate' with
    | residencyIn countries' =>
      cases hfact
      cases hfact'
      simp only [KeyFact.held, KeyFact.residency.injEq] at held
      exact sameCountries_or_aliased held.2
    | _ => cases sameKind
  | emailVerified =>
    cases predicate' with
    | emailVerified => exact .inl trivial
    | _ => cases sameKind
  | uniquePersonhood epoch appId =>
    cases predicate' with
    | uniquePersonhood epoch' appId' =>
      obtain ⟨e, a, hepoch, hcampaign, rfl⟩ := fact_uniquePersonhood hfact
      obtain ⟨e', a', hepoch', hcampaign', rfl⟩ := fact_uniquePersonhood hfact'
      simp only [KeyFact.held, KeyFact.uniquePersonhood.injEq, and_true] at held
      exact .inl ⟨by rw [hepoch, hepoch', held.1], by rw [hcampaign, hcampaign', held.2]⟩
    | _ => cases sameKind

/-- Aliases have one key, and do not ask for the same. -/
theorem held_eq_of_aliased (hfact : predicate.fact now verifierId = some known)
    (hfact' : predicate'.fact now' verifierId = some known')
    (aliased : Aliased now now' predicate predicate') :
    known.held = known'.held ∧ ¬ predicate.SameFact predicate' := by
  cases predicate with
  | ageRange min max =>
    cases predicate' with
    | ageRange min' max' =>
      obtain ⟨epochs, mins, maxs, different⟩ := aliased
      cases hfact
      cases hfact'
      rw [toUInt16_eq_iff.mpr mins, toUInt16_eq_iff.mpr maxs, epochs]
      exact ⟨rfl, different⟩
    | _ => cases aliased
  | nationalityIn countries =>
    cases predicate' with
    | nationalityIn countries' =>
      obtain ⟨codes, different⟩ := aliased
      cases hfact
      cases hfact'
      exact ⟨by simp [KeyFact.held, codes],
        fun same => different (canonicaliseCountries_eq_iff.mpr same)⟩
    | _ => cases aliased
  | residencyIn countries =>
    cases predicate' with
    | residencyIn countries' =>
      obtain ⟨codes, different⟩ := aliased
      cases hfact
      cases hfact'
      exact ⟨by simp [KeyFact.held, codes],
        fun same => different (canonicaliseCountries_eq_iff.mpr same)⟩
    | _ => cases aliased
  | _ =>
    cases predicate' with
    | _ => cases aliased

theorem not_aliased_of_representable (fits : predicate.Representable)
    (fits' : predicate'.Representable) : ¬ Aliased now now' predicate predicate' := by
  intro aliased
  have countries {codes codes' : List String}
      (short : (canonicaliseCountries codes).length ≤ countrySetSlots)
      (short' : (canonicaliseCountries codes').length ≤ countrySetSlots) :
      ¬ AliasedCountries codes codes' := by
    intro ⟨held, different⟩
    rw [heldCountries_eq short, heldCountries_eq short'] at held
    exact different held
  cases predicate with
  | ageRange min max =>
    cases predicate' with
    | ageRange min' max' =>
      obtain ⟨_, mins, maxs, different⟩ := aliased
      obtain ⟨hmin, hmax⟩ := fits
      obtain ⟨hmin', hmax'⟩ := fits'
      exact different ⟨UInt32.toNat_inj.mp (by omega), UInt32.toNat_inj.mp (by omega)⟩
    | _ => cases aliased
  | nationalityIn codes =>
    cases predicate' with
    | nationalityIn codes' => exact countries fits fits' aliased
    | _ => cases aliased
  | residencyIn codes =>
    cases predicate' with
    | residencyIn codes' => exact countries fits fits' aliased
    | _ => cases aliased
  | _ =>
    cases predicate' with
    | _ => cases aliased

end OwlPredicate

/-! ## Main result -/

/-- What deriving the key of a predicate hashes. -/
def queryInputs (H : Hashes) (now : ClockReading) (verifierId : String)
    (owlRootHex : Option String) (predicate : OwlPredicate) : List HashInput :=
  match owlRootAnchor owlRootHex, predicate.fact now verifierId with
  | some anchor, some known => known.inputs H anchor
  | _, _ => []

theorem deriveAttestKey_fact {H : Hashes} {now : ClockReading} {query : DcqlCredentialQuery}
    {vct credIdHex verifierId : String} {owlRootHex : Option String} {predicate : OwlPredicate}
    {ak : AttestKey} (asks : query.owlPredicate = some predicate)
    (accepted : deriveAttestKey H now.month query vct credIdHex owlRootHex verifierId = .ok ak) :
    ∃ anchor known, owlRootAnchor owlRootHex = some anchor ∧
      predicate.fact now verifierId = some known ∧
      ak.keyHex = hexEncode (known.key H anchor).toList := by
  obtain ⟨_, _, _, _, asked, key, asks', derived, hex⟩ := (deriveAttestKey_eq_ok _ _).mp accepted
  obtain rfl := Option.some.inj (asks.symm.trans asks')
  obtain ⟨_, ⟨anchor, root, recipe⟩, _⟩ := predicateKey_eq_ok.mp derived
  rw [OwlPredicate.recipe_eq_fact, Option.map_eq_some_iff] at recipe
  obtain ⟨known, hfact, rfl⟩ := recipe
  exact ⟨anchor, known, root, hfact, hex⟩

/-- A predicate outside the circuits' types is refused whoever asks for it. -/
def RejectedUnlessRepresentable (H : Hashes) (predicate : OwlPredicate) : Prop :=
  predicate.Representable ∨ ∀ now query vct credIdHex owlRootHex verifierId,
    query.owlPredicate = some predicate →
    ∃ message, deriveAttestKey H now query vct credIdHex owlRootHex verifierId = .error message

/-- A query that constrains nothing but the predicate. -/
def bareQuery (predicate : OwlPredicate) : DcqlCredentialQuery :=
  ⟨"q", "dc+sd-jwt", none, [], some predicate⟩

theorem deriveAttestKey_bareQuery {H : Hashes} {now : UtcMonth} {predicate : OwlPredicate}
    {key : Bytes32} {credId owlRoot : Bytes32} {verifierId : String} (named : verifierId ≠ "")
    (recipe : predicate.recipe H now verifierId owlRoot = some key) :
    deriveAttestKey H now (bareQuery predicate) "" (hexEncode credId.toList)
      (some (hexEncode owlRoot.toList)) verifierId =
        .ok ⟨hexEncode key.toList, predicate.kind⟩ := by
  refine (deriveAttestKey_eq_ok _ _).mpr ⟨rfl, rfl, ⟨credId, by simp⟩, rfl, predicate, key, rfl, ?_, rfl⟩
  exact predicateKey_eq_ok.mpr ⟨fun _ => named, ⟨owlRoot, by simp [owlRootAnchor], recipe⟩, rfl⟩

/-- Nothing is ever refused for its size. -/
theorem rejectedUnlessRepresentable_iff (H : Hashes) (predicate : OwlPredicate) :
    RejectedUnlessRepresentable H predicate ↔ predicate.Representable := by
  constructor
  · intro rejected
    cases rejected with
    | inl fits => exact fits
    | inr refused =>
      by_contra large
      have recipe : ∃ key, predicate.recipe H ⟨2026, 1⟩ "verifier" zero32 = some key := by
        cases predicate with
        | emailVerified => exact absurd trivial large
        | uniquePersonhood epoch appId => exact absurd trivial large
        | _ => exact ⟨_, rfl⟩
      obtain ⟨key, recipe⟩ := recipe
      obtain ⟨message, failed⟩ := refused ⟨2026, 1⟩ (bareQuery predicate) "" (hexEncode zero32.toList)
        (some (hexEncode zero32.toList)) "verifier" rfl
      rw [deriveAttestKey_bareQuery (by decide) recipe] at failed
      cases failed
  · intro fits
    exact .inl fits

/-- Which queries share a key, and which parameters are refused for their size. -/
theorem derive_attest_key_alias_free_iff (H : Hashes) (now now' : ClockReading)
    (query query' : DcqlCredentialQuery) (vct credIdHex verifierId : String)
    (owlRootHex : Option String) (predicate predicate' : OwlPredicate) (ak ak' : AttestKey)
    (asks : query.owlPredicate = some predicate) (asks' : query'.owlPredicate = some predicate')
    (accepted : deriveAttestKey H now.month query vct credIdHex owlRootHex verifierId = .ok ak)
    (accepted' : deriveAttestKey H now'.month query' vct credIdHex owlRootHex verifierId = .ok ak')
    (injective : Injective H (queryInputs H now verifierId owlRootHex predicate ++
      queryInputs H now' verifierId owlRootHex predicate')) :
    ((ak.keyHex = ak'.keyHex → predicate.SameFact predicate') ↔
      ¬ OwlPredicate.Aliased now now' predicate predicate') ∧
    (RejectedUnlessRepresentable H predicate ∧ RejectedUnlessRepresentable H predicate' ↔
      predicate.Representable ∧ predicate'.Representable) ∧
    (predicate.Representable ∧ predicate'.Representable →
      ¬ OwlPredicate.Aliased now now' predicate predicate') := by
  obtain ⟨anchor, known, root, hfact, hex⟩ := deriveAttestKey_fact asks accepted
  obtain ⟨anchor', known', root', hfact', hex'⟩ := deriveAttestKey_fact asks' accepted'
  obtain rfl := Option.some.inj (root.symm.trans root')
  simp only [queryInputs, root, hfact, hfact'] at injective
  refine ⟨⟨?_, ?_⟩, ?_, fun fits => OwlPredicate.not_aliased_of_representable fits.1 fits.2⟩
  · intro distinguishes aliased
    obtain ⟨held, different⟩ := OwlPredicate.held_eq_of_aliased hfact hfact' aliased
    exact different (distinguishes (by rw [hex, hex', KeyFact.key_eq_of_held held]))
  · intro unaliased same
    rw [hex, hex'] at same
    have keys := Vector.toList_inj.mp (hexEncode_injective same)
    have held := (KeyFact.held_eq_of_key injective keys).2
    exact (OwlPredicate.sameFact_or_aliased hfact hfact' held).resolve_right unaliased
  · rw [rejectedUnlessRepresentable_iff, rejectedUnlessRepresentable_iff]

/-! ### An age range under another's key -/

def sampleClock : ClockReading := ⟨⟨2026, 1⟩, by decide⟩

/-- 65554 and 65635 are 18 and 99 plus 65536. -/
theorem age_ranges_share_a_key :
    ∃ ak, deriveAttestKey sampleHashes sampleClock.month (bareQuery (.ageRange 18 99)) ""
        (hexEncode zero32.toList) (some (hexEncode zero32.toList)) "verifier" = .ok ak ∧
      deriveAttestKey sampleHashes sampleClock.month (bareQuery (.ageRange 65554 65635)) ""
        (hexEncode zero32.toList) (some (hexEncode zero32.toList)) "verifier" = .ok ak ∧
      ¬ (OwlPredicate.ageRange 18 99).SameFact (.ageRange 65554 65635) := by
  refine ⟨_, deriveAttestKey_bareQuery (by decide) rfl, ?_, ?_⟩
  · exact deriveAttestKey_bareQuery (by decide) rfl
  · intro same
    exact absurd same.1 (by decide)

theorem derive_attest_key_alias_free_at_sample :
    ∃ ak ak', deriveAttestKey sampleHashes sampleClock.month (bareQuery (.kycGte 2)) ""
        (hexEncode zero32.toList) (some (hexEncode zero32.toList)) "verifier" = .ok ak ∧
      deriveAttestKey sampleHashes sampleClock.month (bareQuery (.kycGte 3)) ""
        (hexEncode zero32.toList) (some (hexEncode zero32.toList)) "verifier" = .ok ak' ∧
      ak.keyHex ≠ ak'.keyHex := by
  refine ⟨_, _, deriveAttestKey_bareQuery (by decide) rfl, deriveAttestKey_bareQuery (by decide) rfl,
    ?_⟩
  have free : CollisionFree sampleHashes
      (queryInputs sampleHashes sampleClock "verifier" (some (hexEncode zero32.toList)) (.kycGte 2) ++
        queryInputs sampleHashes sampleClock "verifier" (some (hexEncode zero32.toList))
          (.kycGte 3)) :=
    sampleHashes_collisionFree (by decide +kernel)
  have distinguishes := (derive_attest_key_alias_free_iff sampleHashes sampleClock sampleClock _ _ ""
    (hexEncode zero32.toList) "verifier" (some (hexEncode zero32.toList)) (.kycGte 2) (.kycGte 3) _ _
    rfl rfl (deriveAttestKey_bareQuery (by decide) rfl) (deriveAttestKey_bareQuery (by decide) rfl)
    free.injective).1.mpr fun aliased => aliased
  intro same
  exact absurd (distinguishes same) (by decide : ¬ (2 : UInt64) = 3)

end OwlId.Verification
