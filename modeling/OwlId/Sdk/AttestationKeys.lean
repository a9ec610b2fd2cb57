import Mathlib
import OwlId.Lib.JsText
import OwlId.Verification.KeyDerivation
import OwlId.Sdk.Countries

/-! # Attestation keys in the SDK

The SDK's port of the seven key recipes and `OwlVerifier`'s lookup over them.  The
port has its own byte helpers, which compute the same words as the Rust ones.  What
separates the two is the age recipes, whose parameter misses the freshness epoch, the
canonical form of unusual country entries, and the anchor of the lookup, which is the
credential's id and not its `owl_root`.
-/

namespace OwlId.Sdk

open OwlId.Lib OwlId.ProofSystem OwlId.Contracts OwlId.Verification

/-! ## Byte helpers -/

def u128Le32 (v : Nat) : Bytes32 := padBytes (leDigits 16 (v % 2 ^ 128))

def u16Le32 (v : Nat) : Bytes32 := padBytes [UInt8.ofNat (v % 256), UInt8.ofNat (v / 256 % 256)]

/-- A text of another length than 64 is refused, whatever its characters are. -/
def hexToBytes32 (hex : String) : Option Bytes32 :=
  let stripped := utf16Units (String.ofList (strip0x hex.toList))
  if stripped.length = 64 then tryInto32 (parseHexPairs stripped) else none

/-! ## The port -/

section

variable (H : Hashes)

def keyFromParts (tag : String) (rootHash param : Bytes32) : Bytes32 :=
  persistentHash H [pad32 tag, rootHash, param]

/-- The hash of the set's tree, which is not built over capacity. -/
def allowedCountrySetHash (clientId : String) (countries : List String) : Option Bytes32 := do
  let leaves ← buildAllowedSetTree countries
  let rootBytes := frToLeBytes32 (merkleRootOf H leaves)
  return persistentHash H [verifierIdHash H clientId, rootBytes]

/-- The freshness epoch is not an argument of the port. -/
def ageKey (rootHash : Bytes32) (threshold : Nat) : Bytes32 :=
  keyFromParts H "owlid:attest:age:" rootHash (u128Le32 threshold)

def kycKey (rootHash : Bytes32) (threshold : Nat) : Bytes32 :=
  keyFromParts H "owlid:attest:kyc:" rootHash (u128Le32 threshold)

def ageRangeKey (rootHash : Bytes32) (min max : Nat) : Bytes32 :=
  let param := persistentHash H [u16Le32 min, u16Le32 max]
  keyFromParts H "owlid:attest:agerng:" rootHash param

def emailVerifiedKey (rootHash : Bytes32) : Bytes32 :=
  keyFromParts H "owlid:attest:email:" rootHash zero32

def uniquePersonhoodKey (rootHash : Bytes32) (epoch appId clientId : String) : Option Bytes32 := do
  let vidHash := verifierIdHash H clientId
  let effectiveAppId := persistentHash H [vidHash, ← hexToBytes32 appId]
  let param := persistentHash H [← hexToBytes32 epoch, effectiveAppId]
  return keyFromParts H "owlid:attest:uniq:" rootHash param

def nationalityKey (rootHash : Bytes32) (clientId : String) (countries : List String) :
    Option Bytes32 := do
  let setHash ← allowedCountrySetHash H clientId countries
  return keyFromParts H "owlid:attest:nat:" rootHash setHash

def residencyKey (rootHash : Bytes32) (clientId : String) (countries : List String) :
    Option Bytes32 := do
  let setHash ← allowedCountrySetHash H clientId countries
  return keyFromParts H "owlid:attest:resin:" rootHash setHash

end

/-! ## The lookup -/

inductive KycLevel where
  | basic
  | substantial
  | high
  | number (n : Nat)
deriving DecidableEq

/-- The rung of a label. -/
def KycLevel.rung : KycLevel → Nat
  | .number n => n
  | .high => 3
  | .substantial => 2
  | .basic => 1

/-- Numbers are those both languages can write: non-negative integers. -/
inductive PredicateRequest where
  | ageOver (threshold : Nat)
  | ageRange (min max : Nat)
  | kycLevel (level : KycLevel)
  | residencyIn (countries : List String)
  | nationalityIn (countries : List String)
  | emailVerified
  | uniquePerson (epoch appId : String)
deriving DecidableEq

namespace PredicateRequest

variable (H : Hashes)

/-- The switch over the recipes. -/
def key (clientId : String) (rootHash : Bytes32) : PredicateRequest → Option Bytes32
  | .ageOver threshold => some (ageKey H rootHash threshold)
  | .ageRange min max => some (ageRangeKey H rootHash min max)
  | .kycLevel level => some (kycKey H rootHash level.rung)
  | .emailVerified => some (emailVerifiedKey H rootHash)
  | .uniquePerson epoch appId => uniquePersonhoodKey H rootHash epoch appId clientId
  | .nationalityIn countries => nationalityKey H rootHash clientId countries
  | .residencyIn countries => residencyKey H rootHash clientId countries

/-- The Rust function of the same predicate, with the decoding its callers do. -/
def rustKey (now : UtcMonth) (clientId : String) (rootHash : Bytes32) :
    PredicateRequest → Option Bytes32
  | .ageOver threshold =>
    some (ProofSystem.ageKey H rootHash threshold (currentAgeEpoch now))
  | .ageRange min max =>
    some (ProofSystem.ageRangeKey H rootHash min max (currentAgeEpoch now))
  | .kycLevel level => some (ProofSystem.kycKey H rootHash level.rung)
  | .emailVerified => some (ProofSystem.emailVerifiedKey H rootHash)
  | .uniquePerson epoch appId => do
    let epoch ← (decodeHex32 epoch).toOption
    let campaign ← (decodeHex32 appId).toOption
    return ProofSystem.uniquePersonhoodKey H rootHash epoch (personhoodAppId H clientId campaign)
  | .nationalityIn countries => some (ProofSystem.nationalityKey H rootHash clientId countries)
  | .residencyIn countries => some (ProofSystem.residencyKey H rootHash clientId countries)

end PredicateRequest

/-- The lookup's anchor: the bytes of the credential's id. -/
def credentialAnchor (credentialId : String) : Option Bytes32 := tryInto32 (hexToBytes credentialId)

/-- `none` where the source throws. -/
def attestationKeyFor (H : Hashes) (verifierId credentialId : String)
    (predicate : PredicateRequest) : Option String := do
  let rootHash ← credentialAnchor credentialId
  let key ← predicate.key H verifierId rootHash
  return hexEncode key.toList

/-! ## The helpers compute the Rust words -/

theorem u128Le32_eq (v : Nat) : u128Le32 v = ProofSystem.u128Le32 v := by
  rw [u128Le32, padBytes_leDigits, Nat.mod_mod, ProofSystem.u128Le32]

theorem u16Le32_eq (v : Nat) : u16Le32 v = ProofSystem.u16Le32 v := by
  apply Vector.ext
  intro i bound
  rw [u16Le32, padBytes_getElem _ _ bound, ProofSystem.u16Le32, leBytes32, Vector.getElem_ofFn]
  rcases i with _ | _ | i
  · apply UInt8.toNat_inj.mp
    simp
  · apply UInt8.toNat_inj.mp
    simp
    omega
  · have small : v % 2 ^ 16 < 256 ^ (i + 2) := by
      calc v % 2 ^ 16 < 256 ^ 2 := by omega
        _ ≤ 256 ^ (i + 2) := Nat.pow_le_pow_right (by omega) (by omega)
    rw [Nat.div_eq_of_lt small]
    simp

/-! ## Hex words -/

/-- The text is the hex of the word, behind at most one `0x`. -/
def HexOf (text : String) (word : Bytes32) : Prop :=
  hexDecodeChars (strip0x text.toList) = some word.toList

theorem dropPairs_of_decode {cs : List Char} {bs : Bytes} (decoded : hexDecodeChars cs = some bs) :
    dropPairs '0' 'x' cs = cs := by
  rcases cs with _ | ⟨a, _ | ⟨b, rest⟩⟩
  · rfl
  · rfl
  · rw [dropPairs, if_neg]
    rintro ⟨_, low⟩
    subst low
    simp [hexDecodeChars, show hexVal 'x' = none by decide] at decoded

theorem trimStart0x_eq_strip0x {text : String} {bs : Bytes}
    (decoded : hexDecodeChars (strip0x text.toList) = some bs) :
    trimStart0x text = String.ofList (strip0x text.toList) := by
  rw [trimStart0x]
  congr 1
  rcases hcs : text.toList with _ | ⟨a, _ | ⟨b, rest⟩⟩
  · rfl
  · rfl
  · rw [hcs] at decoded
    by_cases marked : a = '0' ∧ b = 'x'
    · obtain ⟨rfl, rfl⟩ := marked
      rw [dropPairs, if_pos ⟨rfl, rfl⟩]
      exact dropPairs_of_decode decoded
    · rw [strip0x, if_neg marked] at decoded ⊢
      exact dropPairs_of_decode decoded

namespace HexOf

variable {text : String} {word : Bytes32}

theorem decodeHex32_eq (hex : HexOf text word) : decodeHex32 text = .ok word := by
  have decoded : hexDecode (trimStart0x text) = some word.toList := by
    rw [trimStart0x_eq_strip0x hex, hexDecode, String.toList_ofList]
    exact hex
  simp [decodeHex32, decoded]

theorem hexToBytes32_eq (hex : HexOf text word) : hexToBytes32 text = some word := by
  obtain ⟨read, ascii⟩ := parseHexPairs_of_decode hex
  have units : utf16Units (String.ofList (strip0x text.toList)) = strip0x text.toList := by
    rw [utf16Units_of_ascii] <;> simp only [String.toList_ofList]
    exact ascii
  have length : (strip0x text.toList).length = 64 := by
    have digits := hexDecodeChars_length hex
    simp at digits
    omega
  rw [hexToBytes32]
  simp only [units, length, if_true, read, tryInto32_toList]

end HexOf

/-! ## Country sets -/

/-- The port hashes the set the Rust recipe would hash for its canonical list. -/
theorem allowedCountrySetHash_eq {H : Hashes} {clientId : String} {countries : List String}
    (fits : ¬ Overfull countries) :
    allowedCountrySetHash H clientId countries =
      some (ProofSystem.allowedCountrySetHash H clientId (canonicaliseCountries countries)) := by
  rw [← buildAllowedSetTree_eq_none] at fits
  obtain ⟨leaves, built⟩ := Option.ne_none_iff_exists'.mp fits
  have held := (buildAllowedSetTree_eq_some built).1
  simp [allowedCountrySetHash, built, held, ProofSystem.allowedCountrySetHash,
    allowedCountryMerkleRoot, canonicaliseCountries_canonical]

theorem length_le_of_not_overfull {countries : List String} (fits : ¬ Overfull countries) :
    (canonicaliseCountries countries).length ≤ countrySetSlots := by
  rw [← buildAllowedSetTree_eq_none] at fits
  obtain ⟨leaves, built⟩ := Option.ne_none_iff_exists'.mp fits
  exact (buildAllowedSetTree_eq_some built).2

theorem setHash_eq_iff {H : Hashes} {clientId : String} {countries : List String}
    (fits : ¬ Overfull countries)
    (fits' : (ProofSystem.canonicaliseCountries countries).length ≤ countrySetSlots)
    (injective : Injective H (KeyFact.setHashInputs H clientId (canonicaliseCountries countries) ++
      KeyFact.setHashInputs H clientId countries)) :
    ProofSystem.allowedCountrySetHash H clientId (canonicaliseCountries countries) =
      ProofSystem.allowedCountrySetHash H clientId countries ↔ Matched countries := by
  have held : heldCountries (canonicaliseCountries countries) = canonicaliseCountries countries := by
    rw [heldCountries_eq, canonicaliseCountries_canonical]
    rw [canonicaliseCountries_canonical]
    exact length_le_of_not_overfull fits
  rw [← canonicaliseCountries_eq_iff]
  constructor
  · intro same
    have lists := (injective.setHash same).2
    rwa [held, heldCountries_eq fits'] at lists
  · intro same
    rw [ProofSystem.allowedCountrySetHash, ProofSystem.allowedCountrySetHash,
      allowedCountryMerkleRoot, allowedCountryMerkleRoot, canonicaliseCountries_canonical, same]

/-! ## Parameters -/

namespace PredicateRequest

/-- The arguments are in the range of both ports: numbers of the Rust types, hex of 32
bytes behind at most one `0x`, and at most 256 codes. -/
def InRange : PredicateRequest → Prop
  | .ageOver threshold => threshold < 2 ^ 128
  | .ageRange min max => min < 2 ^ 16 ∧ max < 2 ^ 16
  | .kycLevel level => level.rung < 2 ^ 128
  | .emailVerified => True
  | .uniquePerson epoch appId => (∃ word, HexOf epoch word) ∧ ∃ word, HexOf appId word
  | .nationalityIn countries | .residencyIn countries =>
    ¬ Overfull countries ∧
      (ProofSystem.canonicaliseCountries countries).length ≤ countrySetSlots

def tag : PredicateRequest → String
  | .ageOver _ => tagAge
  | .ageRange .. => tagAgeRange
  | .kycLevel _ => tagKyc
  | .emailVerified => tagEmailVerified
  | .uniquePerson .. => tagUniquePersonhood
  | .nationalityIn _ => tagNationality
  | .residencyIn _ => tagResidency

section

variable (H : Hashes) (now : UtcMonth) (clientId : String)

def personhoodParam (epoch campaign : Bytes32) : Bytes32 :=
  hashPair H epoch (personhoodAppId H clientId campaign)

/-- The last word a recipe of the port hashes. -/
def param : PredicateRequest → Option Bytes32
  | .ageOver threshold => some (ProofSystem.u128Le32 threshold)
  | .ageRange min max => some
      (persistentHash H [ProofSystem.u16Le32 min, ProofSystem.u16Le32 max])
  | .kycLevel level => some (ProofSystem.u128Le32 level.rung)
  | .emailVerified => some zero32
  | .uniquePerson epoch appId => do
    let campaign ← hexToBytes32 appId
    return personhoodParam H clientId (← hexToBytes32 epoch) campaign
  | .nationalityIn countries | .residencyIn countries => allowedCountrySetHash H clientId countries

def rustParam : PredicateRequest → Option Bytes32
  | .ageOver threshold => some (hashPair H (ProofSystem.u128Le32 threshold)
      (ProofSystem.u128Le32 (currentAgeEpoch now)))
  | .ageRange min max => some (persistentHash H [ProofSystem.u16Le32 min,
      ProofSystem.u16Le32 max, ProofSystem.u128Le32 (currentAgeEpoch now)])
  | .kycLevel level => some (ProofSystem.u128Le32 level.rung)
  | .emailVerified => some zero32
  | .uniquePerson epoch appId => do
    let epoch ← (decodeHex32 epoch).toOption
    return personhoodParam H clientId epoch (← (decodeHex32 appId).toOption)
  | .nationalityIn countries | .residencyIn countries =>
    some (ProofSystem.allowedCountrySetHash H clientId countries)

theorem key_eq (rootHash : Bytes32) (request : PredicateRequest) :
    request.key H clientId rootHash =
      (request.param H clientId).map (ProofSystem.key H request.tag rootHash) := by
  cases request with
  | ageOver threshold => simp only [key, ageKey, u128Le32_eq]; rfl
  | ageRange min max => simp only [key, ageRangeKey, u16Le32_eq]; rfl
  | kycLevel level => simp only [key, kycKey, u128Le32_eq]; rfl
  | emailVerified => rfl
  | uniquePerson epoch appId =>
    cases happ : hexToBytes32 appId with
    | none => simp [key, uniquePersonhoodKey, param, happ]
    | some campaign =>
      cases hepoch : hexToBytes32 epoch with
      | none => simp [key, uniquePersonhoodKey, param, happ, hepoch]
      | some word => simp only [key, uniquePersonhoodKey, param, happ, hepoch]; rfl
  | nationalityIn countries =>
    simp only [key, nationalityKey, param]
    cases allowedCountrySetHash H clientId countries <;> rfl
  | residencyIn countries =>
    simp only [key, residencyKey, param]
    cases allowedCountrySetHash H clientId countries <;> rfl

theorem rustKey_eq (rootHash : Bytes32) (request : PredicateRequest) :
    request.rustKey H now clientId rootHash =
      (request.rustParam H now clientId).map (ProofSystem.key H request.tag rootHash) := by
  cases request with
  | uniquePerson epoch appId =>
    simp only [rustKey, rustParam]
    cases (decodeHex32 epoch).toOption with
    | none => rfl
    | some word => cases (decodeHex32 appId).toOption <;> rfl
  | _ => rfl

/-! ## When the parameters agree -/

/-- The predicates the port computes as Rust does.  An age key does so only where the hash
of the threshold and the epoch is the threshold's own word. -/
def Ported : PredicateRequest → Prop
  | .ageOver threshold => hashPair H (ProofSystem.u128Le32 threshold)
      (ProofSystem.u128Le32 (currentAgeEpoch now)) = ProofSystem.u128Le32 threshold
  | .ageRange .. => False
  | .nationalityIn countries | .residencyIn countries => Matched countries
  | .kycLevel _ | .emailVerified | .uniquePerson .. => True

def paramInputs : PredicateRequest → List HashInput
  | .ageRange min max =>
    [wordsInput [ProofSystem.u16Le32 min, ProofSystem.u16Le32 max],
      wordsInput [ProofSystem.u16Le32 min, ProofSystem.u16Le32 max,
        ProofSystem.u128Le32 (currentAgeEpoch now)]]
  | .nationalityIn countries | .residencyIn countries =>
    KeyFact.setHashInputs H clientId (canonicaliseCountries countries) ++
      KeyFact.setHashInputs H clientId countries
  | _ => []

/-- What the two sides hash for a request, over their own anchors. -/
def inputs (anchor rootHash : Bytes32) (request : PredicateRequest) : List HashInput :=
  wordsInput [pad32 request.tag, anchor, (request.param H clientId).getD zero32] ::
    wordsInput [pad32 request.tag, rootHash, (request.rustParam H now clientId).getD zero32] ::
    request.paramInputs H now clientId

end

variable {H : Hashes} {now : UtcMonth} {clientId : String} {request : PredicateRequest}

theorem param_eq_iff (range : request.InRange)
    (injective : Injective H (request.paramInputs H now clientId)) :
    ∃ mine theirs, request.param H clientId = some mine ∧
      request.rustParam H now clientId = some theirs ∧ (mine = theirs ↔ request.Ported H now) := by
  cases request with
  | ageOver threshold => exact ⟨_, _, rfl, rfl, eq_comm⟩
  | ageRange min max =>
    refine ⟨_, _, rfl, rfl, ⟨fun same => ?_, False.elim⟩⟩
    -- two words are hashed on one side and three on the other
    have words := injective.words (by simp [paramInputs]) (by simp [paramInputs]) same
    simp at words
  | kycLevel level => exact ⟨_, _, rfl, rfl, iff_of_true rfl trivial⟩
  | emailVerified => exact ⟨_, _, rfl, rfl, iff_of_true rfl trivial⟩
  | uniquePerson epoch appId =>
    obtain ⟨⟨word, hepoch⟩, campaign, happ⟩ := range
    refine ⟨personhoodParam H clientId word campaign, personhoodParam H clientId word campaign,
      ?_, ?_, iff_of_true rfl trivial⟩
    · simp [param, hepoch.hexToBytes32_eq, happ.hexToBytes32_eq]
    · simp [rustParam, hepoch.decodeHex32_eq, happ.decodeHex32_eq, Except.toOption]
  | nationalityIn countries =>
    exact ⟨_, _, allowedCountrySetHash_eq range.1, rfl, setHash_eq_iff range.1 range.2 injective⟩
  | residencyIn countries =>
    exact ⟨_, _, allowedCountrySetHash_eq range.1, rfl, setHash_eq_iff range.1 range.2 injective⟩

/-- Keys over two anchors agree exactly when the anchors and the parameters do. -/
theorem key_eq_rustKey_iff {anchor rootHash : Bytes32} (range : request.InRange)
    (injective : Injective H (request.inputs H now clientId anchor rootHash)) :
    request.key H clientId anchor = request.rustKey H now clientId rootHash ↔
      anchor = rootHash ∧ request.Ported H now := by
  obtain ⟨mine, theirs, hmine, htheirs, params⟩ :=
    @param_eq_iff H now clientId request range
      (injective.mono (List.subset_cons_of_subset _ (List.subset_cons_self _ _)))
  rw [key_eq, rustKey_eq, hmine, htheirs, ← params]
  simp only [Option.map_some, Option.some.injEq]
  constructor
  · intro same
    have words := injective.words (by simp [inputs, hmine]) (by simp [inputs, htheirs]) same
    simpa using words
  · intro ⟨sameAnchor, sameParam⟩
    rw [sameAnchor, sameParam]

end PredicateRequest

/-! ## Main result -/

/-- The request that asks an `OwlVerifier` for the predicate of a query. -/
def requestOf : OwlPredicate → PredicateRequest
  | .ageGte threshold => .ageOver threshold.toNat
  | .ageRange min max => .ageRange min.toNat max.toNat
  | .kycGte threshold => .kycLevel (.number threshold.toNat)
  | .nationalityIn countries => .nationalityIn countries
  | .residencyIn countries => .residencyIn countries
  | .emailVerified => .emailVerified
  | .uniquePersonhood epoch appId => .uniquePerson epoch appId

theorem rustKey_requestOf (H : Hashes) (now : UtcMonth) (clientId : String) (anchor : Bytes32)
    (predicate : OwlPredicate) :
    (requestOf predicate).rustKey H now clientId anchor =
      predicate.recipe H now clientId anchor := by
  cases predicate with
  | ageRange min max =>
    simp [requestOf, PredicateRequest.rustKey, OwlPredicate.recipe, ProofSystem.ageRangeKey,
      ProofSystem.u16Le32]
  | _ => rfl

theorem attestationKeyFor_eq_some {H : Hashes} {verifierId credentialId keyHex : String}
    {request : PredicateRequest} :
    attestationKeyFor H verifierId credentialId request = some keyHex ↔
      ∃ anchor key, credentialAnchor credentialId = some anchor ∧
        request.key H verifierId anchor = some key ∧ hexEncode key.toList = keyHex := by
  simp only [attestationKeyFor, Option.bind_eq_bind, Option.bind_eq_some_iff, Option.pure_def,
    Option.some.injEq]
  constructor
  · intro ⟨anchor, read, key, made, hex⟩
    exact ⟨anchor, key, read, made, hex⟩
  · intro ⟨anchor, key, read, made, hex⟩
    exact ⟨anchor, read, key, made, hex⟩

/-- Which recipes of the port return the Rust bytes, and when the verifier's lookup finds
the key that is derived for the credential's `owl_root`. -/
theorem sdk_keys_agree_iff (H : Hashes) (now : UtcMonth) (clientId : String) :
    (∀ (request : PredicateRequest) (rootHash : Bytes32), request.InRange →
      Injective H (request.inputs H now clientId rootHash rootHash) →
      (request.key H clientId rootHash = request.rustKey H now clientId rootHash ↔
        request.Ported H now)) ∧
    (∀ (query : DcqlCredentialQuery) (predicate : OwlPredicate) (vct credentialId : String)
        (owlRootHex : Option String) (owlRoot : Bytes32) (ak : AttestKey),
      query.owlPredicate = some predicate → (requestOf predicate).InRange →
      deriveAttestKey H now query vct credentialId owlRootHex clientId = .ok ak →
      owlRootAnchor owlRootHex = some owlRoot →
      (∀ anchor, credentialAnchor credentialId = some anchor →
        Injective H ((requestOf predicate).inputs H now clientId anchor owlRoot)) →
      (attestationKeyFor H clientId credentialId (requestOf predicate) = some ak.keyHex ↔
        credentialAnchor credentialId = owlRootAnchor owlRootHex ∧
          (requestOf predicate).Ported H now)) := by
  refine ⟨fun request rootHash range injective => ?_, ?_⟩
  · rw [PredicateRequest.key_eq_rustKey_iff range injective]
    exact and_iff_right rfl
  · intro query predicate vct credentialId owlRootHex owlRoot ak asks range accepted root injective
    obtain ⟨_, _, _, _, asked, key, asks', derived, hex⟩ := (deriveAttestKey_eq_ok _ _).mp accepted
    obtain rfl := Option.some.inj (asks.symm.trans asks')
    obtain ⟨_, ⟨_, root', recipe⟩, _⟩ := predicateKey_eq_ok.mp derived
    obtain rfl := Option.some.inj (root.symm.trans root')
    rw [← rustKey_requestOf] at recipe
    rw [attestationKeyFor_eq_some, root, hex]
    constructor
    · intro ⟨anchor, found, read, made, same⟩
      have keys := Vector.toList_inj.mp (hexEncode_injective same)
      rw [read, Option.some.injEq]
      rw [keys, ← recipe] at made
      exact (PredicateRequest.key_eq_rustKey_iff range (injective anchor read)).mp made
    · intro ⟨read, ported⟩
      have made := (PredicateRequest.key_eq_rustKey_iff range (injective owlRoot read)).mpr
        ⟨rfl, ported⟩
      exact ⟨owlRoot, key, read, by rw [made, recipe], rfl⟩

/-- An age range: the port hashes two words where the recipe hashes three. -/
theorem age_range_port_differs :
    ¬ ∀ (request : PredicateRequest) (rootHash : Bytes32), request.InRange →
      request.key sampleHashes "shop" rootHash =
        request.rustKey sampleHashes ⟨2026, 1⟩ "shop" rootHash := by
  intro agree
  have same := agree (.ageRange 18 65) zero32 ⟨by decide, by decide⟩
  exact absurd same (by decide +kernel)

theorem sdk_keys_agree_at_sample :
    (requestOf (.kycGte 2)).key sampleHashes "shop" zero32 =
        (requestOf (.kycGte 2)).rustKey sampleHashes ⟨2026, 1⟩ "shop" zero32 ∧
      attestationKeyFor sampleHashes "shop" (hexEncode zero32.toList) (requestOf (.kycGte 2)) =
        some (hexEncode (ProofSystem.kycKey sampleHashes zero32 2).toList) := by
  have range : (requestOf (.kycGte 2)).InRange := by
    simp [requestOf, PredicateRequest.InRange, KycLevel.rung]
  have free : CollisionFree sampleHashes
      ((requestOf (.kycGte 2)).inputs sampleHashes ⟨2026, 1⟩ "shop" zero32 zero32) :=
    sampleHashes_collisionFree (by decide +kernel)
  have anchored : credentialAnchor (hexEncode zero32.toList) = some zero32 := by
    rw [credentialAnchor, hexToBytes_of_decode (hexDecode_hexEncode _), tryInto32_toList]
  have root : owlRootAnchor (some (hexEncode zero32.toList)) = some zero32 := by
    simp [owlRootAnchor]
  refine ⟨((sdk_keys_agree_iff sampleHashes ⟨2026, 1⟩ "shop").1 _ zero32 range
    free.injective).mpr trivial, ?_⟩
  refine ((sdk_keys_agree_iff sampleHashes ⟨2026, 1⟩ "shop").2 (bareQuery (.kycGte 2)) (.kycGte 2)
    "" (hexEncode zero32.toList) (some (hexEncode zero32.toList)) zero32 _ rfl range
    (deriveAttestKey_bareQuery (by decide) rfl) root ?_).mpr ⟨anchored.trans root.symm, trivial⟩
  intro anchor read
  obtain rfl := Option.some.inj (anchored.symm.trans read)
  exact free.injective

end OwlId.Sdk
