import Mathlib
import OwlId.Contracts.Personhood
import OwlId.Sdk.AttestationKeys
import OwlId.Sdk.EnsuredTuples
import OwlId.Verification.IssuerTrust
import OwlId.Verification.PredicateCheck

/-! # The keys of landed calls

The wallet assembles the public arguments of a circuit, the contract computes a key from them and
records it, and the server derives a key of its own from the query and looks it up.  A call that
was made for a required entry is recorded under the key the server derives, and stays recorded:
the formats in which the three pass roots, numbers, country sets and scopes around agree wherever
the circuit's types hold.
-/

namespace OwlId.Sdk

open OwlId.Lib OwlId.ProofSystem OwlId.Contracts
open OwlId.Verification (OwlPredicate DcqlCredentialQuery AttestKey deriveAttestKey decodeHex32)

/-! ## Public arguments -/

/-- The kind under which the SDK calls the contract. -/
def contractKind : Kind → PredicateKind
  | .kyc => .kyc
  | .age => .age
  | .ageRange => .ageRange
  | .nationality => .nationality
  | .residency => .residency
  | .email => .email

/-- The kind as the paths of the service spell it. -/
def PredicateKind.path : PredicateKind → String
  | .age => "age"
  | .kyc => "kyc"
  | .residency => "residency"
  | .email => "email"
  | .nationality => "nationality"
  | .ageRange => "age_range"
  | .personhood => "personhood"

def wordArg (word : Bytes32) : CircuitArg := .bytes word.toList

/-- The arguments of a contract's circuit as the SDK writes them. -/
def publicArgs {kind : Kind} : AttestCall kind → List CircuitArg
  | .kycGte _ owlRoot threshold => [wordArg owlRoot, .bigint threshold.toNat]
  | .ageGte _ owlRoot threshold asOfYmd =>
    [wordArg owlRoot, .bigint threshold.toNat, .bigint asOfYmd.toNat]
  | .ageRange _ owlRoot minAge maxAge asOfYmd =>
    [wordArg owlRoot, .bigint minAge.toNat, .bigint maxAge.toNat, .bigint asOfYmd.toNat]
  | .nationalityIn _ owlRoot setHash | .residencyIn _ owlRoot setHash =>
    [wordArg owlRoot, wordArg setHash]
  | .emailVerified _ owlRoot => [wordArg owlRoot]

def personhoodArgs (call : PersonhoodCall) : List CircuitArg :=
  [wordArg call.owlRoot, wordArg call.epoch, wordArg call.appId]

/-! ## Words -/

theorem wordArg_inj {bytes : Bytes} {word : Bytes32} (same : wordArg word = .bytes bytes) :
    bytes = word.toList := by
  rw [wordArg, CircuitArg.bytes.injEq] at same
  exact same.symm

theorem wordArg_wordArg {word word' : Bytes32} (same : wordArg word = .bytes word'.toList) :
    word = word' := by
  exact Vector.toList_inj.mp (wordArg_inj same).symm

theorem parseHexPairs_length (cs : List Char) : (parseHexPairs cs).length = cs.length / 2 := by
  induction cs using parseHexPairs.induct with
  | case1 a b rest ih =>
    simp only [parseHexPairs, List.length_cons, ih]
    omega
  | case2 cs short =>
    rcases cs with _ | ⟨a, _ | ⟨b, rest⟩⟩
    · rfl
    · simp [parseHexPairs]
    · exact absurd rfl (short a b rest)

/-- Stripping leaves a text alone or shortens it by two characters or more. -/
theorem dropPairs_cases (cs : List Char) :
    dropPairs '0' 'x' cs = cs ∨ (dropPairs '0' 'x' cs).length + 2 ≤ cs.length := by
  induction cs using dropPairs.induct '0' 'x' with
  | case1 a b rest stripped ih =>
    right
    rw [dropPairs, if_pos stripped]
    rcases ih with same | shorter
    · rw [same]
      rfl
    · simp only [List.length_cons]
      omega
  | case2 a b rest other =>
    left
    rw [dropPairs, if_neg other]
  | case3 cs short =>
    left
    rcases cs with _ | ⟨a, _ | ⟨b, rest⟩⟩
    · rfl
    · rfl
    · exact absurd rfl (short a b rest)

theorem dropPairs_mem {cs : List Char} {c : Char} (member : c ∈ cs) :
    c ∈ dropPairs '0' 'x' cs ∨ c = '0' ∨ c = 'x' := by
  induction cs using dropPairs.induct '0' 'x' with
  | case1 a b rest stripped ih =>
    rw [dropPairs, if_pos stripped]
    rcases List.mem_cons.mp member with rfl | member
    · exact .inr (.inl stripped.1)
    · rcases List.mem_cons.mp member with rfl | member
      · exact .inr (.inr stripped.2)
      · exact ih member
  | case2 a b rest other =>
    rw [dropPairs, if_neg other]
    exact .inl member
  | case3 cs short =>
    rcases cs with _ | ⟨a, _ | ⟨b, rest⟩⟩
    · exact .inl member
    · exact .inl member
    · exact absurd rfl (short a b rest)

/-- The lenient reader keeps a `0x` that the strict one strips, so a text both read as 32 bytes
    has none, and they read the same. -/
theorem word_agrees {text : String} {word word' : Bytes32} (read : hexToBytes text = word.toList)
    (decoded : hexDecode (trimStart0x text) = some word'.toList) : word = word' := by
  rcases dropPairs_cases text.toList with same | shorter
  · rw [trimStart0x, same, String.ofList_toList] at decoded
    exact Vector.toList_inj.mp (read.symm.trans (hexToBytes_of_decode decoded))
  · exfalso
    rw [hexDecode, trimStart0x, String.toList_ofList] at decoded
    have ascii : ∀ c ∈ text.toList, c.toNat < 128 := by
      intro c member
      rcases dropPairs_mem member with kept | rfl | rfl
      · exact (parseHexPairs_of_decode decoded).2 c kept
      · decide
      · decide
    have digits := hexDecodeChars_length decoded
    have lengths := congrArg List.length read
    rw [hexToBytes, utf16Units_of_ascii ascii, parseHexPairs_length] at lengths
    simp only [Vector.length_toList] at lengths digits
    omega

/-! ## Numbers -/

theorem roundDouble_of_lt {n : Nat} (small : n < 2 ^ 53) : roundDouble n = n := by
  have narrow : n.log2 ≤ 52 := by
    by_cases zero : n = 0
    · simp [zero]
    · have exponent := (Nat.log2_lt zero).mpr small
      omega
  rw [roundDouble_eq_self_iff, IsDouble, ulp, show n.log2 - 52 = 0 by omega]
  exact Nat.one_dvd n

/-- What is rounded to an exact integer was one. -/
theorem roundDouble_small {n : Nat} (small : roundDouble n < 2 ^ 53) : roundDouble n = n := by
  by_cases narrow : n < 2 ^ 53
  · exact roundDouble_of_lt narrow
  · exfalso
    have positive : n ≠ 0 := by omega
    have exponent : 53 ≤ n.log2 := (Nat.le_log2 positive).mpr (by omega)
    have low : 2 ^ 52 * ulp n ≤ n := by
      rw [ulp, ← Nat.pow_add, show 52 + (n.log2 - 52) = n.log2 by omega]
      exact Nat.log2_self_le positive
    have quotient : 2 ^ 52 ≤ n / ulp n := (Nat.le_div_iff_mul_le (ulp_pos n)).mpr low
    have wide : 2 ≤ ulp n := by
      calc 2 = 2 ^ 1 := rfl
        _ ≤ 2 ^ (n.log2 - 52) := Nat.pow_le_pow_right (by omega) (by omega)
    have up : n / ulp n ≤ nearestEven n (ulp n) := by
      rcases nearestEven_cases n (ulp_pos n) with same | ⟨same, _⟩ <;> omega
    have whole : 2 ^ 52 * 2 ≤ nearestEven n (ulp n) * ulp n :=
      Nat.mul_le_mul (quotient.trans up) wide
    rw [roundDouble] at small
    omega

theorem uintBytes_eq {n : Nat} (fits : n < 2 ^ 128) : uintBytes n = ProofSystem.u128Le32 n := by
  rw [uintBytes, ProofSystem.u128Le32, Nat.mod_eq_of_lt fits]

theorem uintBytes_eq16 {n : Nat} (fits : n < 2 ^ 16) : uintBytes n = ProofSystem.u16Le32 n := by
  rw [uintBytes, ProofSystem.u16Le32, Nat.mod_eq_of_lt fits]

theorem key_eq_keyOf (H : Hashes) (tag : String) (root param : Bytes32) :
    ProofSystem.key H tag root param = keyOf H (pad32 tag) root param := rfl

/-! ## Country sets -/

theorem countryCode_of_mem {codes : List String} {code : String}
    (member : code ∈ canonicaliseCountries codes) : countryCode code = some code := by
  obtain ⟨raw, _, read⟩ := mem_canonicaliseCountries.mp member
  have upper := (countryCode_eq_some.mp read).2
  have ascii := isUpperAlpha2_ascii upper
  have plain : ∀ c ∈ code.toList, isOddSpace c = false := by
    intro c held
    have small := ascii c held
    simp only [isOddSpace, Bool.or_eq_false_iff, beq_eq_false_iff_ne]
    omega
  have trimmed : jsTrim code = code := by
    rw [jsTrim_eq plain]
    have canonical := (canonicalCode_eq_some.mp (canonicalCode_of_mem member)).1
    have letters : ∀ c ∈ code.toList, isWhitespace c = false := by
      intro c held
      have bounds := (isAlpha2_eq_true (alpha2_of_mem member)).2 c held
      exact isWhitespace_visible bounds.2 (by omega)
    exact trimBy_of_none letters
  rw [countryCode_eq_some, trimmed, toUpperCase_ascii ascii, toAsciiUppercase_of_upper upper]
  exact ⟨rfl, upper⟩

theorem canonicaliseCountries_idempotent (codes : List String) :
    canonicaliseCountries (canonicaliseCountries codes) = canonicaliseCountries codes := by
  apply eq_of_sorted_members (canonicaliseCountries_pairwise _) (canonicaliseCountries_pairwise _)
    (canonicaliseCountries_nodup _) (canonicaliseCountries_nodup _)
  intro code
  rw [mem_canonicaliseCountries]
  constructor
  · rintro ⟨text, member, read⟩
    rw [countryCode_of_mem member] at read
    exact Option.some.inj read ▸ member
  · intro member
    exact ⟨code, member, countryCode_of_mem member⟩

/-- The set hash of the wallet is the server's, where both read the same codes. -/
theorem computeSetHash_agrees {H : Hashes} {verifierId : String} {countries : List String}
    {setHash : Bytes32} (matched : Matched countries)
    (hashed : computeSetHash H (verifierIdHash H verifierId) (canonicaliseCountries countries) =
      .ok setHash) :
    setHash = ProofSystem.allowedCountrySetHash H verifierId countries := by
  rw [computeSetHash] at hashed
  split at hashed
  · cases hashed
  · cases built : buildAllowedSetTree (canonicaliseCountries countries) with
    | none => simp [built] at hashed
    | some leaves =>
      simp only [built, Except.ok.injEq] at hashed
      rw [← hashed, (buildAllowedSetTree_eq_some built).1, canonicaliseCountries_idempotent,
        canonicaliseCountries_eq_iff.mpr matched]
      rfl

/-! ## Tuples of queries -/

/-- What the wallet must ensure for a predicate. -/
def tupleOf (verifierId : String) : OwlPredicate → AttestTuple
  | .ageGte threshold => .age (roundDouble threshold.toNat)
  | .ageRange min max => .ageRange min.toNat max.toNat
  | .kycGte threshold => .kyc (roundDouble threshold.toNat)
  | .nationalityIn countries => .nationality (canonicaliseCountries countries) verifierId
  | .residencyIn countries => .residency (canonicaliseCountries countries) verifierId
  | .emailVerified => .emailVerified
  | .uniquePersonhood epoch appId => .uniquePersonhood epoch appId verifierId

theorem tuple_of_required {query : DcqlCredentialQuery} {predicate : OwlPredicate}
    {verifierId : String} {r : RequiredAttestation} {tuple : AttestTuple}
    (asks : query.owlPredicate = some predicate)
    (required : r ∈ requiredAttestationsFor query (some verifierId))
    (named : r.tuple = some tuple) : tuple = tupleOf verifierId predicate := by
  rw [requiredAttestationsFor, readOwlPredicate, asks] at required
  cases predicate with
  | ageGte threshold | ageRange min max | kycGte threshold | emailVerified =>
    obtain rfl := List.mem_singleton.mp required
    exact (Option.some.inj named).symm
  | nationalityIn countries | residencyIn countries =>
    obtain rfl := List.mem_singleton.mp required
    obtain ⟨other, given, same⟩ := Option.bind_eq_some_iff.mp named
    obtain rfl := Option.some.inj (truthy_eq_some.mp given).1
    exact (Option.some.inj same).symm
  | uniquePersonhood epoch appId =>
    obtain rfl := List.mem_singleton.mp required
    obtain ⟨first, hfirst, rest⟩ := Option.bind_eq_some_iff.mp named
    obtain ⟨second, hsecond, rest⟩ := Option.bind_eq_some_iff.mp rest
    obtain ⟨third, hthird, same⟩ := Option.bind_eq_some_iff.mp rest
    obtain rfl := Option.some.inj (truthy_eq_some.mp hfirst).1
    obtain rfl := Option.some.inj (truthy_eq_some.mp hsecond).1
    obtain rfl := Option.some.inj (truthy_eq_some.mp hthird).1
    exact (Option.some.inj same).symm

/-! ## One key -/

def kindOf : OwlPredicate → PredicateKind
  | .ageGte _ => .age
  | .ageRange .. => .ageRange
  | .kycGte _ => .kyc
  | .nationalityIn _ => .nationality
  | .residencyIn _ => .residency
  | .emailVerified => .email
  | .uniquePersonhood .. => .personhood

theorem contractKind_injective : Function.Injective contractKind := by
  intro kind kind' same
  cases kind <;> cases kind' <;> first | rfl | cases same

/-- Country entries without characters that only one side trims or folds, and a campaign without
    a leading `0x`, which only the server strips. -/
def Spelled : OwlPredicate → Prop
  | .nationalityIn countries | .residencyIn countries => Matched countries
  | .uniquePersonhood _ appId => trimStart0x appId = appId
  | _ => True

/-- An age is proved as of the first of a month; the server checks against the current one. -/
def AsOf (now : UtcMonth) (call : CircuitCall) : Prop :=
  call.kind = .age ∨ call.kind = .ageRange →
    call.args.getLast? = some (.bigint (currentAgeEpoch now))

section

variable {H : Hashes} {now : UtcMonth} {verifierId owlRoot : String} {anchor key : Bytes32}
  {call : CircuitCall}

theorem key_of_kyc {c : AttestCall .kyc} {threshold : UInt64}
    (recorded : RecordedBy H owlRoot call (.kyc (roundDouble threshold.toNat)))
    (args : publicArgs c = call.args)
    (anchored : hexDecode (trimStart0x owlRoot) = some anchor.toList) :
    c.key H = ProofSystem.kycKey H anchor threshold.toNat := by
  cases c with
  | kycGte w root bound =>
    rw [recorded.2] at args
    simp only [publicArgs, List.cons.injEq, CircuitArg.bigint.injEq, and_true] at args
    obtain ⟨sameRoot, sameBound⟩ := args
    obtain rfl := word_agrees (wordArg_inj sameRoot) anchored
    have small := bound.toNat_lt
    have exact : roundDouble threshold.toNat = threshold.toNat := roundDouble_small (by omega)
    rw [← exact, ← sameBound]
    rw [AttestCall.key, ProofSystem.kycKey, key_eq_keyOf, ← uintBytes_eq (by omega)]
    rfl

theorem key_of_age {c : AttestCall .age} {threshold : UInt64}
    (recorded : RecordedBy H owlRoot call (.age (roundDouble threshold.toNat)))
    (args : publicArgs c = call.args)
    (anchored : hexDecode (trimStart0x owlRoot) = some anchor.toList) (asOf : AsOf now call) :
    c.key H = ProofSystem.ageKey H anchor threshold.toNat (currentAgeEpoch now) := by
  cases c with
  | ageGte w root bound asOfYmd =>
    obtain ⟨kind, today, made⟩ := recorded
    have last := asOf (.inl kind)
    rw [← args] at last
    rw [made] at args
    simp only [publicArgs, List.cons.injEq, CircuitArg.bigint.injEq, and_true] at args
    obtain ⟨sameRoot, sameBound, _⟩ := args
    simp only [publicArgs, List.getLast?_cons_cons, List.getLast?_singleton, Option.some.injEq,
      CircuitArg.bigint.injEq] at last
    obtain rfl := word_agrees (wordArg_inj sameRoot) anchored
    have small := bound.toNat_lt
    have small' := asOfYmd.toNat_lt
    have exact : roundDouble threshold.toNat = threshold.toNat := roundDouble_small (by omega)
    rw [← exact, ← sameBound, ← last]
    rw [AttestCall.key, ProofSystem.ageKey, key_eq_keyOf, hashPair, ← uintBytes_eq (by omega),
      ← uintBytes_eq (by omega)]
    rfl

theorem key_of_ageRange {c : AttestCall .ageRange} {min max : UInt32}
    (recorded : RecordedBy H owlRoot call (.ageRange min.toNat max.toNat))
    (args : publicArgs c = call.args)
    (anchored : hexDecode (trimStart0x owlRoot) = some anchor.toList) (asOf : AsOf now call) :
    c.key H =
      ProofSystem.ageRangeKey H anchor (min.toNat % 2 ^ 16) (max.toNat % 2 ^ 16)
        (currentAgeEpoch now) := by
  cases c with
  | ageRange w root low high asOfYmd =>
    obtain ⟨kind, today, made⟩ := recorded
    have last := asOf (.inr kind)
    rw [← args] at last
    rw [made] at args
    simp only [publicArgs, List.cons.injEq, CircuitArg.bigint.injEq, and_true] at args
    obtain ⟨sameRoot, sameLow, sameHigh, _⟩ := args
    simp only [publicArgs, List.getLast?_cons_cons, List.getLast?_singleton, Option.some.injEq,
      CircuitArg.bigint.injEq] at last
    obtain rfl := word_agrees (wordArg_inj sameRoot) anchored
    have small := low.toNat_lt
    have small' := high.toNat_lt
    have small'' := asOfYmd.toNat_lt
    rw [Nat.mod_eq_of_lt (by omega), Nat.mod_eq_of_lt (by omega), ← sameLow, ← sameHigh, ← last]
    rw [AttestCall.key, ProofSystem.ageRangeKey, key_eq_keyOf, ← uintBytes_eq16 (by omega),
      ← uintBytes_eq16 (by omega), ← uintBytes_eq (by omega)]
    rfl

theorem key_of_country {c : AttestCall .nationality} {countries : List String}
    (recorded : RecordedBy H owlRoot call
      (.nationality (canonicaliseCountries countries) verifierId))
    (args : publicArgs c = call.args)
    (anchored : hexDecode (trimStart0x owlRoot) = some anchor.toList)
    (matched : Matched countries) :
    c.key H = ProofSystem.nationalityKey H anchor verifierId countries := by
  cases c with
  | nationalityIn w root setHash =>
    obtain ⟨_, setHash', hashed, made⟩ := recorded
    rw [made] at args
    simp only [publicArgs, List.cons.injEq, and_true] at args
    obtain rfl := word_agrees (wordArg_inj args.1) anchored
    obtain rfl := wordArg_wordArg args.2
    rw [computeSetHash_agrees matched hashed]
    rfl

theorem key_of_residence {c : AttestCall .residency} {countries : List String}
    (recorded : RecordedBy H owlRoot call
      (.residency (canonicaliseCountries countries) verifierId))
    (args : publicArgs c = call.args)
    (anchored : hexDecode (trimStart0x owlRoot) = some anchor.toList)
    (matched : Matched countries) :
    c.key H = ProofSystem.residencyKey H anchor verifierId countries := by
  cases c with
  | residencyIn w root setHash =>
    obtain ⟨_, setHash', hashed, made⟩ := recorded
    rw [made] at args
    simp only [publicArgs, List.cons.injEq, and_true] at args
    obtain rfl := word_agrees (wordArg_inj args.1) anchored
    obtain rfl := wordArg_wordArg args.2
    rw [computeSetHash_agrees matched hashed]
    rfl

theorem key_of_email {c : AttestCall .email} (recorded : RecordedBy H owlRoot call .emailVerified)
    (args : publicArgs c = call.args)
    (anchored : hexDecode (trimStart0x owlRoot) = some anchor.toList) :
    c.key H = ProofSystem.emailVerifiedKey H anchor := by
  cases c with
  | emailVerified w root =>
    rw [recorded.2] at args
    simp only [publicArgs, List.cons.injEq, and_true] at args
    obtain rfl := word_agrees (wordArg_inj args) anchored
    rw [AttestCall.key, ProofSystem.emailVerifiedKey, key_eq_keyOf, ← pad32_empty]
    rfl

theorem key_of_personhood {c : PersonhoodCall} {epoch appId : String} {epochWord campaign : Bytes32}
    (recorded : RecordedBy H owlRoot call (.uniquePersonhood epoch appId verifierId))
    (args : personhoodArgs c = call.args)
    (anchored : hexDecode (trimStart0x owlRoot) = some anchor.toList)
    (epochRead : decodeHex32 epoch = .ok epochWord) (appRead : decodeHex32 appId = .ok campaign)
    (spelled : trimStart0x appId = appId) :
    c.key H = ProofSystem.uniquePersonhoodKey H anchor epochWord
      (personhoodAppId H verifierId campaign) := by
  simp only [decodeHex32, bind_eq_ok, okOr_eq_ok, tryInto32_eq_some] at epochRead appRead
  obtain ⟨_, epochHex, rfl⟩ := epochRead
  obtain ⟨_, appHex, rfl⟩ := appRead
  rw [recorded.2] at args
  simp only [personhoodArgs, List.cons.injEq, and_true] at args
  have sameRoot := word_agrees (wordArg_inj args.1) anchored
  have sameEpoch := word_agrees (wordArg_inj args.2.1) epochHex
  have sameApp := wordArg_wordArg args.2.2
  rw [spelled] at appHex
  rw [effectiveAppId, hexToBytes_of_decode appHex, Verification.padBytes_toList] at sameApp
  rw [PersonhoodCall.key, PersonhoodCall.param, sameRoot, sameEpoch, sameApp]
  rfl

theorem kind_of_recorded {predicate : OwlPredicate}
    (recorded : RecordedBy H owlRoot call (tupleOf verifierId predicate)) :
    call.kind = kindOf predicate := by
  cases predicate <;> exact recorded.1

/-- The key of a call on any of the six contracts. -/
theorem key_of_call {predicate : OwlPredicate} {kind : Kind} {c : AttestCall kind}
    (recorded : RecordedBy H owlRoot call (tupleOf verifierId predicate))
    (sameKind : contractKind kind = call.kind) (args : publicArgs c = call.args)
    (anchored : hexDecode (trimStart0x owlRoot) = some anchor.toList)
    (spelled : Spelled predicate) (asOf : AsOf now call)
    (recipe : predicate.recipe H now verifierId anchor = some key) : c.key H = key := by
  have here := sameKind.trans (kind_of_recorded recorded)
  cases predicate with
  | kycGte threshold =>
    obtain rfl : kind = .kyc := contractKind_injective here
    exact (key_of_kyc recorded args anchored).trans (Option.some.inj recipe)
  | ageGte threshold =>
    obtain rfl : kind = .age := contractKind_injective here
    exact (key_of_age recorded args anchored asOf).trans (Option.some.inj recipe)
  | ageRange min max =>
    obtain rfl : kind = .ageRange := contractKind_injective here
    exact (key_of_ageRange recorded args anchored asOf).trans (Option.some.inj recipe)
  | nationalityIn countries =>
    obtain rfl : kind = .nationality := contractKind_injective here
    exact (key_of_country recorded args anchored spelled).trans (Option.some.inj recipe)
  | residencyIn countries =>
    obtain rfl : kind = .residency := contractKind_injective here
    exact (key_of_residence recorded args anchored spelled).trans (Option.some.inj recipe)
  | emailVerified =>
    obtain rfl : kind = .email := contractKind_injective here
    exact (key_of_email recorded args anchored).trans (Option.some.inj recipe)
  | uniquePersonhood epoch appId => cases kind <;> cases here

/-- The key of a call on the personhood contract. -/
theorem key_of_personhoodCall {predicate : OwlPredicate} {c : PersonhoodCall}
    (recorded : RecordedBy H owlRoot call (tupleOf verifierId predicate))
    (sameKind : call.kind = .personhood) (args : personhoodArgs c = call.args)
    (anchored : hexDecode (trimStart0x owlRoot) = some anchor.toList)
    (spelled : Spelled predicate)
    (recipe : predicate.recipe H now verifierId anchor = some key) : c.key H = key := by
  have here := sameKind.symm.trans (kind_of_recorded recorded)
  cases predicate with
  | uniquePersonhood epoch appId =>
    simp only [OwlPredicate.recipe, Option.bind_eq_bind, Option.bind_eq_some_iff,
      Verification.toOption_eq_some, Option.pure_def, Option.some.injEq] at recipe
    obtain ⟨epochWord, epochRead, campaign, appRead, rfl⟩ := recipe
    exact key_of_personhood recorded args anchored epochRead appRead spelled
  | _ => cases here

/-! ## Ledgers -/

theorem anchored_of_root (rooted : Verification.owlRootAnchor (some owlRoot) = some anchor) :
    hexDecode (trimStart0x owlRoot) = some anchor.toList := by
  simpa [Verification.owlRootAnchor, Option.bind_eq_some_iff, tryInto32_eq_some] using rooted

/-- A recorded key stays recorded. -/
theorem run_keeps {kind : Kind} {ledger : Ledger} (held : key ∈ ledger.log.attestations)
    (txs : List (Transaction kind)) :
    key ∈ (Runs.run (Ledger.step H) ledger txs).log.attestations := by
  refine Runs.run_invariant (fun state : Ledger => key ∈ state.log.attestations) held ?_ txs
  intro state tx before
  rcases step_cases (H := H) state tx with unchanged | ⟨_, _, _, recorded⟩
  · rwa [unchanged]
  · rw [Attestations.record_attestations recorded]
    exact Finset.mem_insert_of_mem before

theorem personhood_run_keeps {ledger : PersonhoodLedger} (held : key ∈ ledger.log.attestations)
    (txs : List PersonhoodTransaction) :
    key ∈ (Runs.run (PersonhoodLedger.step H) ledger txs).log.attestations := by
  refine Runs.run_invariant (fun state : PersonhoodLedger => key ∈ state.log.attestations) held
    ?_ txs
  intro state tx before
  rcases personhood_step_cases (H := H) state tx with
    ⟨_, unchanged, _⟩ | ⟨_, _, _, _, _, _, recorded⟩
  · rwa [unchanged]
  · rw [Attestations.record_attestations recorded]
    exact Finset.mem_insert_of_mem before

theorem personhood_recorded {ledger : PersonhoodLedger} {tx : PersonhoodTransaction}
    {c : PersonhoodCall} (called : tx.call = .attest c)
    (accepted : (tx.execute H ledger).isOk = true) :
    c.key H ∈ (ledger.step H tx).log.attestations := by
  rw [PersonhoodLedger.step]
  cases outcome : tx.execute H ledger with
  | error message => simp [outcome, Except.isOk, Except.toBool] at accepted
  | ok ledger' =>
    rw [PersonhoodTransaction.execute, called] at outcome
    obtain ⟨_, _, _, recorded⟩ := attestUniquePersonhood_returns outcome
    rw [Attestations.record_attestations recorded]
    exact Finset.mem_insert_self _ _

end

/-- The server looks for the key of a required entry where the contract of the wallet's call
    records it: a transaction with the public arguments the wallet assembled, once its circuit
    accepts, records that very key, and no later transaction removes it. -/
theorem landed_keys_are_checked (H : Hashes) (now : UtcMonth) (query : DcqlCredentialQuery)
    (predicate : OwlPredicate) (vct credIdHex owlRoot verifierId : String) (ak : AttestKey)
    (r : RequiredAttestation) (tuple : AttestTuple) (call : CircuitCall)
    (asks : query.owlPredicate = some predicate)
    (derived : deriveAttestKey H now query vct credIdHex (some owlRoot) verifierId = .ok ak)
    (required : r ∈ requiredAttestationsFor query (some verifierId))
    (named : r.tuple = some tuple) (recorded : RecordedBy H owlRoot call tuple)
    (spelled : Spelled predicate) (asOf : AsOf now call) :
    ak.kind = call.kind.path ∧ ∃ key, ak.keyHex = hexEncode (Vector.toList key) ∧
      (∀ (kind : Kind) (tx : Transaction kind) (c : AttestCall kind) (ledger : Ledger)
        (later : List (Transaction kind)), contractKind kind = call.kind → tx.call = .attest c →
        publicArgs c = call.args → (tx.execute H ledger).isOk = true →
        key ∈ (Runs.run (Ledger.step H) ledger (tx :: later)).log.attestations) ∧
      ∀ (tx : PersonhoodTransaction) (c : PersonhoodCall) (ledger : PersonhoodLedger)
        (later : List PersonhoodTransaction), call.kind = .personhood → tx.call = .attest c →
        personhoodArgs c = call.args → (tx.execute H ledger).isOk = true →
        key ∈ (Runs.run (PersonhoodLedger.step H) ledger (tx :: later)).log.attestations := by
  obtain ⟨_, _, _, _, predicate', key, asks', derived, hex⟩ :=
    (Verification.deriveAttestKey_eq_ok H now).mp derived
  obtain rfl := Option.some.inj (asks.symm.trans asks')
  obtain ⟨_, ⟨anchor, rooted, recipe⟩, kind⟩ := Verification.predicateKey_eq_ok.mp derived
  have anchored := anchored_of_root rooted
  obtain rfl := tuple_of_required asks required named
  refine ⟨?_, key, hex, ?_, ?_⟩
  · rw [← kind, kind_of_recorded recorded]
    cases predicate <;> rfl
  · intro kind tx c ledger later sameKind called args accepted
    have same := key_of_call recorded sameKind args anchored spelled asOf recipe
    rw [← same]
    exact run_keeps (recorded_of_accepted called accepted) later
  · intro tx c ledger later sameKind called args accepted
    have same := key_of_personhoodCall recorded sameKind args anchored spelled recipe
    rw [← same]
    exact personhood_run_keeps (personhood_recorded called accepted) later

/-! ### The verification level of a sample credential -/

def sampleKycCall : CircuitCall where
  kind := .kyc
  circuitId := "attestKycGte"
  args := [.bytes (hexToBytes (hexEncode sampleRoot.toList)), .bigint 2]
  witness :=
    ⟨.kycLevel 3, none, salt32For sampleHashes "salt one", lonePath sampleHashes sampleLeaf⟩

theorem sample_accepted : (sampleTransaction.execute sampleHashes sampleLedger).isOk = true := by
  decide +kernel

theorem landed_keys_are_checked_at_sample :
    ∃ key, key ∈ (Runs.run (Ledger.step sampleHashes) sampleLedger
      [sampleTransaction]).log.attestations ∧
      deriveAttestKey sampleHashes ⟨2022, 3⟩ (Verification.bareQuery (.kycGte 2)) ""
        (hexEncode zero32.toList) (some (hexEncode sampleRoot.toList)) "shop" =
          .ok ⟨hexEncode (Vector.toList key), "kyc"⟩ := by
  have derived := @Verification.deriveAttestKey_bareQuery sampleHashes ⟨2022, 3⟩ (.kycGte 2) _
    zero32 sampleRoot "shop" (by decide) rfl
  obtain ⟨_, key, hex, landed, _⟩ := landed_keys_are_checked sampleHashes ⟨2022, 3⟩ _ (.kycGte 2) ""
    (hexEncode zero32.toList) (hexEncode sampleRoot.toList) "shop" _ _ (.kyc 2) sampleKycCall rfl
    derived (List.mem_singleton_self _) rfl ⟨rfl, rfl⟩ trivial (by rintro (h | h) <;> cases h)
  refine ⟨key, landed .kyc sampleTransaction _ sampleLedger [] rfl rfl ?_ sample_accepted, ?_⟩
  · rw [sampleKycCall, hexToBytes_hexEncode]
    rfl
  · rw [derived, ← hex]
    rfl

/-! ## Questions -/

/-- The request that carries a question to the service: a number in it is read as the number that
    was written, if it is exact. -/
structure Carries (req : Verification.CheckPredicateRequest) (q : AttestQuery) : Prop where
  credentialId : req.credentialId = q.rootHash
  owlRoot : req.owlRoot = some q.owlRoot
  predicate : req.predicate = q.predicate
  threshold : ∀ t, q.threshold = some t → t < 2 ^ 53 → req.threshold.map UInt64.toNat = some t
  minAge : ∀ t, q.minAge = some t → req.minAge.map UInt16.toNat = some t
  maxAge : ∀ t, q.maxAge = some t → req.maxAge.map UInt16.toNat = some t
  epoch : req.epoch = q.epoch
  appId : req.appId = q.appId
  countries : req.countries = q.countries
  verifierId : req.verifierId = q.verifierId

/-- The predicate as the question puts it. -/
def asked : OwlPredicate → OwlPredicate
  | .nationalityIn countries => .nationalityIn (canonicaliseCountries countries)
  | .residencyIn countries => .residencyIn (canonicaliseCountries countries)
  | predicate => predicate

/-- A tuple names its fields. -/
theorem fields_of_tuple {q : AttestQuery} {verifierId : String} {predicate : OwlPredicate}
    (same : q.tuple = some (tupleOf verifierId predicate)) :
    (match predicate with
      | .ageGte threshold =>
        q.predicate = "age" ∧ q.threshold = some (roundDouble threshold.toNat)
      | .ageRange min max =>
        q.predicate = "age_range" ∧ q.minAge = some min.toNat ∧ q.maxAge = some max.toNat
      | .kycGte threshold =>
        q.predicate = "kyc" ∧ q.threshold = some (roundDouble threshold.toNat)
      | .nationalityIn countries => q.predicate = "nationality" ∧
        q.countries = some (canonicaliseCountries countries) ∧ q.verifierId = some verifierId
      | .residencyIn countries => q.predicate = "residency" ∧
        q.countries = some (canonicaliseCountries countries) ∧ q.verifierId = some verifierId
      | .emailVerified => q.predicate = "email_verified"
      | .uniquePersonhood epoch appId => q.predicate = "unique_personhood" ∧
        q.epoch = some epoch ∧ q.appId = some appId ∧ q.verifierId = some verifierId) := by
  rw [AttestQuery.tuple, RequiredAttestation.named] at same
  split at same <;> cases predicate <;>
    simp_all [tupleOf, Option.bind_eq_some_iff, truthy_eq_some]

section

variable {req : Verification.CheckPredicateRequest} {q : AttestQuery} {verifierId : String}
  {predicate : OwlPredicate}

/-- The request asks for the predicate of the question. -/
theorem expresses_of_carried (carried : Carries req q)
    (same : q.tuple = some (tupleOf verifierId predicate)) (fits : predicate.Representable) :
    Verification.Expresses req (asked predicate) := by
  have fields := fields_of_tuple same
  have number {n : UInt64} (small : n.toNat < 2 ^ 16)
      (given : q.threshold = some (roundDouble n.toNat)) : req.threshold = some n := by
    rw [roundDouble_of_lt (by omega)] at given
    obtain ⟨read, sent, value⟩ :=
      Option.map_eq_some_iff.mp (carried.threshold _ given (by omega))
    rw [sent, UInt64.toNat_inj.mp value]
  have bound {n : UInt32} {field : Option UInt16} (given : field.map UInt16.toNat = some n.toNat) :
      field.map UInt16.toUInt32 = some n := by
    obtain ⟨read, sent, value⟩ := Option.map_eq_some_iff.mp given
    rw [sent, Option.map_some, Option.some.injEq, ← UInt32.toNat_inj, UInt16.toNat_toUInt32, value]
  cases predicate with
  | ageGte threshold =>
    exact ⟨carried.predicate.trans fields.1, number fits fields.2⟩
  | kycGte threshold =>
    exact ⟨carried.predicate.trans fields.1, number (lt_trans fits (by decide)) fields.2⟩
  | ageRange min max =>
    exact ⟨carried.predicate.trans fields.1, bound (carried.minAge _ fields.2.1),
      bound (carried.maxAge _ fields.2.2)⟩
  | nationalityIn countries | residencyIn countries =>
    exact ⟨carried.predicate.trans fields.1, carried.countries.trans fields.2.1⟩
  | emailVerified => exact carried.predicate.trans fields
  | uniquePersonhood epoch appId =>
    exact ⟨carried.predicate.trans fields.1, carried.epoch.trans fields.2.1,
      carried.appId.trans fields.2.2.1⟩

theorem verifier_of_carried (carried : Carries req q)
    (same : q.tuple = some (tupleOf verifierId predicate))
    (bound : predicate.verifierBound = true) : req.verifierId.getD "" = verifierId := by
  have fields := fields_of_tuple same
  rw [carried.verifierId]
  cases predicate with
  | nationalityIn countries | residencyIn countries => rw [fields.2.2, Option.getD_some]
  | uniquePersonhood epoch appId => rw [fields.2.2.2, Option.getD_some]
  | _ => cases bound

/-- Asking for the canonical list is asking for the list. -/
theorem recipe_asked {H : Hashes} {now : UtcMonth} {anchor : Bytes32}
    {verifierId' : String} (matched : ∀ countries, predicate = .nationalityIn countries ∨
      predicate = .residencyIn countries → Matched countries)
    (bound : predicate.verifierBound = true → verifierId' = verifierId) :
    (asked predicate).recipe H now verifierId' anchor =
      predicate.recipe H now verifierId anchor := by
  have sets {countries : List String} (same : Matched countries) :
      ProofSystem.allowedCountrySetHash H verifierId (canonicaliseCountries countries) =
        ProofSystem.allowedCountrySetHash H verifierId countries := by
    rw [ProofSystem.allowedCountrySetHash, ProofSystem.allowedCountrySetHash,
      allowedCountryMerkleRoot, allowedCountryMerkleRoot, canonicaliseCountries_canonical,
      canonicaliseCountries_eq_iff.mpr same]
  cases predicate with
  | nationalityIn countries =>
    rw [bound rfl, asked, OwlPredicate.recipe, OwlPredicate.recipe, ProofSystem.nationalityKey,
      sets (matched countries (.inl rfl)), ProofSystem.nationalityKey]
  | residencyIn countries =>
    rw [bound rfl, asked, OwlPredicate.recipe, OwlPredicate.recipe, ProofSystem.residencyKey,
      sets (matched countries (.inr rfl)), ProofSystem.residencyKey]
  | uniquePersonhood epoch appId =>
    rw [bound rfl]
    rfl
  | _ => rfl

end

/-- The service answers the wallet's question with the lookup that the verifier would make at that
    moment: the same key, of the same contract. -/
theorem asked_keys_are_checked (W : Verification.World) (attestations : Finset String)
    (query : DcqlCredentialQuery) (predicate : OwlPredicate) (vct credIdHex verifierId : String)
    (ak : AttestKey) (r : RequiredAttestation) (tuple : AttestTuple) (q : AttestQuery)
    (req : Verification.CheckPredicateRequest) (response : Verification.CheckPredicateResponse)
    (asks : query.owlPredicate = some predicate)
    (derived : deriveAttestKey W.hashes (Verification.utcMonth W.now) query vct credIdHex
      (some q.owlRoot) verifierId = .ok ak)
    (required : r ∈ requiredAttestationsFor query (some verifierId))
    (named : r.tuple = some tuple) (same : q.tuple = some tuple) (carried : Carries req q)
    (spelled : ∀ countries, predicate = .nationalityIn countries ∨
      predicate = .residencyIn countries → Matched countries)
    (fits : predicate.Representable)
    (answered : (Verification.checkPredicateAttested W attestations req).1 = .ok response) :
    response.attestKey = ak.keyHex ∧
      response.attested = (Verification.isAttested W attestations ak).1 := by
  obtain rfl := tuple_of_required asks required named
  obtain ⟨_, _, _, _, predicate', key, asks', derived, hex⟩ :=
    (Verification.deriveAttestKey_eq_ok _ _).mp derived
  obtain rfl := Option.some.inj (asks.symm.trans asks')
  obtain ⟨_, ⟨anchor, rooted, recipe⟩, kind⟩ := Verification.predicateKey_eq_ok.mp derived
  have expressed := expresses_of_carried carried same fits
  cases looked : Verification.checkPredicateKey W.hashes (Verification.utcMonth W.now) req with
  | error e => simp [Verification.checkPredicateAttested, looked] at answered
  | ok key' =>
    obtain ⟨_, _, _, anchor', rooted', recipe'⟩ :=
      (Verification.checkPredicateKey_eq_ok expressed).mp looked
    rw [carried.owlRoot, rooted] at rooted'
    obtain rfl := Option.some.inj rooted'
    rw [recipe_asked spelled (verifier_of_carried carried same), recipe] at recipe'
    obtain rfl := Option.some.inj recipe'
    rw [Verification.checkPredicateAttested_of_key expressed looked, Except.ok.injEq] at answered
    have path : (asked predicate).kind = predicate.kind := by cases predicate <;> rfl
    have here : ak = ⟨hexEncode key.toList, (asked predicate).kind⟩ := by
      rw [path, ← hex, kind]
    rw [← answered, here]
    exact ⟨rfl, rfl⟩

def sampleQuestion : AttestQuery where
  predicate := "kyc"
  rootHash := hexEncode sampleRoot.toList
  owlRoot := hexEncode sampleRoot.toList
  threshold := some 2
  minAge := none
  maxAge := none
  epoch := none
  appId := none
  countries := none
  verifierId := none

def sampleCheck : Verification.CheckPredicateRequest where
  credentialId := hexEncode sampleRoot.toList
  owlRoot := some (hexEncode sampleRoot.toList)
  predicate := "kyc"
  threshold := some 2
  minAge := none
  maxAge := none
  epoch := none
  appId := none
  countries := none
  verifierId := none

theorem sample_carries : Carries sampleCheck sampleQuestion where
  credentialId := rfl
  owlRoot := rfl
  predicate := rfl
  threshold t given _ := by
    obtain rfl := Option.some.inj given
    rfl
  minAge _ given := by cases given
  maxAge _ given := by cases given
  epoch := rfl
  appId := rfl
  countries := rfl
  verifierId := rfl

theorem asked_keys_are_checked_at_sample :
    ∃ response ak, (Verification.checkPredicateAttested (Verification.sampleWorld 1800000000) ∅
        sampleCheck).1 = .ok response ∧ response.attestKey = ak.keyHex ∧
      response.attested =
        (Verification.isAttested (Verification.sampleWorld 1800000000) ∅ ak).1 := by
  have expressed : Verification.Expresses sampleCheck (.kycGte 2) := ⟨rfl, rfl⟩
  have looked := (@Verification.checkPredicateKey_eq_ok (Verification.sampleWorld 1800000000).hashes
    (Verification.utcMonth (Verification.sampleWorld 1800000000).now) _ _ _ expressed).mpr
      ⟨⟨sampleRoot, by simp [sampleCheck]⟩, trivial, by decide, sampleRoot,
        Verification.owlRootAnchor_hexEncode sampleRoot, rfl⟩
  have answered := congrArg Prod.fst
    (@Verification.checkPredicateAttested_of_key _ ∅ _ _ _ expressed looked)
  have derived := @Verification.deriveAttestKey_bareQuery
    (Verification.sampleWorld 1800000000).hashes
    (Verification.utcMonth (Verification.sampleWorld 1800000000).now) (.kycGte 2) _ sampleRoot
    sampleRoot "shop" (by decide) rfl
  exact ⟨_, _, answered, asked_keys_are_checked (Verification.sampleWorld 1800000000) ∅ _
    (.kycGte 2) "" (hexEncode sampleRoot.toList) "shop" _ _ (.kyc 2) sampleQuestion sampleCheck _
    rfl derived (List.mem_singleton_self _) rfl rfl sample_carries
    (by rintro countries (h | h) <;> cases h) (show (2 : UInt64).toNat < 2 ^ 8 by decide) answered⟩

end OwlId.Sdk
