import Mathlib
import OwlId.Contracts.PredicateSoundness
import OwlId.Issuer.IssuedClaims
import OwlId.ProofSystem.SdJwtRoundTrip

/-! # Stamped predicates and committed claims

A stamp on a credential promises that the holder can prove the predicate: the claim
the circuit reads is a leaf under the signed root, with a value that satisfies the
circuit at the stamped parameter.  This module says exactly which attributes make
every stamp good.
-/

namespace OwlId.Issuer

open OwlId.Lib OwlId.ProofSystem OwlId.Contracts

/-! ## What is stamped -/

/-- The registry entry is in the list of available predicates. -/
def Available (calendar : Calendar) (attrs : ClaimMap) (pred : Predicate) : Prop :=
  (∃ v, getClaim attrs pred.attributeName = some v ∧ isMeaningful v = true) ∧
    supports calendar attrs pred = true

theorem mem_presentAttributes {attrs : ClaimMap} {name : String} :
    name ∈ presentAttributes attrs ↔ ∃ v, getClaim attrs name = some v ∧ isMeaningful v = true := by
  simp only [presentAttributes, List.mem_map, List.mem_filter, getClaim]
  constructor
  · rintro ⟨⟨k, v⟩, ⟨member, meaningful⟩, rfl⟩
    exact ⟨v, attrs.sorted.lookup_of_mem member, meaningful⟩
  · rintro ⟨v, found, meaningful⟩
    exact ⟨(name, v), ⟨Json.mem_of_lookup found, meaningful⟩, rfl⟩

theorem mem_stampsOf {calendar : Calendar} {attrs : ClaimMap} {personhood : Bool}
    {stamp : PredicateAttestation} :
    stamp ∈ stampsOf calendar attrs personhood ↔
      (∃ pred ∈ registry, Available calendar attrs pred ∧ stampFor attrs pred = some stamp) ∨
      (personhood = true ∧ stamp = { predicate := "unique_personhood" }) := by
  have flag : stamp ∈ (if personhood then [({ predicate := "unique_personhood" } :
      PredicateAttestation)] else []) ↔
      personhood = true ∧ stamp = { predicate := "unique_personhood" } := by
    cases personhood <;> simp
  rw [stampsOf, derivePredicateAttestations, List.mem_append, flag]
  apply or_congr_left
  simp only [deriveAvailablePredicates, forAttributes, List.filterMap_map, List.mem_filterMap,
    List.mem_filter, decide_eq_true_eq, mem_presentAttributes, Function.comp, Available]
  constructor
  · rintro ⟨pred, ⟨⟨member, present⟩, supported⟩, stamped⟩
    rw [lookupPredicate_of_mem member] at stamped
    exact ⟨pred, member, ⟨present, supported⟩, stamped⟩
  · rintro ⟨pred, member, ⟨present, supported⟩, stamped⟩
    exact ⟨pred, ⟨⟨member, present⟩, supported⟩, by rw [lookupPredicate_of_mem member]; exact stamped⟩

/-! ## What a stamp promises -/

/-- The claim the circuit of a stamped predicate reads. -/
def boundClaim : String → Option String
  | "kyc" => some "verification_level"
  | "age" | "age_range" => some "birthdate"
  | "email_verified" => some "email_verified"
  | "nationality" => some "nationality"
  | "residency" => some "residentCountry"
  | "unique_personhood" => some "personhoodSecret"
  | _ => none

section

variable (H : Hashes)

/-- The committed word satisfies the circuit at the stamped threshold or country.  An age stamp
pins no bound, so any word the circuit can open as a date will do. -/
def Satisfies (stamp : PredicateAttestation) (word : Bytes32) : Prop :=
  match stamp.predicate with
  | "kyc" => ∃ t, stamp.threshold = some t ∧ PredicateHolds H .kyc (uintBytes t) word
  | "age" | "age_range" => ∃ dob : UInt32, word = uintBytes dob.toNat
  | "email_verified" => PredicateHolds H .email zero32 word
  | "nationality" | "residency" =>
    ∃ country, stamp.country = some country ∧ word = padCountry country
  | "unique_personhood" => True
  | _ => False

/-- The bound claim of the stamp is a leaf under the root, with a value the circuit accepts. -/
def Provable (owlRoot : Bytes32) (entries : List ClaimEntry) (stamp : PredicateAttestation) :
    Prop :=
  ∃ entry ∈ entries, ∃ (word : Bytes32) (path : MerkleTreePath),
    boundClaim stamp.predicate = some entry.name ∧
    claimValue32 entry.name entry.value = some word ∧
    path.leaf = claimCommit H entry.name word (salt32For H entry.salt) ∧
    owlRoot = frToLeBytes32 (merkleTreePathRoot H path) ∧
    Satisfies H stamp word

/-- The text is a credential that discloses these entries and whose issuer signed this root. -/
def Signed (P : Primitives) (entries : List ClaimEntry) (owlRoot : Bytes32) (text : String) : Prop :=
  ∃ (vc : SdJwtVc) (p : IssueParams) (jwk : Json) (sd : List String),
    text = vc.serialize ∧ vc.disclosures = entries.map (entryDisclosure P) ∧
    jwsSign P issuerHeader (issuePayload p jwk sd owlRoot) p.issuer = .ok vc.jwt ∧
    owlRootForClaims H entries = some owlRoot

end

variable {H : Hashes}

/-- Every slot of a tree has a path to its root. -/
theorem exists_path {slots : List Bytes32} {leaf : Bytes32} (fits : slots.length ≤ countrySetSlots)
    (member : leaf ∈ slots) :
    ∃ path : MerkleTreePath, path.leaf = leaf ∧
      merkleTreePathRoot H path = merkleRootOf H slots := by
  obtain ⟨j, bound, rfl⟩ := List.mem_iff_getElem.mp member
  let leafAt := fun i => countryLeafFr H (slots.getD i zero32)
  refine ⟨⟨slots[j], ⟨(Merkle.pathTo (merkleNode H) merkleDepth leafAt j).toArray, by simp⟩⟩, rfl, ?_⟩
  have climbs := Merkle.pathRoot_pathTo (merkleNode H) merkleDepth leafAt j
  have start : leafAt j = countryLeafFr H slots[j] := by
    simp only [leafAt, List.getD_eq_getElem _ _ bound]
  have top : j / 2 ^ merkleDepth = 0 := Nat.div_eq_of_lt (lt_of_lt_of_le bound fits)
  rw [start, top] at climbs
  rw [merkleTreePathRoot, merkleRootOf_eq_treeRoot]
  exact climbs

theorem provable_iff {claims : ClaimMap} {salts : String → String} {owlRoot : Bytes32}
    {stamp : PredicateAttestation} {name : String}
    (root : owlRootForClaims H (issueEntries claims salts) = some owlRoot)
    (bound : boundClaim stamp.predicate = some name) :
    Provable H owlRoot (issueEntries claims salts) stamp ↔
      ∃ v word, getClaim claims name = some v ∧ claimValue32 name v = some word ∧
        Satisfies H stamp word := by
  constructor
  · rintro ⟨entry, member, word, path, named, committed, _, _, satisfied⟩
    obtain ⟨⟨k, v⟩, field, rfl⟩ := List.mem_map.mp member
    obtain rfl := Option.some.inj (bound.symm.trans named)
    exact ⟨v, word, claims.sorted.lookup_of_mem field, committed, satisfied⟩
  · rintro ⟨v, word, found, committed, satisfied⟩
    have member : (⟨name, salts name, v⟩ : ClaimEntry) ∈ issueEntries claims salts :=
      List.mem_map.mpr ⟨(name, v), Json.mem_of_lookup found, rfl⟩
    rw [owlRootForClaims, owlClaimsRoot] at root
    split at root
    · rename_i fits
      obtain ⟨path, leaf, climbs⟩ := exists_path (H := H) fits
        ((mem_claimLeaves H).mpr ⟨_, member, word, committed, rfl⟩)
      refine ⟨_, member, word, path, bound, committed, leaf, ?_, satisfied⟩
      rw [climbs]
      exact (Option.some.inj root).symm
    · cases root
/-! ## Words and circuits -/

theorem verificationLevelToU128_lt {v : Json} (valid : Sdk.ValidNumber v) {n : Nat}
    (level : verificationLevelToU128 v = some n) : n < 2 ^ 128 := by
  cases v with
  | number m =>
    cases m with
    | posInt k =>
      simp only [verificationLevelToU128, jsonToU128, Option.some.injEq] at level
      simp only [Sdk.ValidNumber] at valid
      omega
    | negInt k => simp [verificationLevelToU128, jsonToU128, Json.asStr] at level
    | float bits => simp [verificationLevelToU128, jsonToU128, Json.asStr] at level
  | string s =>
    rw [Sdk.verificationLevelToU128_string] at level
    split at level
    · rename_i m parsed
      obtain rfl := Option.some.inj level
      exact parseUnsigned_lt parsed
    · obtain ⟨before, after, parts, _⟩ := List.lookup_eq_some_iff.mp level
      have low : ∀ p ∈ Sdk.levelLabels, p.2 < 2 ^ 128 := by decide
      exact low (toAsciiLowercase (trim s), n) (by rw [parts]; simp)
  | _ => simp [verificationLevelToU128, jsonToU128, Json.asStr] at level

theorem kyc_satisfied_iff {t m : Nat} (small : t < 256) (bound : m < 2 ^ 128) :
    Satisfies H { predicate := "kyc", threshold := some t } (claimValueInt m) ↔ t ≤ m ∧ m < 256 := by
  have word : claimValueInt m = uintBytes m := by
    rw [claimValueInt, u128Le32, Nat.mod_eq_of_lt bound, uintBytes]
  simp only [Satisfies, PredicateHolds, Option.some.injEq, word, uintBytes]
  constructor
  · rintro ⟨_, rfl, threshold, level, param, value, enough⟩
    have tEq := leBytes32_inj (by omega) (by have := threshold.toNat_lt; omega) param
    have mEq := leBytes32_inj (by omega) (by have := level.toNat_lt; omega) value
    have lt := level.toNat_lt
    rw [UInt8.le_iff_toNat_le] at enough
    omega
  · rintro ⟨enough, byte⟩
    refine ⟨t, rfl, UInt8.ofNat t, UInt8.ofNat m, ?_, ?_, ?_⟩
    · rw [UInt8.toNat_ofNat', Nat.mod_eq_of_lt small]
    · rw [UInt8.toNat_ofNat', Nat.mod_eq_of_lt byte]
    · rw [UInt8.le_iff_toNat_le, UInt8.toNat_ofNat', UInt8.toNat_ofNat', Nat.mod_eq_of_lt small,
        Nat.mod_eq_of_lt byte]
      exact enough

theorem email_satisfied_iff {b : Bool} :
    Satisfies H { predicate := "email_verified" } (claimValueInt b.toNat) ↔ b = true := by
  simp only [Satisfies, PredicateHolds, true_and]
  constructor
  · rintro ⟨flag, value, set⟩
    cases b with
    | true => rfl
    | false =>
      have zero := leBytes32_inj (by decide) (by have := flag.toNat_lt; omega) value
      rw [UInt8.le_iff_toNat_le, ← zero] at set
      simp at set
  · intro set
    subst set
    exact ⟨1, by decide, by decide⟩

/-! ## Attributes that back their stamps -/

/-- The level committed to reaches what the attribute's level `n` has stamped and fits the
circuit's byte.  An attribute already named `verification_level` replaces the other. -/
def LevelKept (attrs : ClaimMap) (n : Nat) : Prop :=
  match getClaim attrs "verification_level" with
  | none => n < 256
  | some w => ∃ m, verificationLevelToU128 w = some m ∧ min n 3 ≤ m ∧ m < 256

/-- The country committed to is written the way it is stamped. -/
def CountryKept (attrs : ClaimMap) (name : String) : Prop :=
  ∀ s, getClaim attrs name = some (.string s) → isAlpha2 (trim s) = true →
    s.toList.all isAsciiUppercase = true

/-- The attributes for which every stamp is good. -/
structure Backed (calendar : Calendar) (attrs : ClaimMap) (personhood : Bool) : Prop where
  birthdate : ∀ s, getClaim attrs "dateOfBirth" = some (.string s) → trim s ≠ "" →
    (calendar.parseFromStr s).isSome = true → (dateToYyyymmdd (.string s)).isSome = true
  level : ∀ v n, getClaim attrs "verificationLevel" = some v →
    attributeAsThreshold calendar "verificationLevel" v = some n → 1 ≤ n → LevelKept attrs n
  email : ∀ v n w, getClaim attrs "emailVerified" = some v →
    attributeAsThreshold calendar "emailVerified" v = some n → 1 ≤ n →
    getClaim attrs "email_verified" = some w → jsonToBool w = some true
  nationality : CountryKept attrs "nationality"
  residency : CountryKept attrs "residentCountry"
  secret : personhood = true →
    ∃ v word, getClaim attrs "personhoodSecret" = some v ∧ hexTo32 v = some word

theorem available_threshold {calendar : Calendar} {attrs : ClaimMap} {pred : Predicate} {t : Nat}
    (params : pred.params = .threshold t) :
    Available calendar attrs pred ↔ ∃ v n, getClaim attrs pred.attributeName = some v ∧
      isMeaningful v = true ∧ attributeAsThreshold calendar pred.attributeName v = some n ∧
      t ≤ n := by
  rw [Available, supports, params]
  constructor
  · rintro ⟨⟨v, found, meaningful⟩, supported⟩
    simp only [found, Option.bind_some] at supported
    split at supported
    · rename_i n read
      exact ⟨v, n, found, meaningful, read, by simpa using supported⟩
    · cases supported
  · rintro ⟨v, n, found, meaningful, read, enough⟩
    refine ⟨⟨v, found, meaningful⟩, ?_⟩
    simp only [found, Option.bind_some, read]
    simpa using enough

theorem available_dynamic {calendar : Calendar} {attrs : ClaimMap} {pred : Predicate}
    (params : pred.params = .dynamic) :
    Available calendar attrs pred ↔ ∃ v n, getClaim attrs pred.attributeName = some v ∧
      isMeaningful v = true ∧ attributeAsThreshold calendar pred.attributeName v = some n := by
  rw [Available, supports, params]
  constructor
  · rintro ⟨⟨v, found, meaningful⟩, supported⟩
    simp only [found, Option.bind_some] at supported
    obtain ⟨n, read⟩ := Option.isSome_iff_exists.mp supported
    exact ⟨v, n, found, meaningful, read⟩
  · rintro ⟨v, n, found, meaningful, read⟩
    refine ⟨⟨v, found, meaningful⟩, ?_⟩
    simp only [found, Option.bind_some, read, Option.isSome_some]

theorem meaningful_of_positive {calendar : Calendar} {name : String} {v : Json} {n : Nat}
    (named : name = "verificationLevel" ∨ name = "emailVerified")
    (read : attributeAsThreshold calendar name v = some n) (positive : 1 ≤ n) :
    isMeaningful v = true := by
  cases v with
  | string s =>
    simp only [isMeaningful, decide_eq_true_eq, ne_eq]
    intro blank
    cases named with
    | inl level =>
      subst level
      rw [attributeAsThreshold] at read
      simp only [verificationLevelToU64, blank] at read
      have zero : toAsciiLowercase "" = "" := by decide
      rw [zero] at read
      simp at read
      omega
    | inr flag =>
      subst flag
      have truthy := flag_committed read positive
      rw [Sdk.jsonToBool_string, blank] at truthy
      cases truthy
  | null =>
    cases named with
    | inl level => subst level; cases read
    | inr flag => subst flag; cases read
  | array items =>
    cases named with
    | inl level => subst level; cases read
    | inr flag => subst flag; cases read
  | _ => rfl

theorem date_good_iff {v : Json} {family : String} (dated : family = "age" ∨ family = "age_range") :
    (∃ word, claimValue32 "birthdate" v = some word ∧ Satisfies H { predicate := family } word) ↔
      (dateToYyyymmdd v).isSome = true := by
  have committed : claimValue32 "birthdate" v = (dateToYyyymmdd v).map claimValueInt := rfl
  rw [committed]
  constructor
  · rintro ⟨word, read, _⟩
    obtain ⟨ymd, date, _⟩ := Option.map_eq_some_iff.mp read
    rw [date, Option.isSome_some]
  · intro read
    obtain ⟨ymd, date⟩ := Option.isSome_iff_exists.mp read
    have small := dateToYyyymmdd_lt date
    refine ⟨claimValueInt ymd, by rw [date, Option.map_some], ?_⟩
    have opened : ∃ dob : UInt32, claimValueInt ymd = uintBytes dob.toNat := by
      refine ⟨UInt32.ofNat ymd, ?_⟩
      rw [UInt32.toNat_ofNat', Nat.mod_eq_of_lt (by omega), claimValueInt, u128Le32,
        Nat.mod_eq_of_lt (by omega), uintBytes]
    cases dated with
    | inl age => subst age; exact opened
    | inr range => subst range; exact opened

theorem level_good_iff {v : Json} (valid : Sdk.ValidNumber v) {t : Nat} (small : t < 256) :
    (∃ word, claimValue32 "verification_level" v = some word ∧
      Satisfies H { predicate := "kyc", threshold := some t } word) ↔
      ∃ m, verificationLevelToU128 v = some m ∧ t ≤ m ∧ m < 256 := by
  have committed : claimValue32 "verification_level" v =
      (verificationLevelToU128 v).map claimValueInt := rfl
  rw [committed]
  constructor
  · rintro ⟨word, read, satisfied⟩
    obtain ⟨m, level, rfl⟩ := Option.map_eq_some_iff.mp read
    exact ⟨m, level, (kyc_satisfied_iff small (verificationLevelToU128_lt valid level)).mp satisfied⟩
  · rintro ⟨m, level, enough⟩
    exact ⟨claimValueInt m, by rw [level, Option.map_some],
      (kyc_satisfied_iff small (verificationLevelToU128_lt valid level)).mpr enough⟩

theorem email_good_iff {v : Json} :
    (∃ word, claimValue32 "email_verified" v = some word ∧
      Satisfies H { predicate := "email_verified" } word) ↔ jsonToBool v = some true := by
  have committed : claimValue32 "email_verified" v =
      (jsonToBool v).map fun b => claimValueInt b.toNat := rfl
  rw [committed]
  constructor
  · rintro ⟨word, read, satisfied⟩
    obtain ⟨b, flag, rfl⟩ := Option.map_eq_some_iff.mp read
    rw [flag, email_satisfied_iff.mp satisfied]
  · intro flag
    exact ⟨claimValueInt true.toNat, by rw [flag, Option.map_some], email_satisfied_iff.mpr rfl⟩

theorem country_good_iff {name family s : String}
    (named : (name, family) = ("nationality", "nationality") ∨
      (name, family) = ("residentCountry", "residency")) (alpha : isAlpha2 (trim s) = true) :
    (∃ word, claimValue32 name (.string s) = some word ∧
      Satisfies H { predicate := family, country := some (toAsciiUppercase (trim s)) } word) ↔
      s.toList.all isAsciiUppercase = true := by
  rw [← padCountry_eq_stamped_iff alpha]
  generalize toAsciiUppercase (trim s) = code
  have committed : claimValue32 name (.string s) = some (padCountry s) := by
    obtain pair | pair := named <;> cases pair <;> rfl
  have satisfied : ∀ word, Satisfies H { predicate := family, country := some code } word ↔
      ∃ country, some code = some country ∧ word = padCountry country := by
    intro word
    obtain pair | pair := named <;> cases pair <;> rfl
  simp only [committed, satisfied, Option.some.injEq, exists_eq_left']

/-- The registry entry that stamps a level. -/
theorem kyc_entry {t : Nat} (low : 1 ≤ t) (high : t ≤ 3) (attrs : ClaimMap) :
    ∃ pred ∈ registry, pred.attributeName = "verificationLevel" ∧ pred.params = .threshold t ∧
      stampFor attrs pred = some { predicate := "kyc", threshold := some t } := by
  have entry : ∀ id, predicateFamily id = "kyc" → id ≠ "age:gte" → id ≠ "age:range" →
      stampFor attrs ⟨id, "verificationLevel", .threshold t⟩ =
        some { predicate := "kyc", threshold := some t } := by
    intro id family notAge notRange
    simp [stampFor, family, notAge, notRange]
  have three : t = 1 ∨ t = 2 ∨ t = 3 := by omega
  obtain rfl | rfl | rfl := three
  · exact ⟨⟨"kyc:>=basic", "verificationLevel", .threshold 1⟩, by decide, rfl, rfl,
      entry _ (by decide) (by decide) (by decide)⟩
  · exact ⟨⟨"kyc:>=substantial", "verificationLevel", .threshold 2⟩, by decide, rfl, rfl,
      entry _ (by decide) (by decide) (by decide)⟩
  · exact ⟨⟨"kyc:>=high", "verificationLevel", .threshold 3⟩, by decide, rfl, rfl,
      entry _ (by decide) (by decide) (by decide)⟩

/-- The word committed to under a name satisfies the stamp. -/
def GoodStamp (H : Hashes) (claims : ClaimMap) (name : String) (stamp : PredicateAttestation) :
    Prop :=
  ∃ w word, getClaim claims name = some w ∧ claimValue32 name w = some word ∧
    Satisfies H stamp word

section Credential

variable {calendar : Calendar} {attrs : ClaimMap} {stamps : List PredicateAttestation}
  {stamp : PredicateAttestation}

/-- The claim a circuit reads, given the attribute that is kept for it. -/
theorem goodStamp_iff {name low high : String} (bound : (name, low, high) ∈ boundSources)
    {v : Json} (kept : (getClaim attrs high).or (getClaim attrs low) = some v) :
    GoodStamp H (issuedClaims attrs stamps) name stamp ↔
      ∃ word, claimValue32 name v = some word ∧ Satisfies H stamp word := by
  rw [GoodStamp, getClaim_issuedClaims bound, kept]
  constructor
  · rintro ⟨w, word, same, committed, satisfied⟩
    obtain rfl := Option.some.inj same
    exact ⟨word, committed, satisfied⟩
  · rintro ⟨word, committed, satisfied⟩
    exact ⟨v, word, rfl, committed, satisfied⟩

theorem birthdate_good_iff {v : Json} (found : getClaim attrs "dateOfBirth" = some v)
    {family : String} (dated : family = "age" ∨ family = "age_range") :
    GoodStamp H (issuedClaims attrs stamps) "birthdate" { predicate := family } ↔
      (dateToYyyymmdd v).isSome = true := by
  have kept : (getClaim attrs "dateOfBirth").or (getClaim attrs "birthdate") = some v := by
    rw [found, Option.some_or]
  rw [goodStamp_iff (by decide) kept, date_good_iff dated]

theorem kyc_good_iff (valid : ∀ name v, getClaim attrs name = some v → Sdk.ValidNumber v)
    {v : Json} {n t : Nat} (found : getClaim attrs "verificationLevel" = some v)
    (read : attributeAsThreshold calendar "verificationLevel" v = some n) (enough : t ≤ n)
    (small : t < 256) :
    GoodStamp H (issuedClaims attrs stamps) "verification_level"
        { predicate := "kyc", threshold := some t } ↔
      match getClaim attrs "verification_level" with
      | none => n < 256
      | some w => ∃ m, verificationLevelToU128 w = some m ∧ t ≤ m ∧ m < 256 := by
  cases replaced : getClaim attrs "verification_level" with
  | none =>
    have kept : (getClaim attrs "verification_level").or (getClaim attrs "verificationLevel") =
        some v := by
      rw [replaced, Option.none_or, found]
    rw [goodStamp_iff (by decide) kept, level_good_iff (valid _ v found) small]
    constructor
    · rintro ⟨m, level, _, byte⟩
      obtain rfl := Option.some.inj ((level_committed read).symm.trans level)
      exact byte
    · intro byte
      exact ⟨n, level_committed read, enough, byte⟩
  | some w =>
    have kept : (getClaim attrs "verification_level").or (getClaim attrs "verificationLevel") =
        some w := by
      rw [replaced, Option.some_or]
    rw [goodStamp_iff (by decide) kept, level_good_iff (valid _ w replaced) small]

theorem emailStamp_good_iff {v : Json} {n : Nat} (found : getClaim attrs "emailVerified" = some v)
    (read : attributeAsThreshold calendar "emailVerified" v = some n) (set : 1 ≤ n) :
    GoodStamp H (issuedClaims attrs stamps) "email_verified" { predicate := "email_verified" } ↔
      ∀ w, getClaim attrs "email_verified" = some w → jsonToBool w = some true := by
  cases replaced : getClaim attrs "email_verified" with
  | none =>
    have kept : (getClaim attrs "email_verified").or (getClaim attrs "emailVerified") = some v := by
      rw [replaced, Option.none_or, found]
    rw [goodStamp_iff (by decide) kept, email_good_iff]
    simp [flag_committed read set]
  | some w =>
    have kept : (getClaim attrs "email_verified").or (getClaim attrs "emailVerified") = some w := by
      rw [replaced, Option.some_or]
    rw [goodStamp_iff (by decide) kept, email_good_iff]
    simp

theorem countryStamp_good_iff {name family s : String}
    (named : (name, family) = ("nationality", "nationality") ∨
      (name, family) = ("residentCountry", "residency"))
    (found : getClaim attrs name = some (.string s)) (alpha : isAlpha2 (trim s) = true) :
    GoodStamp H (issuedClaims attrs stamps) name
        { predicate := family, country := some (toAsciiUppercase (trim s)) } ↔
      s.toList.all isAsciiUppercase = true := by
  have kept : (getClaim attrs name).or (getClaim attrs name) = some (.string s) := by
    rw [found, Option.some_or]
  have bound : (name, name, name) ∈ boundSources := by
    obtain pair | pair := named <;> cases pair <;> decide
  rw [goodStamp_iff bound kept, country_good_iff named alpha]

theorem secret_good_iff :
    GoodStamp H (issuedClaims attrs stamps) "personhoodSecret"
        { predicate := "unique_personhood" } ↔
      ∃ v word, getClaim attrs "personhoodSecret" = some v ∧ hexTo32 v = some word := by
  have kept : getClaim (issuedClaims attrs stamps) "personhoodSecret" =
      getClaim attrs "personhoodSecret" := by
    rw [@getClaim_issuedClaims "personhoodSecret" "personhoodSecret" "personhoodSecret" (by decide),
      Option.or_self]
  rw [GoodStamp, kept]
  constructor
  · rintro ⟨v, word, found, committed, _⟩
    exact ⟨v, word, found, committed⟩
  · rintro ⟨v, word, found, read⟩
    exact ⟨v, word, found, read, trivial⟩

end Credential

/-! ## Every stamp of a credential -/

/-- The claim of a stamp and that its committed word is good. -/
def StampGood (H : Hashes) (claims : ClaimMap) (stamp : PredicateAttestation) : Prop :=
  ∃ name, boundClaim stamp.predicate = some name ∧ GoodStamp H claims name stamp

section Run

variable {calendar : Calendar} {attrs : ClaimMap} {stamps : List PredicateAttestation}

theorem read_country {name s : String} (named : name = "nationality" ∨ name = "residentCountry")
    (alpha : isAlpha2 (trim s) = true) :
    attributeAsThreshold calendar name (.string s) = some 1 := by
  cases named with
  | inl nationality => subst nationality; simp [attributeAsThreshold, Json.asStr, alpha]
  | inr residency => subst residency; simp [attributeAsThreshold, Json.asStr, alpha]

theorem country_of_read {name : String} {v : Json} {n : Nat}
    (named : name = "nationality" ∨ name = "residentCountry")
    (read : attributeAsThreshold calendar name v = some n) :
    ∃ s, v = .string s ∧ isAlpha2 (trim s) = true := by
  have either : (v.asStr.bind fun s => if isAlpha2 (trim s) then some 1 else none) = some n := by
    cases named with
    | inl nationality => subst nationality; exact read
    | inr residency => subst residency; exact read
  obtain ⟨s, text, alpha⟩ := Option.bind_eq_some_iff.mp either
  cases v with
  | string s' =>
    obtain rfl := Option.some.inj text
    split at alpha
    · rename_i letters
      exact ⟨s', rfl, letters⟩
    · cases alpha
  | _ => cases text

theorem date_of_read {v : Json} {n : Nat}
    (read : attributeAsThreshold calendar "dateOfBirth" v = some n) :
    ∃ s, v = .string s ∧ (calendar.parseFromStr s).isSome = true := by
  have reads : v.asStr.bind (yearsSinceDob calendar) = some n := read
  obtain ⟨s, text, years⟩ := Option.bind_eq_some_iff.mp reads
  simp only [yearsSinceDob, Option.bind_eq_bind, Option.bind_eq_some_iff] at years
  obtain ⟨date, parsed, _⟩ := years
  cases v with
  | string s' =>
    obtain rfl := Option.some.inj text
    exact ⟨s', rfl, by rw [parsed, Option.isSome_some]⟩
  | _ => cases text

theorem read_date {s : String} (parses : (calendar.parseFromStr s).isSome = true) :
    ∃ n, attributeAsThreshold calendar "dateOfBirth" (.string s) = some n := by
  obtain ⟨date, parsed⟩ := Option.isSome_iff_exists.mp parses
  exact ⟨_, by simp only [attributeAsThreshold, Json.asStr, Option.bind_some, yearsSinceDob, parsed,
    Option.bind_eq_bind]; rfl⟩

/-- What is stamped of attributes that back their stamps is good, entry by entry. -/
theorem good_of_backed (valid : ∀ name v, getClaim attrs name = some v → Sdk.ValidNumber v)
    {personhood : Bool} (backed : Backed calendar attrs personhood) {pred : Predicate}
    (member : pred ∈ registry) (available : Available calendar attrs pred)
    {stamp : PredicateAttestation} (stamped : stampFor attrs pred = some stamp) :
    StampGood H (issuedClaims attrs stamps) stamp := by
  have dated : ∀ family, family = "age" ∨ family = "age_range" → ∀ {v n},
      getClaim attrs "dateOfBirth" = some v → isMeaningful v = true →
      attributeAsThreshold calendar "dateOfBirth" v = some n →
      StampGood H (issuedClaims attrs stamps) { predicate := family } := by
    intro family age v n found meaningful read
    obtain ⟨s, rfl, parses⟩ := date_of_read read
    refine ⟨"birthdate", ?_, (birthdate_good_iff found age).mpr
      (backed.birthdate s found (by simpa [isMeaningful] using meaningful) parses)⟩
    cases age with
    | inl gte => subst gte; rfl
    | inr range => subst range; rfl
  have level : ∀ t, 1 ≤ t → t ≤ 3 → ∀ {v n}, getClaim attrs "verificationLevel" = some v →
      attributeAsThreshold calendar "verificationLevel" v = some n → t ≤ n →
      StampGood H (issuedClaims attrs stamps) { predicate := "kyc", threshold := some t } := by
    intro t low high v n found read enough
    refine ⟨"verification_level", rfl, (kyc_good_iff valid found read enough (by omega)).mpr ?_⟩
    have kept := backed.level v n found read (by omega)
    rw [LevelKept] at kept
    split at kept
    · exact kept
    · obtain ⟨m, committed, reaches, byte⟩ := kept
      exact ⟨m, committed, by omega, byte⟩
  have country : ∀ name family, (name, family) = ("nationality", "nationality") ∨
      (name, family) = ("residentCountry", "residency") → CountryKept attrs name →
      boundClaim family = some name → ∀ {v n}, getClaim attrs name = some v →
      attributeAsThreshold calendar name v = some n →
      ((countryFrom attrs name).map fun code =>
        ({ predicate := family, country := some code } : PredicateAttestation)) = some stamp →
      StampGood H (issuedClaims attrs stamps) stamp := by
    intro name family named kept bound v n found read stamped
    have either : name = "nationality" ∨ name = "residentCountry" := by
      obtain pair | pair := named <;> cases pair <;> simp
    obtain ⟨s, rfl, alpha⟩ := country_of_read either read
    rw [countryFrom_eq found alpha, Option.map_some] at stamped
    obtain rfl := Option.some.inj stamped
    exact ⟨name, bound, (countryStamp_good_iff named found alpha).mpr (kept s found alpha)⟩
  simp only [registry, List.mem_cons, List.not_mem_nil, or_false] at member
  obtain rfl | rfl | rfl | rfl | rfl | rfl | rfl | rfl | rfl := member
  · obtain ⟨v, n, found, meaningful, read⟩ := (available_dynamic rfl).mp available
    obtain rfl : { predicate := "age" } = stamp := Option.some.inj stamped
    exact dated "age" (.inl rfl) found meaningful read
  · obtain ⟨v, n, found, meaningful, read⟩ := (available_dynamic rfl).mp available
    obtain rfl : { predicate := "age_range" } = stamp := Option.some.inj stamped
    exact dated "age_range" (.inr rfl) found meaningful read
  · obtain ⟨v, n, found, _, read⟩ := (available_dynamic rfl).mp available
    exact country "nationality" "nationality" (.inl rfl) backed.nationality rfl found read stamped
  · obtain ⟨v, n, found, _, read, enough⟩ := (available_threshold rfl).mp available
    obtain rfl : { predicate := "kyc", threshold := some 1 } = stamp := Option.some.inj stamped
    exact level 1 (by decide) (by decide) found read enough
  · obtain ⟨v, n, found, _, read, enough⟩ := (available_threshold rfl).mp available
    obtain rfl : { predicate := "kyc", threshold := some 2 } = stamp := Option.some.inj stamped
    exact level 2 (by decide) (by decide) found read enough
  · obtain ⟨v, n, found, _, read, enough⟩ := (available_threshold rfl).mp available
    obtain rfl : { predicate := "kyc", threshold := some 3 } = stamp := Option.some.inj stamped
    exact level 3 (by decide) (by decide) found read enough
  · obtain ⟨v, n, found, _, read⟩ := (available_dynamic rfl).mp available
    exact country "residentCountry" "residency" (.inr rfl) backed.residency rfl found read stamped
  · obtain ⟨v, n, found, _, read, set⟩ := (available_threshold rfl).mp available
    obtain rfl : { predicate := "email_verified" } = stamp := Option.some.inj stamped
    exact ⟨"email_verified", rfl, (emailStamp_good_iff found read set).mpr
      fun w replaced => backed.email v n w found read set replaced⟩
  · -- no attribute reads as a threshold under the name of the secret
    obtain ⟨v, n, _, _, read, _⟩ := (available_threshold rfl).mp available
    cases read

/-- If every stamp is good, the attributes back them: each condition is read off the stamp of one
registry entry. -/
theorem backed_of_good (valid : ∀ name v, getClaim attrs name = some v → Sdk.ValidNumber v)
    {personhood : Bool}
    (good : ∀ stamp ∈ stampsOf calendar attrs personhood,
      StampGood H (issuedClaims attrs stamps) stamp) : Backed calendar attrs personhood := by
  have entry : ∀ {pred stamp name}, pred ∈ registry → Available calendar attrs pred →
      stampFor attrs pred = some stamp → boundClaim stamp.predicate = some name →
      GoodStamp H (issuedClaims attrs stamps) name stamp := by
    intro pred stamp name member available stamped bound
    obtain ⟨name', bound', isGood⟩ := good stamp (mem_stampsOf.mpr (.inl ⟨pred, member, available, stamped⟩))
    obtain rfl := Option.some.inj (bound.symm.trans bound')
    exact isGood
  have country : ∀ {name family : String} {pred : Predicate},
      (name, family) = ("nationality", "nationality") ∨
        (name, family) = ("residentCountry", "residency") →
      pred ∈ registry → pred.attributeName = name → pred.params = .dynamic →
      (stampFor attrs pred = (countryFrom attrs name).map fun code =>
        { predicate := family, country := some code }) →
      boundClaim family = some name → CountryKept attrs name := by
    intro name family pred named member onAttr params stamped bound s found alpha
    have either : name = "nationality" ∨ name = "residentCountry" := by
      obtain pair | pair := named <;> cases pair <;> simp
    have meaningful : isMeaningful (.string s) = true := by
      simp only [isMeaningful, decide_eq_true_eq]
      intro blank
      rw [blank] at alpha
      cases alpha
    have available : Available calendar attrs pred :=
      (available_dynamic params).mpr
        ⟨.string s, 1, onAttr ▸ found, meaningful, onAttr ▸ read_country either alpha⟩
    rw [countryFrom_eq found alpha, Option.map_some] at stamped
    exact (countryStamp_good_iff named found alpha).mp (entry member available stamped bound)
  refine ⟨?_, ?_, ?_, ?_, ?_, ?_⟩
  · intro s found nonblank parses
    obtain ⟨n, read⟩ := read_date parses
    have available : Available calendar attrs ⟨"age:gte", "dateOfBirth", .dynamic⟩ :=
      (available_dynamic rfl).mpr ⟨.string s, n, found, by simpa [isMeaningful] using nonblank, read⟩
    exact (birthdate_good_iff found (.inl rfl)).mp
      (@entry _ { predicate := "age" } _ (by decide) available rfl rfl)
  · intro v n found read positive
    obtain ⟨pred, member, onAttr, params, stamped⟩ :=
      kyc_entry (t := min n 3) (by omega) (by omega) attrs
    have available : Available calendar attrs pred :=
      (available_threshold params).mpr ⟨v, n, onAttr ▸ found,
        meaningful_of_positive (.inl rfl) read positive, onAttr ▸ read, by omega⟩
    exact (kyc_good_iff valid found read (by omega) (by omega)).mp
      (entry member available stamped rfl)
  · intro v n w found read set replaced
    have available : Available calendar attrs ⟨"email:verified", "emailVerified", .threshold 1⟩ :=
      (available_threshold rfl).mpr
        ⟨v, n, found, meaningful_of_positive (.inr rfl) read set, read, set⟩
    exact (emailStamp_good_iff found read set).mp
      (@entry _ { predicate := "email_verified" } _ (by decide) available rfl rfl) w replaced
  · exact @country _ _ ⟨"nationality:in", "nationality", .dynamic⟩ (.inl rfl) (by decide) rfl
      rfl rfl rfl
  · exact @country _ _ ⟨"residency:in", "residentCountry", .dynamic⟩ (.inr rfl) (by decide)
      rfl rfl rfl rfl
  · intro flag
    obtain ⟨name, bound, isGood⟩ := good _ (mem_stampsOf.mpr (.inr ⟨flag, rfl⟩))
    obtain rfl : "personhoodSecret" = name := Option.some.inj bound
    exact secret_good_iff.mp isGood

theorem stamps_good_iff (valid : ∀ name v, getClaim attrs name = some v → Sdk.ValidNumber v)
    {personhood : Bool} :
    (∀ stamp ∈ stampsOf calendar attrs personhood,
      StampGood H (issuedClaims attrs stamps) stamp) ↔ Backed calendar attrs personhood := by
  constructor
  · exact backed_of_good valid
  · intro backed stamp member
    rcases mem_stampsOf.mp member with ⟨pred, registered, available, stamped⟩ | ⟨flag, rfl⟩
    · exact good_of_backed valid backed registered available stamped
    · exact ⟨"personhoodSecret", rfl, secret_good_iff.mpr (backed.secret flag)⟩

end Run

/-! ## Issuance -/

theorem Backed.congr {calendar : Calendar} {attrs attrs' : ClaimMap} {personhood : Bool}
    (same : ∀ name, isKeyMaterial name = false → getClaim attrs name = getClaim attrs' name)
    (backed : Backed calendar attrs personhood) : Backed calendar attrs' personhood := by
  refine ⟨?_, ?_, ?_, ?_, ?_, ?_⟩
  · intro s found
    exact backed.birthdate s ((same _ (by decide)).trans found)
  · intro v n found read positive
    have kept := backed.level v n ((same _ (by decide)).trans found) read positive
    rwa [LevelKept, same _ (by decide)] at kept
  · intro v n w found read set replaced
    exact backed.email v n w ((same _ (by decide)).trans found) read set
      ((same _ (by decide)).trans replaced)
  · intro s found
    exact backed.nationality s ((same _ (by decide)).trans found)
  · intro s found
    exact backed.residency s ((same _ (by decide)).trans found)
  · intro flag
    obtain ⟨v, word, found, read⟩ := backed.secret flag
    exact ⟨v, word, (same _ (by decide)).symm.trans found, read⟩

theorem issueCredentialDirect_signed {P : Primitives} {run : IssuanceRun}
    {issuerPrivateKey ownerPublicKey issuerPublicUrl text : String}
    {keyAlgorithm : SignatureAlgorithm} {attributes : ClaimMap} {personhood : Bool}
    (issued : issueCredentialDirect P H run issuerPrivateKey ownerPublicKey keyAlgorithm attributes
      issuerPublicUrl personhood = .ok text) :
    ∃ issuer owner owlRoot,
      (hexDecode issuerPrivateKey).bind KeyPair.fromBytes = some issuer ∧
      PublicKey.fromHexWithAlgorithm P ownerPublicKey keyAlgorithm = .ok owner ∧
      Signed H P
        (issueEntries (issuedClaims (withKeys P attributes issuer owner)
          (stampsOf run.calendar (withKeys P attributes issuer owner) personhood)) run.salts)
        owlRoot text := by
  simp only [issueCredentialDirect, bind_eq_ok, okOr_eq_ok, mapErr_eq_ok, pure_eq_ok] at issued
  obtain ⟨bytes, decoded, issuer, isKey, owner, isOwner, statusIdx, _, sdJwtVc, minted, _, _, rfl⟩ :=
    issued
  simp only [claimsToSdJwtVc, bind_eq_ok, okOr_eq_ok, mapErr_eq_ok, pure_eq_ok] at minted
  obtain ⟨ownerHex, _, holder, _, vc, signs, rfl⟩ := minted
  simp only [issue, bind_eq_ok, okOr_eq_ok, pure_eq_ok] at signs
  obtain ⟨owlRoot, root, jwk, _, jwt, signed, rfl⟩ := signs
  exact ⟨issuer, owner, owlRoot, by rw [decoded, Option.bind_some, isKey], isOwner, _, _, jwk, _,
    rfl, rfl, signed, root⟩

/-- Every stamp of an issued credential can be proved under the root the issuer signed exactly
when the attributes back it. -/
theorem stamped_predicates_provable_iff (P : Primitives) (H : Hashes) (run : IssuanceRun)
    (issuerPrivateKey ownerPublicKey issuerPublicUrl text : String)
    (keyAlgorithm : SignatureAlgorithm) (attributes : ClaimMap) (personhood : Bool)
    (valid : ∀ name v, getClaim attributes name = some v → Sdk.ValidNumber v)
    (issued : issueCredentialDirect P H run issuerPrivateKey ownerPublicKey keyAlgorithm attributes
      issuerPublicUrl personhood = .ok text) :
    ∃ issuer owner owlRoot,
      (hexDecode issuerPrivateKey).bind KeyPair.fromBytes = some issuer ∧
      PublicKey.fromHexWithAlgorithm P ownerPublicKey keyAlgorithm = .ok owner ∧
      ∃ attrs stamps claims, attrs = withKeys P attributes issuer owner ∧
        stamps = stampsOf run.calendar attrs personhood ∧ claims = issuedClaims attrs stamps ∧
        (stamps ≠ [] →
          getClaim claims "owl_attestation" = some (.array (stamps.map attestationJson))) ∧
        Signed H P (issueEntries claims run.salts) owlRoot text ∧
        ((∀ stamp ∈ stamps, Provable H owlRoot (issueEntries claims run.salts) stamp) ↔
          Backed run.calendar attributes personhood) := by
  obtain ⟨issuer, owner, owlRoot, isKey, isOwner, signed⟩ := issueCredentialDirect_signed issued
  refine ⟨issuer, owner, owlRoot, isKey, isOwner, _, _, _, rfl, rfl, rfl, ?_, signed, ?_⟩
  · intro stamped
    rw [issuedClaims, if_neg stamped, getClaim_insertClaim, if_pos rfl]
  · have same : ∀ name, isKeyMaterial name = false →
        getClaim (withKeys P attributes issuer owner) name = getClaim attributes name :=
      fun name kept => getClaim_withKeys kept P attributes issuer owner
    -- the two keys are strings
    have valid' : ∀ name v, getClaim (withKeys P attributes issuer owner) name = some v →
        Sdk.ValidNumber v := by
      intro name v found
      rw [withKeys, getClaim_insertClaim] at found
      split at found
      · obtain rfl := Option.some.inj found
        trivial
      · rw [getClaim_insertClaim] at found
        split at found
        · obtain rfl := Option.some.inj found
          trivial
        · exact valid name v found
    obtain ⟨_, _, _, _, _, _, _, root⟩ := signed
    have backed : Backed run.calendar attributes personhood ↔
        Backed run.calendar (withKeys P attributes issuer owner) personhood :=
      ⟨Backed.congr fun name kept => (same name kept).symm, Backed.congr same⟩
    rw [backed, ← @stamps_good_iff H _ _
      (stampsOf run.calendar (withKeys P attributes issuer owner) personhood) valid']
    apply forall₂_congr
    intro stamp member
    constructor
    · intro provable
      have revealed := provable
      obtain ⟨entry, _, _, _, bound, _⟩ := revealed
      exact ⟨entry.name, bound, (provable_iff root bound).mp provable⟩
    · rintro ⟨name, bound, isGood⟩
      exact (provable_iff root bound).mpr isGood

/-! ## Concrete runs -/

/-- Issuance with a 32-byte secret and an Ed25519 owner key returns. -/
theorem issueCredentialDirect_returns {P : Primitives} {run : IssuanceRun}
    {secret ownerBytes : Bytes} {issuerPublicUrl : String} {attributes : ClaimMap}
    {personhood : Bool} {statusIdx : Nat} (secretLength : secret.length = 32)
    (ownerLength : ownerBytes.length = 32) (decodes : P.ed25519Decode ownerBytes = .ok ())
    (index : run.statusIdx = .ok statusIdx) (stores : run.stores = .ok ()) :
    ∃ text, issueCredentialDirect P H run (hexEncode secret) (hexEncode ownerBytes) .ed25519
      attributes issuerPublicUrl personhood = .ok text := by
  have owner : PublicKey.fromBytesWithAlgorithm P ownerBytes .ed25519 = .ok ⟨.ed25519, ownerBytes⟩ := by
    simp [PublicKey.fromBytesWithAlgorithm, ensure, ownerLength, decodes, mapErr]
  have isOwner : PublicKey.fromHexWithAlgorithm P (hexEncode ownerBytes) .ed25519 =
      .ok ⟨.ed25519, ownerBytes⟩ := by
    simp [PublicKey.fromHexWithAlgorithm, okOr, owner, bind, Except.bind]
  have held : PublicKey.fromHex P (PublicKey.toHex ⟨.ed25519, ownerBytes⟩) =
      .ok ⟨.ed25519, ownerBytes⟩ := by
    simp [PublicKey.fromHex, PublicKey.toHex, okOr, ownerLength, owner, bind, Except.bind]
  have isKey : KeyPair.fromBytes secret = some ⟨.ed25519, secret⟩ := by
    rw [KeyPair.fromBytes, if_pos secretLength]
  have stored : ∀ issuer, getClaim (withKeys P attributes issuer ⟨.ed25519, ownerBytes⟩) "ownerKey" =
      some (.string (PublicKey.toHex ⟨.ed25519, ownerBytes⟩)) := by
    intro issuer
    rw [withKeys, getClaim_insertClaim, if_pos rfl]
  obtain ⟨vc, minted⟩ : ∃ vc, issue P H
      (issuedClaims (withKeys P attributes ⟨.ed25519, secret⟩ ⟨.ed25519, ownerBytes⟩)
        (stampsOf run.calendar (withKeys P attributes ⟨.ed25519, secret⟩ ⟨.ed25519, ownerBytes⟩)
          personhood)) run.salts
      { issuer := ⟨.ed25519, secret⟩, iss := didWebId issuerPublicUrl, vct := vct,
        holder := ⟨.ed25519, ownerBytes⟩, iat := run.iat, exp := none,
        status := some ⟨statusIdx,
          String.ofList (trimEndSlashes issuerPublicUrl.toList) ++ "/status/1"⟩ } = .ok vc := by
    have returns : ∀ (claims : ClaimMap) (p : IssueParams), p.issuer = ⟨.ed25519, secret⟩ →
        p.holder = ⟨.ed25519, ownerBytes⟩ → ∃ vc, issue P H claims run.salts p = .ok vc := by
      intro claims p issuer holder
      have isValid : p.holder.Valid P := by
        rw [holder]
        exact ⟨ownerLength, decodes⟩
      obtain ⟨_, _, _, _, _, _, _, _, returned⟩ :=
        issue_returns P H claims run.salts (by rw [issuer]) isValid
      exact ⟨_, returned⟩
    exact returns _ _ rfl rfl
  refine ⟨vc.serialize, ?_⟩
  simp only [issueCredentialDirect, bind_eq_ok, okOr_eq_ok, mapErr_eq_ok, pure_eq_ok]
  refine ⟨secret, hexDecode_hexEncode secret, _, isKey, _, isOwner, statusIdx, index, vc.serialize,
    ?_, (), stores, rfl⟩
  simp only [claimsToSdJwtVc, bind_eq_ok, okOr_eq_ok, mapErr_eq_ok, pure_eq_ok]
  exact ⟨PublicKey.toHex ⟨.ed25519, ownerBytes⟩, by rw [stored, Option.bind_some]; rfl, _, held,
    vc, minted, rfl⟩

/-- A calendar that reads `YYYY-MM-DD`, in June 2026. -/
def sampleCalendar : Calendar where
  parseFromStr s := (dateToYyyymmdd (.string s)).map fun ymd : Nat =>
    ⟨(ymd / 10000 : Nat), ymd / 100 % 100, ymd % 100⟩
  today := ⟨2026, 6, 10⟩

def sampleRun : IssuanceRun where
  calendar := sampleCalendar
  iat := some 1781000000
  salts name := "salt-" ++ name
  statusIdx := .ok 0x100000
  stores := .ok ()

/-- A document check: a date of birth, a nationality and a substantial level. -/
def sampleAttributes : ClaimMap :=
  insertClaim (insertClaim (insertClaim emptyMap "dateOfBirth" (.string "1990-04-12"))
    "nationality" (.string "NL")) "verificationLevel" (.string "substantial")

def sampleSecret : String := hexEncode (List.replicate 32 5)

def sampleOwner : String := hexEncode (List.replicate 32 7)

theorem sampleRun_issues (attributes : ClaimMap) (personhood : Bool) :
    ∃ text, issueCredentialDirect (samplePrimitives []) sampleHashes sampleRun sampleSecret
      sampleOwner .ed25519 attributes "https://issuer.example" personhood = .ok text :=
  issueCredentialDirect_returns (by decide) (by decide) rfl rfl rfl

theorem sampleAttributes_get (name : String) :
    getClaim sampleAttributes name =
      if name = "verificationLevel" then some (.string "substantial")
      else if name = "nationality" then some (.string "NL")
      else if name = "dateOfBirth" then some (.string "1990-04-12") else none := by
  simp only [sampleAttributes, getClaim_insertClaim]
  rfl

theorem sampleAttributes_backed : Backed sampleCalendar sampleAttributes false := by
  refine ⟨?_, ?_, ?_, ?_, ?_, ?_⟩
  · intro s found _ _
    rw [sampleAttributes_get] at found
    obtain rfl : "1990-04-12" = s := by simpa using found
    decide
  · intro v n found read _
    rw [sampleAttributes_get, if_pos rfl] at found
    obtain rfl := Option.some.inj found
    have level := level_committed read
    have two : verificationLevelToU128 (.string "substantial") = some 2 := by decide
    obtain rfl := Option.some.inj (two.symm.trans level)
    rw [LevelKept, sampleAttributes_get]
    simp
  · intro v n w found
    rw [sampleAttributes_get] at found
    simp at found
  · intro s found _
    rw [sampleAttributes_get] at found
    obtain rfl : "NL" = s := by simpa using found
    decide
  · intro s found
    rw [sampleAttributes_get] at found
    simp at found
  · intro flag
    cases flag

theorem stamped_predicates_provable_at_sample :
    ∃ text issuer owner owlRoot stamps claims,
      issueCredentialDirect (samplePrimitives []) sampleHashes sampleRun sampleSecret sampleOwner
        .ed25519 sampleAttributes "https://issuer.example" false = .ok text ∧
      stamps = stampsOf sampleRun.calendar
        (withKeys (samplePrimitives []) sampleAttributes issuer owner) false ∧
      Signed sampleHashes (samplePrimitives []) (issueEntries claims sampleRun.salts) owlRoot text ∧
      ∀ stamp ∈ stamps,
        Provable sampleHashes owlRoot (issueEntries claims sampleRun.salts) stamp := by
  obtain ⟨text, issued⟩ := sampleRun_issues sampleAttributes false
  have valid : ∀ name v, getClaim sampleAttributes name = some v → Sdk.ValidNumber v := by
    intro name v found
    rw [sampleAttributes_get] at found
    split at found
    · obtain rfl := Option.some.inj found; trivial
    · split at found
      · obtain rfl := Option.some.inj found; trivial
      · split at found
        · obtain rfl := Option.some.inj found; trivial
        · cases found
  obtain ⟨issuer, owner, owlRoot, _, _, attrs, stamps, claims, rfl, listed, _, _, signed, provable⟩ :=
    stamped_predicates_provable_iff (samplePrimitives []) sampleHashes sampleRun sampleSecret
      sampleOwner "https://issuer.example" text .ed25519 sampleAttributes false valid issued
  exact ⟨text, issuer, owner, owlRoot, stamps, claims, issued, listed, signed,
    provable.mpr sampleAttributes_backed⟩

/-- A document check issued with the personhood flag: the secret is not among the attributes, so
the stamped predicate has no leaf to open. -/
theorem personhood_stamp_unprovable :
    ∃ text issuer owner owlRoot stamps claims,
      issueCredentialDirect (samplePrimitives []) sampleHashes sampleRun sampleSecret sampleOwner
        .ed25519 sampleAttributes "https://issuer.example" true = .ok text ∧
      stamps = stampsOf sampleRun.calendar
        (withKeys (samplePrimitives []) sampleAttributes issuer owner) true ∧
      claims = issuedClaims (withKeys (samplePrimitives []) sampleAttributes issuer owner) stamps ∧
      Signed sampleHashes (samplePrimitives []) (issueEntries claims sampleRun.salts) owlRoot text ∧
      ∃ stamp ∈ stamps,
        ¬ Provable sampleHashes owlRoot (issueEntries claims sampleRun.salts) stamp := by
  obtain ⟨text, issued⟩ := sampleRun_issues sampleAttributes true
  obtain ⟨issuer, owner, owlRoot, _, _, signed⟩ := issueCredentialDirect_signed issued
  refine ⟨text, issuer, owner, owlRoot, _, _, issued, rfl, rfl, signed,
    { predicate := "unique_personhood" }, mem_stampsOf.mpr (.inr ⟨rfl, rfl⟩), ?_⟩
  obtain ⟨_, _, _, _, _, _, _, root⟩ := signed
  rw [@provable_iff _ _ _ _ _ "personhoodSecret" root rfl]
  intro isGood
  obtain ⟨v, word, found, _⟩ := secret_good_iff.mp isGood
  rw [getClaim_withKeys (by decide), sampleAttributes_get] at found
  simp at found

end OwlId.Issuer
