import Mathlib
import OwlId.Lib.Encodings
import OwlId.Lib.Text
import OwlId.Lib.Merkle
import OwlId.ProofSystem.Json

/-! # Attestation keys and claim commitments

The off-chain recipes of the proof system: how a verifier recomputes the key a
predicate contract records for a credential, and how an issuer commits to the
predicate-bearing claims of a credential in `owl_root`.

The hash functions come from other crates and are a parameter, `Hashes`.  The
on-chain `persistentHash` over a vector of 32-byte words is SHA-256 of their
concatenation, and the on-chain `merkleTreePathRoot` hashes its leaf the way
`countryLeafFr` does, so both sides of the system are written over the same three
functions.
-/

namespace OwlId.ProofSystem

open OwlId.Lib

/-! ## Hash functions -/

/-- The order of the BLS12-381 scalar field. -/
def frModulus : Nat := 0x73eda753299d7d483339d80809a1d80553bda402fffe5bfeffffffff00000001

abbrev Fr := Fin frModulus

instance : NeZero frModulus := ⟨by decide⟩

structure Hashes where
  sha256 : Bytes → Bytes32
  degradeToTransient : Bytes32 → Fr
  transientHash : Fr → Fr → Fr

variable (H : Hashes)

/-- `persistentHash<Vector<n, Bytes<32>>>`. -/
def persistentHash (words : List Bytes32) : Bytes32 := H.sha256 (concat32 words)

/-! ## Keys -/

def tagAge : String := "owlid:attest:age:"
def tagKyc : String := "owlid:attest:kyc:"
def tagNationality : String := "owlid:attest:nat:"
def tagResidency : String := "owlid:attest:resin:"
def tagAgeRange : String := "owlid:attest:agerng:"
def tagEmailVerified : String := "owlid:attest:email:"
def tagUniquePersonhood : String := "owlid:attest:uniq:"

/-- Right-padding of a tag or claim name, all of which are at most 32 bytes long. -/
def pad32 (s : String) : Bytes32 := padBytes (asBytes s)

/-- The 16 little-endian bytes of a `u128`, then zeros. -/
def u128Le32 (v : Nat) : Bytes32 := leBytes32 (v % 2 ^ 128)

def key (tag : String) (rootHash param : Bytes32) : Bytes32 :=
  persistentHash H [pad32 tag, rootHash, param]

/-- The SHA-256 of two concatenated words. -/
def hashPair (a b : Bytes32) : Bytes32 := persistentHash H [a, b]

def ageKey (owlRoot : Bytes32) (threshold epochYmd : Nat) : Bytes32 :=
  key H tagAge owlRoot (hashPair H (u128Le32 threshold) (u128Le32 epochYmd))

/-- A UTC calendar month, all the clock contributes to a key. -/
structure UtcMonth where
  year : Nat
  month : Nat
deriving DecidableEq

/-- First day of the current UTC month as `YYYYMM01`. -/
def currentAgeEpoch (now : UtcMonth) : Nat := now.year * 10000 + now.month * 100 + 1

def kycKey (rootHash : Bytes32) (threshold : Nat) : Bytes32 :=
  key H tagKyc rootHash (u128Le32 threshold)

/-! ## Allowed-country sets -/

def merkleDepth : Nat := 8

def countrySetSlots : Nat := 2 ^ merkleDepth

def padCountry (code : String) : Bytes32 := padBytes (asBytes code)

/-- Exactly two ASCII letters. -/
def isAlpha2 (code : String) : Bool :=
  code.toList.length == 2 && code.toList.all isAsciiAlphabetic

/-- Uppercase, drop what is not alpha-2, sort, dedupe. -/
def canonicaliseCountries (codes : List String) : List String :=
  ((((codes.map fun c => toAsciiUppercase (trim c)).filter isAlpha2).insertionSort
    (· ≤ ·)).destutter (· ≠ ·))

def verifierIdHash (clientId : String) : Bytes32 := H.sha256 (asBytes clientId)

def leafDomainSep : Bytes := asBytes "mdn:lh"

def countryLeafFr (country : Bytes32) : Fr :=
  H.degradeToTransient (H.sha256 (leafDomainSep ++ country.toList))

def merkleNode (left right : Fr) : Fr := H.transientHash left right

/-- The root of the depth-8 tree whose slot `i` holds `slots[i]`, zero past the end. -/
def merkleRootOf (slots : List Bytes32) : Fr :=
  ((Merkle.foldLayers (merkleNode H) merkleDepth
    ((List.range countrySetSlots).map fun i => countryLeafFr H (slots.getD i zero32))).headD 0)

/-- Codes past the 256th have no slot and are not hashed. -/
def allowedCountryMerkleRoot (codes : List String) : Fr :=
  merkleRootOf H ((canonicaliseCountries codes).map padCountry)

def frToLeBytes32 (f : Fr) : Bytes32 := leBytes32 f.val

def allowedCountrySetHash (clientId : String) (codes : List String) : Bytes32 :=
  persistentHash H
    [verifierIdHash H clientId, frToLeBytes32 (allowedCountryMerkleRoot H codes)]

def nationalityKey (rootHash : Bytes32) (clientId : String) (countries : List String) : Bytes32 :=
  key H tagNationality rootHash (allowedCountrySetHash H clientId countries)

def residencyKey (rootHash : Bytes32) (clientId : String) (countries : List String) : Bytes32 :=
  key H tagResidency rootHash (allowedCountrySetHash H clientId countries)

/-! ## The remaining keys -/

def u16Le32 (v : Nat) : Bytes32 := leBytes32 (v % 2 ^ 16)

def ageRangeKey (owlRoot : Bytes32) (minAge maxAge epochYmd : Nat) : Bytes32 :=
  key H tagAgeRange owlRoot
    (persistentHash H [u16Le32 minAge, u16Le32 maxAge, u128Le32 epochYmd])

def emailVerifiedKey (rootHash : Bytes32) : Bytes32 := key H tagEmailVerified rootHash zero32

/-- The campaign scope bound under the verifier's identity. -/
def personhoodAppId (clientId : String) (appId : Bytes32) : Bytes32 :=
  hashPair H (verifierIdHash H clientId) appId

def uniquePersonhoodKey (rootHash epoch appId : Bytes32) : Bytes32 :=
  key H tagUniquePersonhood rootHash (hashPair H epoch appId)

/-! ## Claim commitments -/

def claimValueInt (v : Nat) : Bytes32 := u128Le32 v

def claimCommit (name : String) (value32 salt32 : Bytes32) : Bytes32 :=
  persistentHash H [pad32 name, value32, salt32]

/-- More than 256 commitments trip the source's `assert!`. -/
def owlClaimsRoot (commits : List Bytes32) : Option Bytes32 :=
  if commits.length ≤ countrySetSlots then some (frToLeBytes32 (merkleRootOf H commits)) else none

def jsonToU128 : Json → Option Nat
  | .number (.posInt n) => some n
  | .string s => parseUnsigned (2 ^ 128) (trim s)
  | _ => none

def verificationLevelToU128 (value : Json) : Option Nat :=
  match jsonToU128 value with
  | some n => some n
  | none => value.asStr.bind fun s =>
    match toAsciiLowercase (trim s) with
    | "none" | "" => some 0
    | "low" | "basic" => some 1
    | "medium" | "substantial" => some 2
    | "high" => some 3
    | _ => none

def jsonToBool : Json → Option Bool
  | .bool b => some b
  | .string s =>
    match toAsciiLowercase (trim s) with
    | "true" | "yes" | "1" => some true
    | "false" | "no" | "0" => some false
    | _ => none
  | .number (.posInt n) => some (n != 0)
  | _ => none

/-- `"YYYY-MM-DD"` as `YYYYMMDD`; the final sum is a wrapping `u32`. -/
def dateToYyyymmdd (v : Json) : Option Nat := do
  let s ← v.asStr
  let parts := splitChar '-' s
  let y ← parts[0]?.bind (parseUnsigned (2 ^ 32))
  let m ← parts[1]?.bind (parseUnsigned (2 ^ 32))
  let d ← parts[2]?.bind (parseUnsigned (2 ^ 32))
  if m = 0 ∨ m > 12 ∨ d = 0 ∨ d > 31 then none
  else some ((y * 10000 + m * 100 + d) % 2 ^ 32)

def hexTo32 (value : Json) : Option Bytes32 := do
  let s ← value.asStr
  let bytes ← hexDecode (trimStart0x s)
  tryInto32 bytes

/-- The committed word of a predicate-bearing claim; `none` for any other claim. -/
def claimValue32 (name : String) (value : Json) : Option Bytes32 :=
  match name with
  | "verification_level" => (verificationLevelToU128 value).map claimValueInt
  | "birthdate" => (dateToYyyymmdd value).map claimValueInt
  | "email_verified" | "resident" => (jsonToBool value).map fun b => claimValueInt b.toNat
  | "nationality" | "residentCountry" => value.asStr.map padCountry
  | "personhoodSecret" => hexTo32 value
  | _ => none

/-- `(name, disclosure salt, value)`. -/
structure ClaimEntry where
  name : String
  salt : String
  value : Json

def salt32For (disclosureSalt : String) : Bytes32 := H.sha256 (asBytes disclosureSalt)

/-- The name and commitment of an entry that a predicate can bind to. -/
def entryCommit (entry : ClaimEntry) : Option (String × Bytes32) :=
  (claimValue32 entry.name entry.value).map fun v32 =>
    (entry.name, claimCommit H entry.name v32 (salt32For H entry.salt))

/-- The commitments of a credential, in claim-name order. -/
def claimLeaves (entries : List ClaimEntry) : List Bytes32 :=
  ((entries.filterMap (entryCommit H)).insertionSort (fun a b => a.1 ≤ b.1)).map Prod.snd

def owlRootForClaims (entries : List ClaimEntry) : Option Bytes32 :=
  owlClaimsRoot H (claimLeaves H entries)

/-! ## What the recipes compute -/

/-- The layer loop computes the recursive root of the padded tree. -/
theorem merkleRootOf_eq_treeRoot (slots : List Bytes32) :
    merkleRootOf H slots =
      Merkle.treeRoot (merkleNode H) merkleDepth
        (fun i => countryLeafFr H (slots.getD i zero32)) 0 := by
  simp [merkleRootOf, countrySetSlots, Merkle.foldLayers_range]

theorem merkleRootOf_eq_sparseRoot (slots : List Bytes32) :
    merkleRootOf H slots =
      Merkle.sparseRoot (merkleNode H) merkleDepth (countryLeafFr H zero32)
        (slots.map (countryLeafFr H)) := by
  rw [merkleRootOf_eq_treeRoot, ← Merkle.treeRoot_eq_sparseRoot]
  simp only [List.getD_map]

theorem pad32_inj {a b : String} (fits : (asBytes a).length ≤ 32 ∧ 0 ∉ asBytes a)
    (fits' : (asBytes b).length ≤ 32 ∧ 0 ∉ asBytes b) (same : pad32 a = pad32 b) : a = b :=
  asBytes_injective (padBytes_inj fits.1 fits'.1 fits.2 fits'.2 same)

theorem frToLeBytes32_injective : Function.Injective frToLeBytes32 := by
  intro a b h
  have bound : frModulus ≤ 256 ^ 32 := by decide
  exact Fin.ext (leBytes32_inj (lt_of_lt_of_le a.isLt bound) (lt_of_lt_of_le b.isLt bound) h)

theorem dateToYyyymmdd_lt {v : Json} {ymd : Nat} (parsed : dateToYyyymmdd v = some ymd) :
    ymd < 2 ^ 32 := by
  simp only [dateToYyyymmdd, Option.bind_eq_bind, Option.bind_eq_some_iff] at parsed
  obtain ⟨_, _, y, _, m, _, d, _, bounded⟩ := parsed
  split at bounded
  · cases bounded
  · have := Option.some.inj bounded
    omega

theorem mem_claimLeaves {entries : List ClaimEntry} {leaf : Bytes32} :
    leaf ∈ claimLeaves H entries ↔
      ∃ entry ∈ entries, ∃ v32, claimValue32 entry.name entry.value = some v32 ∧
        leaf = claimCommit H entry.name v32 (salt32For H entry.salt) := by
  simp only [claimLeaves, List.mem_map, List.mem_insertionSort, List.mem_filterMap, entryCommit,
    Option.map_eq_some_iff]
  constructor
  · rintro ⟨_, ⟨entry, member, v32, value, rfl⟩, rfl⟩
    exact ⟨entry, member, v32, value, rfl⟩
  · rintro ⟨entry, member, v32, value, rfl⟩
    exact ⟨_, ⟨entry, member, v32, value, rfl⟩, rfl⟩

theorem dropPairs_hexEncodeChars (bs : Bytes) :
    dropPairs '0' 'x' (hexEncodeChars bs) = hexEncodeChars bs := by
  cases bs with
  | nil => rfl
  | cons b rest =>
    have digits : ∀ n < 16, hexDigit n ≠ 'x' := by decide
    rw [hexEncodeChars, dropPairs, if_neg]
    rintro ⟨_, low⟩
    exact digits (b.toNat % 16) (by omega) low

/-- The encoder writes no `0x` that a reader would trim. -/
@[simp] theorem trimStart0x_hexEncode (bs : Bytes) :
    trimStart0x (hexEncode bs) = hexEncode bs := by
  simp [trimStart0x, hexEncode, dropPairs_hexEncodeChars]

/-! ## Claims a predicate can bind to -/

def bearingNames : List String :=
  ["verification_level", "birthdate", "email_verified", "resident", "nationality",
    "residentCountry", "personhoodSecret"]

theorem mem_bearingNames {name : String} {value : Json} {word : Bytes32}
    (bears : claimValue32 name value = some word) : name ∈ bearingNames := by
  unfold claimValue32 at bears
  split at bears <;> simp_all [bearingNames]

/-- A credential whose claim names are distinct has few commitments, so it has a root. -/
theorem owlRootForClaims_isSome {entries : List ClaimEntry}
    (nodup : (entries.map ClaimEntry.name).Nodup) :
    ∃ owlRoot, owlRootForClaims H entries = some owlRoot := by
  have names : ∀ es : List ClaimEntry,
      List.Sublist ((es.filterMap (entryCommit H)).map Prod.fst) (es.map ClaimEntry.name) := by
    intro es
    induction es with
    | nil => simp
    | cons entry rest ih =>
      cases committed : claimValue32 entry.name entry.value with
      | none => simpa [entryCommit, committed] using ih.cons entry.name
      | some word => simpa [entryCommit, committed] using ih.cons_cons entry.name
  have bearing : (entries.filterMap (entryCommit H)).map Prod.fst ⊆ bearingNames := by
    intro name member
    simp only [List.mem_map, List.mem_filterMap, entryCommit, Option.map_eq_some_iff] at member
    obtain ⟨_, ⟨entry, _, word, bears, rfl⟩, rfl⟩ := member
    exact mem_bearingNames bears
  have few : (claimLeaves H entries).length ≤ countrySetSlots := by
    have bound := (List.subperm_of_subset (nodup.sublist (names entries)) bearing).length_le
    have slots : bearingNames.length ≤ countrySetSlots := by decide
    simp only [claimLeaves, List.length_map, List.length_insertionSort] at bound ⊢
    omega
  exact ⟨_, by rw [owlRootForClaims, owlClaimsRoot, if_pos few]⟩

/-! ## A hash family for concrete runs -/

/-- Small polynomial hashes, with no collision on the inputs of the concrete runs. -/
@[irreducible] def sampleHashes : Hashes where
  sha256 m := leBytes32 (m.foldl (fun acc b => (acc * 257 + b.toNat + 1) % (2 ^ 61 - 1)) 1 + 1)
  degradeToTransient b := Fin.ofNat _ (b.toList.foldr (fun x acc => x.toNat + 256 * acc) 0)
  transientHash l r := Fin.ofNat _ (max l.val r.val + 1)

/-- The number whose digits are the sample SHA-256 value. -/
def sampleDigest (m : Bytes) : Nat :=
  m.foldl (fun acc b => (acc * 257 + b.toNat + 1) % (2 ^ 61 - 1)) 1 + 1

theorem sampleHashes_sha256 (m : Bytes) : sampleHashes.sha256 m = leBytes32 (sampleDigest m) := by
  rw [sampleHashes, sampleDigest]

theorem sampleDigest_bounds (m : Bytes) : 0 < sampleDigest m ∧ sampleDigest m < 256 ^ 32 := by
  have step : ∀ (acc : Nat), acc < 2 ^ 61 →
      m.foldl (fun acc b => (acc * 257 + b.toNat + 1) % (2 ^ 61 - 1)) acc < 2 ^ 61 := by
    induction m with
    | nil => exact fun acc bound => bound
    | cons b rest ih =>
      intro acc _
      exact ih _ (lt_trans (Nat.mod_lt _ (by decide)) (by decide))
  have bound := step 1 (by decide)
  rw [sampleDigest]
  omega

theorem sampleDigest_eq {m m' : Bytes} (same : sampleHashes.sha256 m = sampleHashes.sha256 m') :
    sampleDigest m = sampleDigest m' := by
  rw [sampleHashes_sha256, sampleHashes_sha256] at same
  exact leBytes32_inj (sampleDigest_bounds m).2 (sampleDigest_bounds m').2 same

theorem sampleHashes_ne_zero (m : Bytes) : sampleHashes.sha256 m ≠ zero32 := by
  have zero : leBytes32 0 = zero32 := by decide
  intro same
  rw [sampleHashes_sha256, ← zero] at same
  have bounds := sampleDigest_bounds m
  have equal := leBytes32_inj bounds.2 (by decide) same
  omega

end OwlId.ProofSystem
