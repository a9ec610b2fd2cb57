import Mathlib
import OwlId.Sdk.AttestationKeys
import OwlId.Sdk.ClaimDates

/-! # The wallet's tree and the issuer's root

Claim by claim, the values that the Rust encoder and its port commit to alike, and
from it when the tree a wallet rebuilds from a list of disclosures has the leaves and
the root of the issuer's.
-/

namespace OwlId.Sdk

open OwlId.Lib OwlId.ProofSystem OwlId.Contracts

/-! ## Countries and secrets -/

/-- The port upper-cases a country, the issuer does not: none of the 32 bytes may change. -/
def CountryAlike : Json → Prop
  | .string s => padBytes (asBytes (toUpperCase s)) = padBytes (asBytes s)
  | _ => True

/-- A secret the issuer reads has at most one `0x`. -/
def SecretAlike : Json → Prop
  | .string s =>
    (∃ word : Bytes32, hexDecode (trimStart0x s) = some word.toList) → ∃ word, HexOf s word
  | _ => True

theorem hexDecodeChars_isSome {cs : List Char} (digits : cs.all (fun c => (hexVal c).isSome) = true)
    (even : cs.length % 2 = 0) : ∃ bs, hexDecodeChars cs = some bs := by
  induction cs using hexDecodeChars.induct with
  | case1 => exact ⟨[], rfl⟩
  | case2 c => simp at even
  | case3 a b rest ih =>
    simp only [List.all_cons, Bool.and_eq_true] at digits
    obtain ⟨x, high⟩ := Option.isSome_iff_exists.mp digits.1
    obtain ⟨y, low⟩ := Option.isSome_iff_exists.mp digits.2.1
    obtain ⟨tail, others⟩ := ih digits.2.2 (by simp only [List.length_cons] at even; omega)
    refine ⟨UInt8.ofNat (16 * x + y) :: tail, ?_⟩
    simp only [hexDecodeChars, high, low, others, Option.bind_eq_bind, Option.bind_some,
      Option.pure_def]

theorem hexVal_of_decode {cs : List Char} {bs : Bytes} (decoded : hexDecodeChars cs = some bs) :
    cs.all (fun c => (hexVal c).isSome) = true := by
  induction cs using hexDecodeChars.induct generalizing bs with
  | case1 => rfl
  | case2 c => cases decoded
  | case3 a b rest ih =>
    simp only [hexDecodeChars, Option.bind_eq_bind, Option.bind_eq_some_iff] at decoded
    obtain ⟨x, high, y, low, tail, others, _⟩ := decoded
    simp [high, low, ih others]

theorem hexTo32_eq_some {s : String} {word : Bytes32} :
    hexTo32 (.string s) = some word ↔ HexOf s word := by
  simp only [hexTo32, Json.asStr, Option.bind_eq_bind, Option.bind_some, String.toList_ofList]
  constructor
  · intro read
    split at read
    · rename_i form
      have ascii : ∀ c ∈ (String.ofList (strip0x s.toList)).toList, c.toNat < 128 := by
        intro c member
        rw [String.toList_ofList] at member
        obtain ⟨n, value⟩ := Option.isSome_iff_exists.mp (List.all_eq_true.mp form.2 c member)
        exact (hexVal_bounds value).1
      have length : (strip0x s.toList).length = 64 := by
        have units := form.1
        rwa [utf16Length_of_ascii ascii, String.toList_ofList] at units
      obtain ⟨bs, decoded⟩ := hexDecodeChars_isSome form.2 (by omega)
      rw [utf16Units_of_ascii ascii, String.toList_ofList, (parseHexPairs_of_decode decoded).1,
        tryInto32_eq_some] at read
      rw [HexOf, decoded, read]
    · cases read
  · intro hex
    obtain ⟨read, ascii⟩ := parseHexPairs_of_decode hex
    have ascii' : ∀ c ∈ (String.ofList (strip0x s.toList)).toList, c.toNat < 128 := by
      rwa [String.toList_ofList]
    have length := hexDecodeChars_length hex
    rw [Vector.length_toList] at length
    rw [if_pos ⟨by rw [utf16Length_of_ascii ascii', String.toList_ofList, length], hexVal_of_decode hex⟩,
      utf16Units_of_ascii ascii', String.toList_ofList, read, tryInto32_toList]

theorem hexTo32_eq_iff (v : Json) : hexTo32 v = ProofSystem.hexTo32 v ↔ SecretAlike v := by
  cases v with
  | string s =>
    have there : ∀ word : Bytes32, ProofSystem.hexTo32 (.string s) = some word ↔
        hexDecode (trimStart0x s) = some word.toList := by
      intro word
      simp [ProofSystem.hexTo32, Json.asStr, tryInto32_eq_some, Option.bind_eq_some_iff]
    have both : ∀ word : Bytes32, HexOf s word → hexDecode (trimStart0x s) = some word.toList := by
      intro word hex
      rw [trimStart0x_eq_strip0x hex, hexDecode, String.toList_ofList]
      exact hex
    rw [SecretAlike]
    constructor
    · rintro same ⟨word, read⟩
      exact ⟨word, hexTo32_eq_some.mp (same.trans ((there word).mpr read))⟩
    · intro alike
      apply Option.ext
      intro word
      rw [hexTo32_eq_some, there]
      constructor
      · exact both word
      · intro read
        obtain ⟨other, hex⟩ := alike ⟨word, read⟩
        have same := (both other hex).symm.trans read
        rwa [← Vector.toList_inj.mp (Option.some.inj same)]
  | _ => exact iff_of_true (by simp [hexTo32, ProofSystem.hexTo32, Json.asStr]) trivial

/-! ## One claim -/

/-- The claim is committed to alike by both sides. -/
def Alike (name : String) (value : Json) : Prop :=
  match name with
  | "verification_level" => LevelAlike value
  | "birthdate" => DateAlike value
  | "email_verified" | "resident" => FlagAlike value
  | "nationality" | "residentCountry" => CountryAlike value
  | "personhoodSecret" => SecretAlike value
  | _ => True

theorem map_word_eq_iff {α : Type} {f g : α → Bytes32} (same : ∀ a, f a = g a) {x y : Option α}
    (injective : ∀ a b, x = some a → y = some b → g a = g b → a = b) :
    x.map f = y.map g ↔ x = y := by
  cases x with
  | none => cases y <;> simp
  | some a =>
    cases y with
    | none => simp
    | some b =>
      simp only [Option.map_some, Option.some.injEq, same]
      exact ⟨injective a b rfl rfl, fun equal => by rw [equal]⟩

theorem claimValue32_eq_iff {name : String} {value : Json} (valid : ValidNumber value) :
    claimValue32 name value = .ok (ProofSystem.claimValue32 name value) ↔ Alike name value := by
  have flag : Except.ok (ε := String) ((toBool value).map fun b => intLE32 b.toNat) =
      .ok ((jsonToBool value).map fun b => claimValueInt b.toNat) ↔ FlagAlike value := by
    rw [Except.ok.injEq, ← toBool_eq_iff]
    apply map_word_eq_iff (fun b => intLE32_natCast _)
    intro b b' _ _ words
    have values := u128Le32_inj (by cases b <;> decide) (by cases b' <;> decide) words
    cases b <;> cases b' <;> simp_all
  have date : Except.ok (ε := String) ((dateToYmd value).map fun d : Nat => intLE32 d) =
      .ok ((dateToYyyymmdd value).map claimValueInt) ↔ DateAlike value := by
    rw [Except.ok.injEq, ← dateToYmd_eq_iff]
    apply map_word_eq_iff (fun d => intLE32_natCast d)
    intro d d' here there words
    have small := dateToYmd_lt here
    have small' := dateToYyyymmdd_lt there
    exact u128Le32_inj (by omega) (by omega) words
  have country : Except.ok (ε := String) (value.asStr.map fun s => padBytes (asBytes (toUpperCase s))) =
      .ok (value.asStr.map ProofSystem.padCountry) ↔ CountryAlike value := by
    cases value <;> simp [Json.asStr, CountryAlike, ProofSystem.padCountry]
  have secret : Except.ok (ε := String) (hexTo32 value) = .ok (ProofSystem.hexTo32 value) ↔
      SecretAlike value := by
    rw [Except.ok.injEq, hexTo32_eq_iff]
  unfold claimValue32
  split
  · exact levelWord_eq_iff valid
  · exact date
  · exact flag
  · exact flag
  · exact country
  · exact country
  · exact secret
  · rename_i other₁ other₂ other₃ other₄ other₅ other₆ other₇
    simp [ProofSystem.claimValue32, Alike, *]

/-! ## The tree -/

theorem mem_bearingNames_port {name : String} {value : Json} {word : Bytes32}
    (bears : claimValue32 name value = .ok (some word)) : name ∈ bearingNames := by
  unfold claimValue32 at bears
  split at bears <;> simp_all [bearingNames]

/-- The two orders of strings agree on the names that are committed to. -/
theorem bearingNames_order : ∀ a ∈ bearingNames, ∀ b ∈ bearingNames,
    (decide (utf16Codes a ≤ utf16Codes b) = decide (a ≤ b)) := by decide

theorem insertionSort_congr {α : Type} {r r' : α → α → Prop} [DecidableRel r] [DecidableRel r']
    {xs : List α} (agree : ∀ a ∈ xs, ∀ b ∈ xs, r a b ↔ r' a b) :
    xs.insertionSort r = xs.insertionSort r' := by
  have insert : ∀ (a : α) (ys : List α), (∀ b ∈ ys, r a b ↔ r' a b) →
      ys.orderedInsert r a = ys.orderedInsert r' a := by
    intro a ys same
    induction ys with
    | nil => rfl
    | cons b rest ih =>
      have head := same b (by simp)
      by_cases before : r a b
      · rw [List.orderedInsert_cons_of_le r rest before,
          List.orderedInsert_cons_of_le r' rest (head.mp before)]
      · rw [List.orderedInsert_of_not_le r rest before,
          List.orderedInsert_of_not_le r' rest (mt head.mpr before),
          ih fun c member => same c (by simp [member])]
  induction xs with
  | nil => rfl
  | cons a rest ih =>
    rw [List.insertionSort_cons, List.insertionSort_cons,
      ih fun b member c member' => agree b (by simp [member]) c (by simp [member'])]
    apply insert
    intro b member
    exact agree a (by simp) b (by simp [(List.mem_insertionSort r').mp member])

theorem exists_mem_of_forall₂ {α β : Type} {r : α → β → Prop} {xs : List α} {ys : List β}
    (related : List.Forall₂ r xs ys) {x : α} (member : x ∈ xs) : ∃ y ∈ ys, r x y := by
  induction related with
  | nil => cases member
  | cons head _ ih =>
    cases member with
    | head => exact ⟨_, by simp, head⟩
    | tail _ later =>
      obtain ⟨y, inside, holds⟩ := ih later
      exact ⟨y, by simp [inside], holds⟩

section

variable {H : Hashes} {entries : List ClaimEntry}

theorem claimCommitOf_eq_ok {entry : ClaimEntry} {commit : Option (String × Bytes32)} :
    claimCommitOf H entry = .ok commit ↔
      ∃ word, claimValue32 entry.name entry.value = .ok word ∧
        commit = word.map fun v32 =>
          (entry.name, claimCommit H entry.name v32 (salt32For H entry.salt)) := by
  simp only [claimCommitOf, bind_eq_ok, pure_eq_ok]
  constructor
  · rintro ⟨word, value, same⟩
    exact ⟨word, value, same.symm⟩
  · rintro ⟨word, value, same⟩
    exact ⟨word, value, same.symm⟩

/-- A tree that is built commits to every claim the port reads, in the order of names. -/
theorem buildOwlRootTree_eq_ok {tree : OwlRootTree} :
    buildOwlRootTree H entries = .ok tree ↔
      ∃ commits, entries.mapM (claimCommitOf H) = .ok commits ∧
        tree.commits = (commits.filterMap id).insertionSort
          (fun a b => utf16Codes a.1 ≤ utf16Codes b.1) ∧
        tree.commits.length ≤ countrySetSlots := by
  simp only [buildOwlRootTree, bind_eq_ok]
  constructor
  · rintro ⟨commits, each, built⟩
    split at built
    · cases built
    · rename_i fits
      obtain rfl := Except.ok.inj built
      exact ⟨commits, each, rfl, not_lt.mp fits⟩
  · rintro ⟨commits, each, same, fits⟩
    refine ⟨commits, each, ?_⟩
    rw [same] at fits
    rw [if_neg (by omega)]
    exact congrArg Except.ok (by cases tree; simp_all)

theorem mem_leaves {tree : OwlRootTree} (built : buildOwlRootTree H entries = .ok tree)
    {leaf : Bytes32} :
    leaf ∈ tree.leaves ↔ ∃ entry ∈ entries, ∃ v32,
      claimValue32 entry.name entry.value = .ok (some v32) ∧
        leaf = claimCommit H entry.name v32 (salt32For H entry.salt) := by
  obtain ⟨commits, each, same, _⟩ := buildOwlRootTree_eq_ok.mp built
  rw [mapM_eq_ok] at each
  rw [OwlRootTree.leaves, same, List.mem_map]
  simp only [List.mem_insertionSort, List.mem_filterMap, id]
  constructor
  · intro ⟨⟨name, commit⟩, ⟨_, member, rfl⟩, here⟩
    obtain ⟨entry, inside, committed⟩ := exists_mem_of_forall₂ each.flip member
    obtain ⟨word, value, commit_eq⟩ := claimCommitOf_eq_ok.mp committed
    cases word with
    | none => cases commit_eq
    | some v32 =>
      simp only [Option.map_some, Option.some.injEq, Prod.mk.injEq] at commit_eq
      exact ⟨entry, inside, v32, value, here.symm.trans commit_eq.2⟩
  · intro ⟨entry, inside, v32, value, here⟩
    obtain ⟨commit, member, committed⟩ := exists_mem_of_forall₂ each inside
    obtain ⟨word, value', commit_eq⟩ := claimCommitOf_eq_ok.mp committed
    rw [value, Except.ok.injEq] at value'
    subst value'
    exact ⟨_, ⟨_, member, commit_eq⟩, here.symm⟩

theorem value_of_built {tree : OwlRootTree} (built : buildOwlRootTree H entries = .ok tree)
    {entry : ClaimEntry} (inside : entry ∈ entries) :
    ∃ word, claimValue32 entry.name entry.value = .ok word := by
  obtain ⟨commits, each, _⟩ := buildOwlRootTree_eq_ok.mp built
  obtain ⟨commit, _, committed⟩ := exists_mem_of_forall₂ (mapM_eq_ok.mp each) inside
  obtain ⟨word, value, _⟩ := claimCommitOf_eq_ok.mp committed
  exact ⟨word, value⟩

end

/-! ## Main result -/

section

variable (H : Hashes) (entries : List ClaimEntry)

/-- The port encodes every claim as the issuer does, puts the same leaves in the same slots
and computes the same root; over 256 commitments both refuse. -/
structure SameTree : Prop where
  values : ∀ entry ∈ entries,
    claimValue32 entry.name entry.value = .ok (ProofSystem.claimValue32 entry.name entry.value)
  leaves : (buildOwlRootTree H entries).toOption.map OwlRootTree.leaves =
    if (claimLeaves H entries).length ≤ countrySetSlots then some (claimLeaves H entries) else none
  root : (buildOwlRootTree H entries).toOption.map (owlRootBytesLE H) = owlRootForClaims H entries

/-- What either side hashes for the commitments. -/
def commitInputs : List HashInput :=
  entries.flatMap fun entry =>
    ((ProofSystem.claimValue32 entry.name entry.value).toList ++
      ((claimValue32 entry.name entry.value).toOption.getD none).toList).map fun v32 =>
        wordsInput [pad32 entry.name, v32, salt32For H entry.salt]

end

section

variable {H : Hashes} {entries : List ClaimEntry}

theorem entryCommits_sorted :
    (entries.filterMap (entryCommit H)).insertionSort
        (fun a b => utf16Codes a.1 ≤ utf16Codes b.1) =
      (entries.filterMap (entryCommit H)).insertionSort (fun a b => a.1 ≤ b.1) := by
  have named : ∀ commit ∈ entries.filterMap (entryCommit H), commit.1 ∈ bearingNames := by
    intro commit member
    obtain ⟨entry, _, committed⟩ := List.mem_filterMap.mp member
    obtain ⟨word, bears, rfl⟩ := Option.map_eq_some_iff.mp committed
    exact mem_bearingNames bears
  apply insertionSort_congr
  intro a member b member'
  have order := bearingNames_order a.1 (named a member) b.1 (named b member')
  rw [Bool.eq_iff_iff, decide_eq_true_eq, decide_eq_true_eq] at order
  exact order

/-- Where every claim is encoded alike, so is the tree. -/
theorem buildOwlRootTree_of_values (values : ∀ entry ∈ entries,
    claimValue32 entry.name entry.value = .ok (ProofSystem.claimValue32 entry.name entry.value)) :
    (buildOwlRootTree H entries).toOption.map OwlRootTree.leaves =
      if (claimLeaves H entries).length ≤ countrySetSlots then some (claimLeaves H entries)
      else none := by
  have each : entries.mapM (claimCommitOf H) = .ok (entries.map (entryCommit H)) := by
    rw [mapM_eq_ok, List.forall₂_map_right_iff, List.forall₂_same]
    intro entry member
    exact claimCommitOf_eq_ok.mpr ⟨_, values entry member, rfl⟩
  have commits : (entries.map (entryCommit H)).filterMap id =
      entries.filterMap (entryCommit H) := by
    rw [List.filterMap_map]
    rfl
  by_cases fits : (claimLeaves H entries).length ≤ countrySetSlots
  · have built : buildOwlRootTree H entries =
        .ok ⟨(entries.filterMap (entryCommit H)).insertionSort (fun a b => a.1 ≤ b.1)⟩ := by
      refine buildOwlRootTree_eq_ok.mpr ⟨_, each, ?_, ?_⟩
      · rw [commits, entryCommits_sorted]
      · simpa [claimLeaves] using fits
    rw [built, if_pos fits]
    rfl
  · rw [if_neg fits, Option.map_eq_none_iff]
    cases built : buildOwlRootTree H entries with
    | error message => rfl
    | ok tree =>
      obtain ⟨_, each', same, small⟩ := buildOwlRootTree_eq_ok.mp built
      rw [each, Except.ok.injEq] at each'
      subst each'
      rw [same, commits, entryCommits_sorted] at small
      exact absurd (by simpa [claimLeaves] using small) fits

theorem sameTree_of_values (values : ∀ entry ∈ entries,
    claimValue32 entry.name entry.value = .ok (ProofSystem.claimValue32 entry.name entry.value)) :
    SameTree H entries where
  values := values
  leaves := buildOwlRootTree_of_values values
  root := by
    have leaves := buildOwlRootTree_of_values (H := H) values
    have root : (buildOwlRootTree H entries).toOption.map (owlRootBytesLE H) =
        ((buildOwlRootTree H entries).toOption.map OwlRootTree.leaves).map
          fun slots => frToLeBytes32 (merkleRootOf H slots) := by
      rw [Option.map_map]
      rfl
    rw [root, leaves, owlRootForClaims, owlClaimsRoot]
    split <;> rfl

/-- A leaf of either tree tells the claim and its word. -/
theorem commit_inj (injective : Injective H (commitInputs H entries))
    (nodup : (entries.map ClaimEntry.name).Nodup) {entry entry' : ClaimEntry} {v v' : Bytes32}
    (inside : entry ∈ entries) (inside' : entry' ∈ entries)
    (bearing : entry.name ∈ bearingNames) (bearing' : entry'.name ∈ bearingNames)
    (hashed : wordsInput [pad32 entry.name, v, salt32For H entry.salt] ∈ commitInputs H entries)
    (hashed' : wordsInput [pad32 entry'.name, v', salt32For H entry'.salt] ∈ commitInputs H entries)
    (same : claimCommit H entry.name v (salt32For H entry.salt) =
      claimCommit H entry'.name v' (salt32For H entry'.salt)) : entry = entry' ∧ v = v' := by
  have words := injective.words hashed hashed' same
  simp only [List.cons.injEq, and_true] at words
  refine ⟨?_, words.2.1⟩
  exact List.inj_on_of_nodup_map nodup inside inside'
    (pad32_injOn_bearingNames _ bearing _ bearing' words.1)

theorem values_of_leaves (injective : Injective H (commitInputs H entries))
    (nodup : (entries.map ClaimEntry.name).Nodup)
    (leaves : (buildOwlRootTree H entries).toOption.map OwlRootTree.leaves =
      some (claimLeaves H entries)) :
    ∀ entry ∈ entries,
      claimValue32 entry.name entry.value = .ok (ProofSystem.claimValue32 entry.name entry.value) := by
  obtain ⟨tree, built, same⟩ : ∃ tree, buildOwlRootTree H entries = .ok tree ∧
      tree.leaves = claimLeaves H entries := by
    obtain ⟨tree, built, same⟩ := Option.map_eq_some_iff.mp leaves
    exact ⟨tree, Verification.toOption_eq_some.mp built, same⟩
  have hashedHere : ∀ {entry : ClaimEntry} {v : Bytes32}, entry ∈ entries →
      claimValue32 entry.name entry.value = .ok (some v) →
      wordsInput [pad32 entry.name, v, salt32For H entry.salt] ∈ commitInputs H entries := by
    intro entry v inside value
    refine List.mem_flatMap.mpr ⟨entry, inside, List.mem_map.mpr ⟨v, ?_, rfl⟩⟩
    simp [value, Except.toOption]
  have hashedThere : ∀ {entry : ClaimEntry} {v : Bytes32}, entry ∈ entries →
      ProofSystem.claimValue32 entry.name entry.value = some v →
      wordsInput [pad32 entry.name, v, salt32For H entry.salt] ∈ commitInputs H entries := by
    intro entry v inside value
    refine List.mem_flatMap.mpr ⟨entry, inside, List.mem_map.mpr ⟨v, ?_, rfl⟩⟩
    simp [value]
  intro entry inside
  obtain ⟨word, value⟩ := value_of_built built inside
  rw [value, Except.ok.injEq]
  apply Option.ext
  intro v
  constructor
  · intro read
    rw [read] at value
    have leaf := (mem_leaves built).mpr ⟨entry, inside, v, value, rfl⟩
    rw [same] at leaf
    obtain ⟨entry', inside', v', value', commit⟩ := (mem_claimLeaves H).mp leaf
    obtain ⟨rfl, rfl⟩ := commit_inj injective nodup inside inside' (mem_bearingNames_port value)
      (mem_bearingNames value') (hashedHere inside value) (hashedThere inside' value') commit
    exact value'
  · intro read
    have leaf := (mem_claimLeaves H).mpr ⟨entry, inside, v, read, rfl⟩
    rw [← same] at leaf
    obtain ⟨entry', inside', v', value', commit⟩ := (mem_leaves built).mp leaf
    obtain ⟨rfl, rfl⟩ := commit_inj injective nodup inside inside' (mem_bearingNames read)
      (mem_bearingNames_port value') (hashedThere inside read) (hashedHere inside' value') commit
    rw [value, Except.ok.injEq] at value'
    exact value'

end

/-- The wallet rebuilds the issuer's tree exactly when every claim is written in a form both
encoders read alike; of a credential, whose claim names are distinct, this is so already when
the leaves are the same. -/
theorem owl_root_trees_agree_iff (H : Hashes) (entries : List ClaimEntry)
    (valid : ∀ entry ∈ entries, ValidNumber entry.value) :
    (SameTree H entries ↔ ∀ entry ∈ entries, Alike entry.name entry.value) ∧
    ((entries.map ClaimEntry.name).Nodup → Injective H (commitInputs H entries) →
      ((buildOwlRootTree H entries).toOption.map OwlRootTree.leaves =
          some (claimLeaves H entries) ↔
        ∀ entry ∈ entries, Alike entry.name entry.value)) := by
  have each : (∀ entry ∈ entries, claimValue32 entry.name entry.value =
      .ok (ProofSystem.claimValue32 entry.name entry.value)) ↔
      ∀ entry ∈ entries, Alike entry.name entry.value :=
    forall₂_congr fun entry member => claimValue32_eq_iff (valid entry member)
  refine ⟨?_, fun nodup injective => ?_⟩
  · rw [← each]
    exact ⟨SameTree.values, sameTree_of_values⟩
  · rw [← each]
    constructor
    · exact values_of_leaves injective nodup
    · intro values
      have fits : (claimLeaves H entries).length ≤ countrySetSlots := by
        obtain ⟨root, committed⟩ := owlRootForClaims_isSome H nodup
        rw [owlRootForClaims, owlClaimsRoot] at committed
        by_contra large
        rw [if_neg large] at committed
        cases committed
      rw [buildOwlRootTree_of_values values, if_pos fits]

/-- A country in lower case: the wallet commits to `NL`, the issuer to `nl`. -/
theorem lower_case_country_changes_tree :
    ¬ ∀ (H : Hashes) (entries : List ClaimEntry), (∀ entry ∈ entries, ValidNumber entry.value) →
      SameTree H entries := by
  intro agree
  have same := (agree sampleHashes [⟨"nationality", "salt", .string "nl"⟩] (by simp [ValidNumber])).values
    _ (List.mem_singleton.mpr rfl)
  have words : Alike "nationality" (.string "nl") :=
    (claimValue32_eq_iff (by simp [ValidNumber])).mp same
  have differ : ¬ padBytes (asBytes (toUpperCase "nl")) = padBytes (asBytes "nl") := by
    decide
  exact differ words

def sampleClaims : List ClaimEntry :=
  [⟨"birthdate", "salt-a", .string "2006-06-24"⟩, ⟨"email_verified", "salt-b", .bool true⟩,
    ⟨"nationality", "salt-c", .string "NL"⟩]

theorem owl_root_trees_agree_at_sample :
    SameTree sampleHashes sampleClaims ∧
      (buildOwlRootTree sampleHashes sampleClaims).toOption.map OwlRootTree.leaves =
        some (claimLeaves sampleHashes sampleClaims) := by
  have valid : ∀ entry ∈ sampleClaims, ValidNumber entry.value := by
    simp [sampleClaims, ValidNumber]
  have alike : ∀ entry ∈ sampleClaims, Alike entry.name entry.value := by
    intro entry member
    simp only [sampleClaims, List.mem_cons, List.not_mem_nil, or_false] at member
    rcases member with rfl | rfl | rfl
    · intro _
      exact ⟨['2', '0', '0', '6'], ['0', '6'], ['2', '4'], [], rfl, rfl, rfl, by simp, .inl rfl,
        by simp [digitVal]⟩
    · trivial
    · show padBytes (asBytes (toUpperCase "NL")) = padBytes (asBytes "NL")
      decide
  have nodup : (sampleClaims.map ClaimEntry.name).Nodup := by decide
  have free : CollisionFree sampleHashes (commitInputs sampleHashes sampleClaims) :=
    sampleHashes_collisionFree (by decide +kernel)
  exact ⟨(owl_root_trees_agree_iff sampleHashes sampleClaims valid).1.mpr alike,
    ((owl_root_trees_agree_iff sampleHashes sampleClaims valid).2 nodup free.injective).mpr alike⟩

end OwlId.Sdk
