import Mathlib
import OwlId.Lib.JsText
import OwlId.ProofSystem.Countries

/-! # Country lists in the SDK

The SDK's port of `canonicalise_countries`, which trims and upper-cases by Unicode
where Rust works on ASCII.  The two read every entry alike unless it holds one of
twelve characters: two that only one of the languages trims, and ten that Unicode
upper-cases into ASCII letters.
-/

namespace OwlId.Sdk

open OwlId.Lib OwlId.ProofSystem

/-! ## The port -/

/-- `/^[A-Z]{2}$/`. -/
def isUpperAlpha2 (code : String) : Bool :=
  code.toList.length == 2 && code.toList.all isAsciiUppercase

/-- The code an entry stands for. -/
def countryCode (raw : String) : Option String :=
  let code := toUpperCase (jsTrim raw)
  if utf16Length code = 2 ∧ isUpperAlpha2 code = true then some code else none

/-- One round of the loop over a `Set`, which keeps the order of insertion. -/
def addCode (seen : List String) (raw : String) : List String :=
  match countryCode raw with
  | some code => if code ∈ seen then seen else seen ++ [code]
  | none => seen

def canonicaliseCountries (codes : List String) : List String :=
  (codes.foldl addCode []).insertionSort (· ≤ ·)

/-- `padCountry` upper-cases once more, which leaves canonical codes alone. -/
def padCountry (code : String) : Bytes32 := padBytes (asBytes (toUpperCase code))

/-- The leaves of the tree; a set over capacity is refused. -/
def buildAllowedSetTree (codes : List String) : Option (List Bytes32) :=
  let canon := canonicaliseCountries codes
  if countrySetSlots < canon.length then none else some (canon.map padCountry)

/-! ## The loop -/

theorem mem_foldl_addCode {codes seen : List String} {code : String} :
    code ∈ codes.foldl addCode seen ↔
      code ∈ seen ∨ ∃ raw ∈ codes, countryCode raw = some code := by
  induction codes generalizing seen with
  | nil => simp
  | cons raw rest ih =>
    rw [List.foldl_cons, ih]
    unfold addCode
    cases read : countryCode raw with
    | none => simp [read]
    | some other =>
      by_cases old : other ∈ seen
      · simp only [old, if_true, List.mem_cons, exists_eq_or_imp, read, Option.some.injEq]
        constructor
        · intro held
          cases held with
          | inl before => exact .inl before
          | inr later => exact .inr (.inr later)
        · intro held
          rcases held with before | same | later
          · exact .inl before
          · exact .inl (same ▸ old)
          · exact .inr later
      · simp only [old, if_false, List.mem_append, List.mem_cons, List.not_mem_nil, or_false,
          exists_eq_or_imp, read, Option.some.injEq, or_assoc, @eq_comm _ code other]

theorem foldl_addCode_nodup {codes seen : List String} (nodup : seen.Nodup) :
    (codes.foldl addCode seen).Nodup := by
  induction codes generalizing seen with
  | nil => exact nodup
  | cons raw rest ih =>
    rw [List.foldl_cons]
    apply ih
    unfold addCode
    cases countryCode raw with
    | none => exact nodup
    | some code =>
      by_cases old : code ∈ seen
      · simpa [old] using nodup
      · simp only [old, if_false]
        exact List.nodup_append.mpr ⟨nodup, List.nodup_singleton _,
          fun a member b single => by
            rw [List.mem_singleton] at single
            exact fun same => old (single ▸ same ▸ member)⟩

theorem mem_canonicaliseCountries {codes : List String} {code : String} :
    code ∈ canonicaliseCountries codes ↔ ∃ raw ∈ codes, countryCode raw = some code := by
  rw [canonicaliseCountries, List.mem_insertionSort, mem_foldl_addCode]
  simp

theorem canonicaliseCountries_nodup (codes : List String) : (canonicaliseCountries codes).Nodup :=
  (List.perm_insertionSort _ _).nodup_iff.mpr (foldl_addCode_nodup List.nodup_nil)

theorem canonicaliseCountries_pairwise (codes : List String) :
    (canonicaliseCountries codes).Pairwise (· ≤ ·) := List.pairwise_insertionSort _ _

/-! ## Entries both sides read alike -/

/-- A character that the two languages trim or upper-case differently. -/
def isOdd (c : Char) : Bool := isOddSpace c || foldsToAscii c

/-- The entry holds such a character. -/
def Odd (raw : String) : Prop := ∃ c ∈ raw.toList, isOdd c = true

instance (raw : String) : Decidable (Odd raw) :=
  inferInstanceAs (Decidable (∃ c ∈ raw.toList, isOdd c = true))

theorem isUpperAlpha2_eq_isAlpha2 (s : String) :
    isUpperAlpha2 (toAsciiUppercase s) = isAlpha2 (toAsciiUppercase s) := by
  rw [Bool.eq_iff_iff]
  simp only [isUpperAlpha2, isAlpha2, toAsciiUppercase, String.toList_ofList, List.length_map,
    Bool.and_eq_true, List.all_eq_true, List.mem_map, forall_exists_index, and_imp,
    forall_apply_eq_imp_iff₂]
  refine and_congr_right fun _ => ?_
  exact forall₂_congr fun c member => by rw [isAsciiUppercase_asciiUpper]

theorem utf16Length_of_ascii {s : String} (ascii : ∀ c ∈ s.toList, c.toNat < 128) :
    utf16Length s = s.toList.length := by
  have ones : s.toList.map (fun c => if c.toNat < 0x10000 then 1 else 2) =
      s.toList.map fun _ => 1 := by
    apply List.map_congr_left
    intro c member
    have small := ascii c member
    rw [if_pos (by omega)]
  rw [utf16Length, ones]
  simp

theorem isUpperAlpha2_ascii {code : String} (upper : isUpperAlpha2 code = true) :
    ∀ c ∈ code.toList, c.toNat < 128 := by
  simp only [isUpperAlpha2, Bool.and_eq_true, List.all_eq_true] at upper
  intro c member
  have bounds := isAsciiUppercase_bounds (upper.2 c member)
  omega

theorem toAsciiUppercase_of_upper {code : String} (upper : isUpperAlpha2 code = true) :
    toAsciiUppercase code = code := by
  simp only [isUpperAlpha2, Bool.and_eq_true, List.all_eq_true] at upper
  have fixed : code.toList.map asciiUpper = code.toList.map id := by
    apply List.map_congr_left
    intro c held
    have bounds := isAsciiUppercase_bounds (upper.2 c held)
    exact asciiUpper_eq_self (by omega)
  rw [toAsciiUppercase, fixed, List.map_id, String.ofList_toList]

/-- The length test adds nothing to the pattern. -/
theorem countryCode_eq_some {raw code : String} :
    countryCode raw = some code ↔
      toUpperCase (jsTrim raw) = code ∧ isUpperAlpha2 code = true := by
  rw [countryCode]
  constructor
  · intro read
    split at read
    · rename_i passes
      obtain rfl := Option.some.inj read
      exact ⟨rfl, passes.2⟩
    · cases read
  · intro ⟨same, upper⟩
    subst same
    have length : utf16Length (toUpperCase (jsTrim raw)) = 2 := by
      rw [utf16Length_of_ascii (isUpperAlpha2_ascii upper)]
      simp only [isUpperAlpha2, Bool.and_eq_true, beq_iff_eq] at upper
      exact upper.1
    rw [if_pos ⟨length, upper⟩]

/-- Trimmed text without odd characters reads the same on both sides. -/
theorem upper_agree {s code : String} (usual : ∀ c ∈ s.toList, foldsToAscii c = false) :
    (toUpperCase s = code ∧ isUpperAlpha2 code = true) ↔
      (toAsciiUppercase s = code ∧ isAlpha2 code = true) := by
  by_cases ascii : ∀ c ∈ s.toList, c.toNat < 128
  · rw [toUpperCase_ascii ascii]
    constructor
    · intro ⟨same, upper⟩
      subst same
      exact ⟨rfl, by rwa [← isUpperAlpha2_eq_isAlpha2]⟩
    · intro ⟨same, alpha⟩
      subst same
      exact ⟨rfl, by rwa [isUpperAlpha2_eq_isAlpha2]⟩
  · -- a character outside ASCII stays outside it, so neither side accepts
    obtain ⟨c, member, wide⟩ : ∃ c ∈ s.toList, ¬ c.toNat < 128 := by simpa using ascii
    constructor
    · intro ⟨same, upper⟩
      subst same
      simp only [isUpperAlpha2, toUpperCase, String.toList_ofList, Bool.and_eq_true,
        List.all_flatMap, List.all_eq_true] at upper
      cases upperChar_letters (List.all_eq_true.mpr (upper.2 c member)) with
      | inl small => exact absurd small wide
      | inr folds => rw [usual c member] at folds; cases folds
    · intro ⟨same, alpha⟩
      subst same
      have letters := (isAlpha2_eq_true alpha).2 (asciiUpper c) (by
        rw [toAsciiUppercase, String.toList_ofList]
        exact List.mem_map.mpr ⟨c, member, rfl⟩)
      rw [asciiUpper_eq_self (by omega)] at letters
      exact absurd letters.2 wide

theorem countryCode_eq_canonicalCode {raw : String} (usual : ¬ Odd raw) :
    countryCode raw = canonicalCode raw := by
  have plain : ∀ c ∈ raw.toList, isOddSpace c = false ∧ foldsToAscii c = false := by
    intro c member
    have ordinary : ¬ isOdd c = true := fun odd => usual ⟨c, member, odd⟩
    simpa [isOdd] using ordinary
  have trimmed : jsTrim raw = trim raw := jsTrim_eq fun c member => (plain c member).1
  apply Option.ext
  intro code
  rw [countryCode_eq_some, canonicalCode_eq_some, trimmed]
  exact upper_agree fun c member => (plain c (mem_of_mem_trimBy member)).2

/-! ## When the lists agree -/

/-- Whatever one side reads in an odd entry, the other reads in some entry. -/
def Matched (codes : List String) : Prop :=
  ∀ raw ∈ codes, Odd raw →
    (∀ code, countryCode raw = some code → ∃ other ∈ codes, canonicalCode other = some code) ∧
    (∀ code, canonicalCode raw = some code → ∃ other ∈ codes, countryCode other = some code)

/-- The entries name more codes than the tree has slots. -/
def Overfull (codes : List String) : Prop :=
  ∃ named : List String, named.Nodup ∧ countrySetSlots < named.length ∧
    ∀ code ∈ named, ∃ raw ∈ codes, countryCode raw = some code

theorem canonicaliseCountries_eq_iff {codes : List String} :
    canonicaliseCountries codes = ProofSystem.canonicaliseCountries codes ↔ Matched codes := by
  constructor
  · intro same raw member _
    refine ⟨fun code read => ?_, fun code read => ?_⟩
    · apply ProofSystem.mem_canonicaliseCountries.mp
      rw [← same]
      exact mem_canonicaliseCountries.mpr ⟨raw, member, read⟩
    · apply mem_canonicaliseCountries.mp
      rw [same]
      exact ProofSystem.mem_canonicaliseCountries.mpr ⟨raw, member, read⟩
  · intro matched
    apply eq_of_sorted_members (canonicaliseCountries_pairwise _)
      (ProofSystem.canonicaliseCountries_pairwise _) (canonicaliseCountries_nodup _)
      (ProofSystem.canonicaliseCountries_nodup _)
    intro code
    rw [mem_canonicaliseCountries, ProofSystem.mem_canonicaliseCountries]
    constructor
    · intro ⟨raw, member, read⟩
      by_cases odd : Odd raw
      · exact (matched raw member odd).1 code read
      · exact ⟨raw, member, by rw [← countryCode_eq_canonicalCode odd, read]⟩
    · intro ⟨raw, member, read⟩
      by_cases odd : Odd raw
      · exact (matched raw member odd).2 code read
      · exact ⟨raw, member, by rw [countryCode_eq_canonicalCode odd, read]⟩

theorem buildAllowedSetTree_eq_none {codes : List String} :
    buildAllowedSetTree codes = none ↔ Overfull codes := by
  have refused : buildAllowedSetTree codes = none ↔
      countrySetSlots < (canonicaliseCountries codes).length := by
    simp [buildAllowedSetTree]
  rw [refused]
  constructor
  · intro exceeds
    exact ⟨canonicaliseCountries codes, canonicaliseCountries_nodup codes, exceeds,
      fun code member => mem_canonicaliseCountries.mp member⟩
  · intro ⟨named, nodup, exceeds, each⟩
    have inside : named ⊆ canonicaliseCountries codes :=
      fun code member => mem_canonicaliseCountries.mpr (each code member)
    have bound := (List.subperm_of_subset nodup inside).length_le
    omega

theorem alpha2_of_mem {codes : List String} {code : String}
    (member : code ∈ canonicaliseCountries codes) : isAlpha2 code = true := by
  obtain ⟨raw, _, read⟩ := mem_canonicaliseCountries.mp member
  have upper := (countryCode_eq_some.mp read).2
  simp only [isUpperAlpha2, isAlpha2, Bool.and_eq_true, List.all_eq_true, isAsciiUppercase,
    isAsciiAlphabetic] at upper ⊢
  exact ⟨upper.1, fun c held => by simp [upper.2 c held]⟩

/-- Canonical codes are read as themselves by the Rust recipe. -/
theorem canonicalCode_of_mem {codes : List String} {code : String}
    (member : code ∈ canonicaliseCountries codes) : canonicalCode code = some code := by
  obtain ⟨raw, _, read⟩ := mem_canonicaliseCountries.mp member
  have upper := (countryCode_eq_some.mp read).2
  have letters : ∀ c ∈ code.toList, isWhitespace c = false := by
    intro c held
    have bounds := (isAlpha2_eq_true (alpha2_of_mem member)).2 c held
    exact isWhitespace_visible bounds.2 (by omega)
  rw [canonicalCode_eq_some, trim, trimBy_of_none letters, toAsciiUppercase_of_upper upper]
  exact ⟨rfl, alpha2_of_mem member⟩

theorem canonicaliseCountries_canonical (codes : List String) :
    ProofSystem.canonicaliseCountries (canonicaliseCountries codes) = canonicaliseCountries codes := by
  apply eq_of_sorted_members (ProofSystem.canonicaliseCountries_pairwise _)
    (canonicaliseCountries_pairwise _) (ProofSystem.canonicaliseCountries_nodup _)
    (canonicaliseCountries_nodup _)
  intro code
  rw [ProofSystem.mem_canonicaliseCountries]
  constructor
  · intro ⟨text, member, read⟩
    rw [canonicalCode_of_mem member] at read
    exact Option.some.inj read ▸ member
  · intro member
    exact ⟨code, member, canonicalCode_of_mem member⟩

/-- What a tree that is built holds, in the words of the Rust recipe. -/
theorem buildAllowedSetTree_eq_some {codes : List String} {leaves : List Bytes32}
    (built : buildAllowedSetTree codes = some leaves) :
    leaves = (canonicaliseCountries codes).map ProofSystem.padCountry ∧
      (canonicaliseCountries codes).length ≤ countrySetSlots := by
  simp only [buildAllowedSetTree] at built
  split at built
  · cases built
  · rename_i fits
    refine ⟨?_, by omega⟩
    rw [← Option.some.inj built]
    apply List.map_congr_left
    intro code member
    obtain ⟨raw, _, read⟩ := mem_canonicaliseCountries.mp member
    have upper := (countryCode_eq_some.mp read).2
    have again : toUpperCase code = code := by
      rw [toUpperCase_ascii (isUpperAlpha2_ascii upper), toAsciiUppercase_of_upper upper]
    rw [padCountry, again, ProofSystem.padCountry]

/-! ## Spellings of one set -/

/-- Two lists that differ in order, repetition, ASCII case or surrounding spaces. -/
inductive Respelled : List String → List String → Prop
  | reorder {codes codes' : List String} (perm : codes.Perm codes') : Respelled codes codes'
  | duplicate {codes : List String} {raw : String} (member : raw ∈ codes) :
    Respelled codes (raw :: codes)
  | recase {raw raw' : String} (rest : List String)
    (same : toAsciiUppercase raw = toAsciiUppercase raw') : Respelled (raw :: rest) (raw' :: rest)
  | surround {before after : List Char} (raw : String) (rest : List String)
    (spaces : before.all isWhitespace = true) (spaces' : after.all isWhitespace = true) :
    Respelled (raw :: rest) (String.ofList (before ++ raw.toList ++ after) :: rest)
  | symm {codes codes' : List String} (other : Respelled codes codes') : Respelled codes' codes
  | trans {codes codes' codes'' : List String} (first : Respelled codes codes')
    (second : Respelled codes' codes'') : Respelled codes codes''

theorem canonicalCode_recase {raw raw' : String}
    (same : toAsciiUppercase raw = toAsciiUppercase raw') : canonicalCode raw = canonicalCode raw' := by
  have inner (s : String) : toAsciiUppercase (trim s) = trim (toAsciiUppercase s) :=
    (trimBy_map isWhitespace_asciiUpper s).symm
  rw [canonicalCode, canonicalCode, inner, inner, same]

theorem canonicalCode_surround {before after : List Char} (raw : String)
    (spaces : before.all isWhitespace = true) (spaces' : after.all isWhitespace = true) :
    canonicalCode (String.ofList (before ++ raw.toList ++ after)) = canonicalCode raw := by
  rw [canonicalCode, canonicalCode, trim, trim, trimBy_surrounded raw spaces spaces']

/-- Respelled lists name the same codes. -/
theorem Respelled.named_iff {codes codes' : List String} (respelled : Respelled codes codes')
    (code : String) :
    (∃ raw ∈ codes, canonicalCode raw = some code) ↔
      ∃ raw ∈ codes', canonicalCode raw = some code := by
  induction respelled with
  | reorder perm => simp only [perm.mem_iff]
  | duplicate member =>
    simp only [List.mem_cons, exists_eq_or_imp]
    exact ⟨.inr, fun named => named.elim (fun read => ⟨_, member, read⟩) id⟩
  | recase rest same =>
    simp only [List.mem_cons, exists_eq_or_imp, canonicalCode_recase same]
  | surround raw rest spaces spaces' =>
    simp only [List.mem_cons, exists_eq_or_imp, canonicalCode_surround raw spaces spaces']
  | symm _ ih => exact ih.symm
  | trans _ _ first second => exact first.trans second

theorem Respelled.canonicaliseCountries_eq {codes codes' : List String}
    (respelled : Respelled codes codes') :
    ProofSystem.canonicaliseCountries codes = ProofSystem.canonicaliseCountries codes' := by
  rw [ProofSystem.canonicaliseCountries_eq_iff]
  intro code
  rw [ProofSystem.mem_canonicaliseCountries, ProofSystem.mem_canonicaliseCountries]
  exact respelled.named_iff code

/-- The port's list and the tree it builds are the Rust ones exactly when odd entries are
matched (a set over capacity apart, which the port refuses), and the hash sees only the
set of codes. -/
theorem country_sets_agree_iff (H : Hashes) :
    (∀ codes : List String,
      (canonicaliseCountries codes = ProofSystem.canonicaliseCountries codes ↔ Matched codes) ∧
      (buildAllowedSetTree codes = none ∨
        buildAllowedSetTree codes =
          some ((ProofSystem.canonicaliseCountries codes).map ProofSystem.padCountry) ↔
        Overfull codes ∨ Matched codes)) ∧
    (∀ (clientId : String) (codes codes' : List String), Respelled codes codes' →
      allowedCountrySetHash H clientId codes = allowedCountrySetHash H clientId codes') := by
  refine ⟨fun codes => ⟨canonicaliseCountries_eq_iff, ?_⟩, ?_⟩
  · rw [buildAllowedSetTree_eq_none]
    refine or_congr_right' fun fits => ?_
    obtain ⟨leaves, built⟩ : ∃ leaves, buildAllowedSetTree codes = some leaves := by
      rw [← buildAllowedSetTree_eq_none] at fits
      exact Option.ne_none_iff_exists'.mp fits
    have held := (buildAllowedSetTree_eq_some built).1
    rw [built, held, Option.some.injEq, ← canonicaliseCountries_eq_iff]
    constructor
    · intro same
      exact map_padCountry_inj (fun _ => alpha2_of_mem) (fun _ => isAlpha2_of_mem) same
    · intro same
      rw [same]
  · intro clientId codes codes' respelled
    rw [allowedCountrySetHash, allowedCountrySetHash, allowedCountryMerkleRoot,
      allowedCountryMerkleRoot, respelled.canonicaliseCountries_eq]

/-- A byte order mark: the port trims it, Rust keeps it and drops the entry. -/
theorem byte_order_mark_disagrees :
    ¬ ∀ codes : List String,
      canonicaliseCountries codes = ProofSystem.canonicaliseCountries codes ∨
        buildAllowedSetTree codes = none := by
  intro agree
  have readHere : canonicaliseCountries ["\uFEFFDE"] = ["DE"] := by decide
  have readThere : ProofSystem.canonicaliseCountries ["\uFEFFDE"] = [] := by decide
  have built : buildAllowedSetTree ["\uFEFFDE"] ≠ none := by
    simp [buildAllowedSetTree, readHere, countrySetSlots, merkleDepth]
  cases agree ["\uFEFFDE"] with
  | inl same => rw [readHere, readThere] at same; cases same
  | inr refused => exact built refused

theorem country_sets_agree_at_sample :
    Respelled ["de", "FR"] ["FR", "de", "FR"] ∧
      allowedCountrySetHash sampleHashes "shop" ["de", "FR"] =
        allowedCountrySetHash sampleHashes "shop" ["FR", "de", "FR"] := by
  have respelled : Respelled ["de", "FR"] ["FR", "de", "FR"] := .duplicate (by simp)
  exact ⟨respelled, (country_sets_agree_iff sampleHashes).2 "shop" _ _ respelled⟩

end OwlId.Sdk
