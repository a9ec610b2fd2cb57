import Mathlib
import OwlId.ProofSystem.Attestation

/-! # Canonical country lists

Two lists of codes have the same canonical form exactly when they name the same
alpha-2 codes, and a canonical list is determined by the padded words of its first
256 codes, which is all the depth-8 tree holds.
-/

namespace OwlId.ProofSystem

open OwlId.Lib

/-! ## Sorted and without duplicates -/

/-- The alpha-2 code a verifier's text stands for, if it does. -/
def canonicalCode (text : String) : Option String :=
  (some (toAsciiUppercase (trim text))).filter isAlpha2

theorem canonicaliseCountries_eq_dedup (codes : List String) :
    canonicaliseCountries codes =
      ((codes.filterMap canonicalCode).insertionSort (· ≤ ·)).dedup := by
  have kept : (codes.map fun c => toAsciiUppercase (trim c)).filter isAlpha2 =
      codes.filterMap canonicalCode := by
    induction codes with
    | nil => rfl
    | cons code rest ih =>
      by_cases alpha : isAlpha2 (toAsciiUppercase (trim code)) = true
      · simp [canonicalCode, alpha, ih, Option.filter]
      · simp [canonicalCode, alpha, ih, Option.filter]
  rw [canonicaliseCountries, kept]
  exact List.Pairwise.destutter_eq_dedup (List.pairwise_insertionSort _ _)

theorem mem_canonicaliseCountries {codes : List String} {code : String} :
    code ∈ canonicaliseCountries codes ↔ ∃ text ∈ codes, canonicalCode text = some code := by
  rw [canonicaliseCountries_eq_dedup, List.mem_dedup, List.mem_insertionSort, List.mem_filterMap]

theorem canonicalCode_eq_some {text code : String} :
    canonicalCode text = some code ↔ toAsciiUppercase (trim text) = code ∧ isAlpha2 code = true := by
  rw [canonicalCode, Option.filter_eq_some_iff, Option.some.injEq]

theorem isAlpha2_of_mem {codes : List String} {code : String}
    (member : code ∈ canonicaliseCountries codes) : isAlpha2 code = true := by
  obtain ⟨text, _, canonical⟩ := mem_canonicaliseCountries.mp member
  exact (canonicalCode_eq_some.mp canonical).2

theorem canonicaliseCountries_nodup (codes : List String) : (canonicaliseCountries codes).Nodup := by
  rw [canonicaliseCountries_eq_dedup]
  exact List.nodup_dedup _

theorem canonicaliseCountries_pairwise (codes : List String) :
    (canonicaliseCountries codes).Pairwise (· ≤ ·) := by
  rw [canonicaliseCountries_eq_dedup]
  exact (List.pairwise_insertionSort _ _).sublist (List.dedup_sublist _)

/-- Sorted lists without duplicates are determined by their members. -/
theorem eq_of_sorted_members {codes codes' : List String} (sorted : codes.Pairwise (· ≤ ·))
    (sorted' : codes'.Pairwise (· ≤ ·)) (nodup : codes.Nodup) (nodup' : codes'.Nodup)
    (members : ∀ code, code ∈ codes ↔ code ∈ codes') : codes = codes' := by
  have perm : codes.Perm codes' := (List.perm_ext_iff_of_nodup nodup nodup').mpr members
  exact perm.eq_of_pairwise (fun a b _ _ => le_antisymm) sorted sorted'

theorem canonicaliseCountries_eq_iff {codes codes' : List String} :
    canonicaliseCountries codes = canonicaliseCountries codes' ↔
      ∀ code, code ∈ canonicaliseCountries codes ↔ code ∈ canonicaliseCountries codes' := by
  constructor
  · intro same code
    rw [same]
  · intro members
    exact eq_of_sorted_members (canonicaliseCountries_pairwise _) (canonicaliseCountries_pairwise _)
      (canonicaliseCountries_nodup _) (canonicaliseCountries_nodup _) members

/-! ## Padded codes -/

theorem isAsciiAlphabetic_bounds {c : Char} (letter : isAsciiAlphabetic c = true) :
    65 ≤ c.toNat ∧ c.toNat < 128 := by
  simp only [isAsciiAlphabetic, Bool.or_eq_true, Bool.and_eq_true, decide_eq_true_eq, charLe_iff,
    Char.reduceToNat] at letter
  omega

theorem isAlpha2_eq_true {code : String} (alpha : isAlpha2 code = true) :
    code.toList.length = 2 ∧ ∀ c ∈ code.toList, 65 ≤ c.toNat ∧ c.toNat < 128 := by
  simp only [isAlpha2, Bool.and_eq_true, beq_iff_eq, List.all_eq_true] at alpha
  exact ⟨alpha.1, fun c member => isAsciiAlphabetic_bounds (alpha.2 c member)⟩

theorem asBytes_alpha2 {code : String} (alpha : isAlpha2 code = true) :
    (asBytes code).length = 2 ∧ 0 ∉ asBytes code := by
  obtain ⟨length, letters⟩ := isAlpha2_eq_true alpha
  have bytes := asBytes_of_ascii fun c member => (letters c member).2
  rw [String.ofList_toList] at bytes
  refine ⟨by rw [bytes, List.length_map, length], ?_⟩
  intro zero
  rw [bytes, List.mem_map] at zero
  obtain ⟨c, member, isZero⟩ := zero
  have value := congrArg UInt8.toNat isZero
  have bounds := letters c member
  simp only [UInt8.toNat_ofNat', UInt8.toNat_zero] at value
  omega

theorem padCountry_inj {code code' : String} (alpha : isAlpha2 code = true)
    (alpha' : isAlpha2 code' = true) (same : padCountry code = padCountry code') : code = code' := by
  obtain ⟨length, nonzero⟩ := asBytes_alpha2 alpha
  obtain ⟨length', nonzero'⟩ := asBytes_alpha2 alpha'
  exact asBytes_injective (padBytes_inj (by omega) (by omega) nonzero nonzero' same)

theorem padCountry_ne_zero {code : String} (alpha : isAlpha2 code = true) :
    padCountry code ≠ zero32 := by
  obtain ⟨length, nonzero⟩ := asBytes_alpha2 alpha
  intro zero
  rw [← padBytes_nil] at zero
  have empty := padBytes_inj (by omega) (by simp) nonzero (by simp) zero
  simp [empty] at length

/-! ## What the tree holds -/

/-- The codes that have a slot. -/
def heldCountries (codes : List String) : List String :=
  (canonicaliseCountries codes).take countrySetSlots

def countrySlots (codes : List String) : List Bytes32 := (heldCountries codes).map padCountry

theorem heldCountries_eq {codes : List String}
    (fits : (canonicaliseCountries codes).length ≤ countrySetSlots) :
    heldCountries codes = canonicaliseCountries codes :=
  List.take_of_length_le fits

/-- The root is that of the codes with a slot. -/
theorem allowedCountryMerkleRoot_eq (H : Hashes) (codes : List String) :
    allowedCountryMerkleRoot H codes = merkleRootOf H (countrySlots codes) := by
  rw [allowedCountryMerkleRoot, merkleRootOf, merkleRootOf]
  congr 2
  apply List.map_congr_left
  intro i member
  have bound : i < countrySetSlots := List.mem_range.mp member
  rw [countrySlots, heldCountries, List.map_take, List.getD_eq_getElem?_getD,
    List.getD_eq_getElem?_getD, List.getElem?_take_of_lt bound]

theorem heldCountries_alpha2 {codes : List String} {code : String}
    (member : code ∈ heldCountries codes) : isAlpha2 code = true :=
  isAlpha2_of_mem (List.mem_of_mem_take member)

theorem zero_notMem_countrySlots (codes : List String) : zero32 ∉ countrySlots codes := by
  intro member
  obtain ⟨code, held, zero⟩ := List.mem_map.mp member
  exact padCountry_ne_zero (heldCountries_alpha2 held) zero

theorem countrySlots_length (codes : List String) :
    (countrySlots codes).length ≤ countrySetSlots := by
  rw [countrySlots, List.length_map, heldCountries, List.length_take]
  exact Nat.min_le_left _ _

/-- Padding tells lists of alpha-2 codes apart. -/
theorem map_padCountry_inj {codes codes' : List String} (alpha : ∀ c ∈ codes, isAlpha2 c = true)
    (alpha' : ∀ c ∈ codes', isAlpha2 c = true) (same : codes.map padCountry = codes'.map padCountry) :
    codes = codes' := by
  induction codes generalizing codes' with
  | nil => simpa using same.symm
  | cons code rest ih =>
    cases codes' with
    | nil => simp at same
    | cons code' rest' =>
      simp only [List.map_cons, List.cons.injEq] at same
      rw [padCountry_inj (alpha code (by simp)) (alpha' code' (by simp)) same.1,
        ih (fun c member => alpha c (by simp [member])) (fun c member => alpha' c (by simp [member]))
          same.2]

theorem heldCountries_of_slots {codes codes' : List String}
    (same : countrySlots codes = countrySlots codes') : heldCountries codes = heldCountries codes' :=
  map_padCountry_inj (fun _ => heldCountries_alpha2) (fun _ => heldCountries_alpha2) same

end OwlId.ProofSystem
