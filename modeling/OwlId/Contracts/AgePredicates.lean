import Mathlib
import OwlId.Contracts.PredicateSoundness
import OwlId.Lib.Calendar

/-! # What the two age circuits decide

Both circuits compare the packed date of birth with a packed date moved back by whole
years, `asOf - years * 10000`, which need not be a date of the calendar.  Here their
verdicts are compared with the years the holder has completed on the first of a month.
-/

namespace OwlId.Contracts

open OwlId.Lib OwlId.Lib.CalendarDate OwlId.ProofSystem

/-! ## Everything a circuit checks but the age -/

/-- The checks of an age call that do not read the date of birth as a number. -/
structure WellBound (H : Hashes) (ledger : Ledger) (w : ClaimWitness UInt32) (owlRoot key : Bytes32) :
    Prop where
  notPaused : ledger.access.isPaused = false
  nonzero : owlRoot ≠ zero32
  leaf : w.claimPath.leaf =
    claimCommit H "birthdate" (uintBytes w.value.toNat) w.claimSalt
  root : owlRoot = frToLeBytes32 (merkleTreePathRoot H w.claimPath)
  recorded : ∃ after, ledger.record key = .ok after

/-- The comparison of `attestAgeGte`; the subtraction is checked. -/
def AgeGteTest (dob threshold asOfYmd : Nat) : Prop :=
  ∃ cutoff, uintSub asOfYmd (threshold * 10000) = .ok cutoff ∧ dob ≤ cutoff

/-- The two comparisons of `attestAgeRange`. -/
def AgeRangeTests (dob minAge maxAge asOfYmd : Nat) : Prop :=
  ∃ cutoffMin cutoffMax, uintSub asOfYmd (minAge * 10000) = .ok cutoffMin ∧
    uintSub asOfYmd (maxAge * 10000) = .ok cutoffMax ∧ dob ≤ cutoffMin ∧ cutoffMax ≤ dob

variable {H : Hashes} {ledger : Ledger} {w : ClaimWitness UInt32} {owlRoot : Bytes32}

theorem attestAgeGte_accepts_iff {threshold : UInt16} {asOfYmd : UInt32} :
    (∃ after, attestAgeGte H ledger w owlRoot threshold asOfYmd = .ok after) ↔
      threshold ≤ 150 ∧
        WellBound H ledger w owlRoot
          (keyOf H (pad32 "owlid:attest:age:") owlRoot (ageParam H threshold asOfYmd)) ∧
        AgeGteTest w.value.toNat threshold.toNat asOfYmd.toNat := by
  simp only [attestAgeGte, bind_eq_ok, ensure_eq_ok, bindClaim_eq_ok, exists_const,
    Access.assertNotPaused, AgeGteTest]
  refine ⟨?_, ?_⟩
  · rintro ⟨after, notPaused, nonzero, inRange, ⟨leaf, root⟩, cutoff, subtracted, reached, recorded⟩
    exact ⟨inRange, ⟨notPaused, nonzero, leaf, root, after, recorded⟩, cutoff, subtracted, reached⟩
  · rintro ⟨inRange, ⟨notPaused, nonzero, leaf, root, after, recorded⟩, cutoff, subtracted, reached⟩
    exact ⟨after, notPaused, nonzero, inRange, ⟨leaf, root⟩, cutoff, subtracted, reached, recorded⟩

theorem attestAgeRange_accepts_iff {minAge maxAge : UInt16} {asOfYmd : UInt32} :
    (∃ after, attestAgeRange H ledger w owlRoot minAge maxAge asOfYmd = .ok after) ↔
      minAge ≤ maxAge ∧ maxAge ≤ 150 ∧
        WellBound H ledger w owlRoot
          (keyOf H (pad32 "owlid:attest:agerng:") owlRoot
            (ageRangeParam H minAge maxAge asOfYmd)) ∧
        AgeRangeTests w.value.toNat minAge.toNat maxAge.toNat asOfYmd.toNat := by
  simp only [attestAgeRange, bind_eq_ok, ensure_eq_ok, bindClaim_eq_ok, exists_const,
    Access.assertNotPaused, AgeRangeTests]
  refine ⟨?_, ?_⟩
  · rintro ⟨after, notPaused, nonzero, ordered, inRange, ⟨leaf, root⟩, cutoffMin, lower,
      cutoffMax, upper, old, young, recorded⟩
    exact ⟨ordered, inRange, ⟨notPaused, nonzero, leaf, root, after, recorded⟩, cutoffMin,
      cutoffMax, lower, upper, old, young⟩
  · rintro ⟨ordered, inRange, ⟨notPaused, nonzero, leaf, root, after, recorded⟩, cutoffMin,
      cutoffMax, lower, upper, old, young⟩
    exact ⟨after, notPaused, nonzero, ordered, inRange, ⟨leaf, root⟩, cutoffMin, lower,
      cutoffMax, upper, old, young, recorded⟩

/-! ## The comparisons and the calendar -/

theorem ageGteTest_iff {dob asOf : CalendarDate} {threshold : Nat} :
    AgeGteTest dob.packed threshold asOf.packed ↔ (threshold : Int) ≤ completedYears dob asOf := by
  rw [← packed_add_years_le_iff]
  simp only [AgeGteTest, uintSub_eq_ok]
  refine ⟨?_, ?_⟩
  · rintro ⟨cutoff, subtracted, reached⟩
    omega
  · intro reached
    exact ⟨asOf.packed - threshold * 10000, by omega, by omega⟩

theorem ageRangeTests_iff {dob asOf : CalendarDate} {minAge maxAge : Nat} :
    AgeRangeTests dob.packed minAge maxAge asOf.packed ↔
      maxAge * 10000 ≤ asOf.packed ∧ (minAge : Int) ≤ completedYears dob asOf ∧
        (completedYears dob asOf < maxAge ∨
          completedYears dob asOf = maxAge ∧ dob.month = asOf.month ∧ dob.day = asOf.day) := by
  rw [← packed_add_years_le_iff, ← le_packed_add_years_iff]
  simp only [AgeRangeTests, uintSub_eq_ok]
  refine ⟨?_, ?_⟩
  · rintro ⟨cutoffMin, cutoffMax, lower, upper, old, young⟩
    omega
  · rintro ⟨representable, old, young⟩
    exact ⟨asOf.packed - minAge * 10000, asOf.packed - maxAge * 10000, by omega, by omega,
      by omega, by omega⟩

/-- From year 151 on no age a circuit admits can make its subtraction negative. -/
theorem years_representable {asOf : CalendarDate} {years : Nat} (late : 151 ≤ asOf.year)
    (inRange : years ≤ 150) : years * 10000 ≤ asOf.packed := by
  unfold packed
  omega

/-! ## The lower bound -/

/-- `attestAgeGte` accepts exactly the holders who have completed the years asked for. -/
theorem attestAgeGte_decides_age (H : Hashes) (ledger : Ledger) (w : ClaimWitness UInt32)
    (owlRoot : Bytes32) (threshold : UInt16) (asOfYmd : UInt32) (dob asOf : CalendarDate)
    (dobPacked : w.value.toNat = dob.packed) (asOfPacked : asOfYmd.toNat = asOf.packed)
    (firstDay : asOf.day = 1) (late : 151 ≤ asOf.year) (inRange : threshold ≤ 150) :
    (threshold.toNat * 10000 < 2 ^ 32 ∧
      uintSub asOfYmd.toNat (threshold.toNat * 10000) =
        .ok (asOfYmd.toNat - threshold.toNat * 10000)) ∧
    (w.value.toNat ≤ asOfYmd.toNat - threshold.toNat * 10000 ↔
      (threshold.toNat : Int) ≤ completedYears dob asOf) ∧
    (∀ custom, birthday custom dob threshold.toNat ≤ asOf ↔
      (threshold.toNat : Int) ≤ completedYears dob asOf) ∧
    (asOf < dob → 1 ≤ threshold →
      ¬w.value.toNat ≤ asOfYmd.toNat - threshold.toNat * 10000) ∧
    ((∃ after, attestAgeGte H ledger w owlRoot threshold asOfYmd = .ok after) ↔
      WellBound H ledger w owlRoot
          (keyOf H (pad32 "owlid:attest:age:") owlRoot (ageParam H threshold asOfYmd)) ∧
        (threshold.toNat : Int) ≤ completedYears dob asOf) := by
  have bound : threshold.toNat ≤ 150 := UInt16.le_iff_toNat_le.mp inRange
  have representable := years_representable late bound
  have subtracted : uintSub asOfYmd.toNat (threshold.toNat * 10000) =
      .ok (asOfYmd.toNat - threshold.toNat * 10000) := by
    rw [uintSub_eq_ok]
    omega
  have decided : w.value.toNat ≤ asOfYmd.toNat - threshold.toNat * 10000 ↔
      (threshold.toNat : Int) ≤ completedYears dob asOf := by
    rw [← ageGteTest_iff, ← dobPacked, ← asOfPacked, AgeGteTest, subtracted]
    simp
  refine ⟨⟨by omega, subtracted⟩, decided, ?_, ?_, ?_⟩
  · intro custom
    exact birthday_le_iff custom dob asOf threshold.toNat firstDay
  · intro unborn _ reached
    have negative := completedYears_neg_iff.mpr unborn
    have := decided.mp reached
    omega
  · rw [attestAgeGte_accepts_iff, dobPacked, asOfPacked, ageGteTest_iff]
    exact ⟨fun accepted => accepted.2, fun accepted => ⟨inRange, accepted⟩⟩

/-! ### A holder born on a leap day -/

def leapDay : CalendarDate := ⟨2004, 2, 29, by decide, by decide⟩

def marchFirst : CalendarDate := ⟨2022, 3, 1, by decide, by decide⟩

/-- The witness of a holder whose credential commits to a packed date of birth. -/
def birthdateWitness (dob : UInt32) : ClaimWitness UInt32 where
  value := dob
  claimSalt := salt32For sampleHashes "salt one"
  claimPath := lonePath sampleHashes
    (claimCommit sampleHashes "birthdate" (uintBytes dob.toNat) (salt32For sampleHashes "salt one"))

def birthdateRoot (dob : UInt32) : Bytes32 :=
  frToLeBytes32 (merkleTreePathRoot sampleHashes (birthdateWitness dob).claimPath)

theorem sampleLedger_records (key : Bytes32) : ∃ after, sampleLedger.record key = .ok after := by
  have fresh : key ∉ sampleLedger.log.attestations := Finset.notMem_empty key
  refine ⟨{ sampleLedger with log := ⟨insert key ∅, [key], 1⟩ }, ?_⟩
  simp only [Ledger.record, Attestations.record, if_neg fresh, bind_eq_ok, pure_eq_ok]
  exact ⟨_, ⟨(), ensure_eq_ok.mpr (by decide), rfl⟩, rfl⟩

theorem birthdate_wellBound {dob : UInt32} (key : Bytes32) (nonzero : birthdateRoot dob ≠ zero32) :
    WellBound sampleHashes sampleLedger (birthdateWitness dob) (birthdateRoot dob) key where
  notPaused := rfl
  nonzero := nonzero
  leaf := rfl
  root := rfl
  recorded := sampleLedger_records key

theorem attestAgeGte_decides_age_at_leapDay :
    ∃ after, attestAgeGte sampleHashes sampleLedger (birthdateWitness 20040229)
      (birthdateRoot 20040229) 18 20220301 = .ok after := by
  have decided := attestAgeGte_decides_age sampleHashes sampleLedger (birthdateWitness 20040229)
    (birthdateRoot 20040229) 18 20220301 leapDay marchFirst rfl rfl rfl (by decide) (by decide)
  exact decided.2.2.2.2.mpr ⟨birthdate_wellBound _ (by decide_cbv), by decide⟩

/-! ## The range -/

/-- The upper test asks for a birth on or after the day `maxAge` years ago, so of the year in
which the holder is `maxAge` old it admits the birthday only.  The other inputs on which it
departs from the inclusive range are dates so early that the cut-off would be negative. -/
theorem attestAgeRange_inclusive_iff (H : Hashes) (ledger : Ledger) (w : ClaimWitness UInt32)
    (owlRoot : Bytes32) (minAge maxAge : UInt16) (asOfYmd : UInt32) (dob asOf : CalendarDate)
    (dobPacked : w.value.toNat = dob.packed) (asOfPacked : asOfYmd.toNat = asOf.packed)
    (ordered : minAge ≤ maxAge) (inRange : maxAge ≤ 150) :
    ((AgeRangeTests w.value.toNat minAge.toNat maxAge.toNat asOfYmd.toNat ↔
        (minAge.toNat : Int) ≤ completedYears dob asOf ∧
          completedYears dob asOf ≤ maxAge.toNat) ↔
      (completedYears dob asOf = maxAge.toNat → dob.month = asOf.month ∧ dob.day = asOf.day) ∧
        ((minAge.toNat : Int) ≤ completedYears dob asOf → completedYears dob asOf < maxAge.toNat →
          maxAge.toNat * 10000 ≤ asOf.packed)) ∧
    ((∃ after, attestAgeRange H ledger w owlRoot minAge maxAge asOfYmd = .ok after) ↔
      WellBound H ledger w owlRoot
          (keyOf H (pad32 "owlid:attest:agerng:") owlRoot
            (ageRangeParam H minAge maxAge asOfYmd)) ∧
        AgeRangeTests w.value.toNat minAge.toNat maxAge.toNat asOfYmd.toNat) := by
  have bounds : minAge.toNat ≤ maxAge.toNat := UInt16.le_iff_toNat_le.mp ordered
  refine ⟨?_, ?_⟩
  · rw [dobPacked, asOfPacked, ageRangeTests_iff]
    -- an age of exactly `maxAge` has its cut-off at or after the date of birth
    have reached := packed_add_years_le_iff dob asOf maxAge.toNat
    refine ⟨fun inclusive => ⟨?_, ?_⟩, ?_⟩
    · intro oldest
      obtain ⟨_, _, fewer | ⟨_, today⟩⟩ := inclusive.mpr ⟨by omega, by omega⟩
      · omega
      · exact today
    · intro old young
      exact (inclusive.mpr ⟨old, by omega⟩).1
    · rintro ⟨birthdayOnly, representable⟩
      refine ⟨fun accepted => ⟨accepted.2.1, by omega⟩, ?_⟩
      rintro ⟨old, young⟩
      rcases young.lt_or_eq with younger | oldest
      · exact ⟨representable old younger, old, .inl younger⟩
      · exact ⟨by omega, old, .inr ⟨oldest, birthdayOnly oldest⟩⟩
  · rw [attestAgeRange_accepts_iff]
    exact ⟨fun accepted => accepted.2.2, fun accepted => ⟨ordered, inRange, accepted⟩⟩

/-! ### A holder aged twenty -/

def juneBirth : CalendarDate := ⟨2005, 6, 15, by decide, by decide⟩

def march2026 : CalendarDate := ⟨2026, 3, 1, by decide, by decide⟩

/-- Twenty years old, well bound, and turned away from the range 18 to 20. -/
theorem attestAgeRange_rejects_oldest :
    completedYears juneBirth march2026 = 20 ∧
      WellBound sampleHashes sampleLedger (birthdateWitness 20050615) (birthdateRoot 20050615)
        (keyOf sampleHashes (pad32 "owlid:attest:agerng:") (birthdateRoot 20050615)
          (ageRangeParam sampleHashes 18 20 20260301)) ∧
      ¬∃ after, attestAgeRange sampleHashes sampleLedger (birthdateWitness 20050615)
        (birthdateRoot 20050615) 18 20 20260301 = .ok after := by
  refine ⟨by decide, birthdate_wellBound _ (by decide_cbv), ?_⟩
  rw [attestAgeRange_accepts_iff]
  have dobPacked : (birthdateWitness 20050615).value.toNat = juneBirth.packed := rfl
  have asOfPacked : (20260301 : UInt32).toNat = march2026.packed := rfl
  rw [dobPacked, asOfPacked, ageRangeTests_iff]
  rintro ⟨_, _, _, _, _, between⟩
  revert between
  decide

def marchBirth : CalendarDate := ⟨2006, 3, 1, by decide, by decide⟩

theorem attestAgeRange_inclusive_iff_at_birthday :
    AgeRangeTests marchBirth.packed 18 20 march2026.packed := by
  have decided := attestAgeRange_inclusive_iff sampleHashes sampleLedger
    (birthdateWitness 20060301) (birthdateRoot 20060301) 18 20 20260301
    marchBirth march2026 rfl rfl (by decide) (by decide)
  exact (decided.1.mpr ⟨by decide, by decide⟩).mpr ⟨by decide, by decide⟩

end OwlId.Contracts
