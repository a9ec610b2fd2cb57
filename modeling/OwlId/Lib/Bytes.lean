import Mathlib

/-! # Byte strings and 32-byte words

The wire values of the system are byte strings, and almost everything that is
hashed is a sequence of 32-byte words.  This module fixes the two types and the
three ways a word is made from something else:

* `padBytes` — right-padding with zeros, dropping what does not fit;
* `leBytes32` — the little-endian digits of a number;
* `tryInto32` — a byte string that happens to have the right length.

The two injectivity facts every later argument about hash inputs rests on are
`concat32_injective` (a sequence of words is determined by its concatenation)
and `leBytes32_inj`.
-/

namespace OwlId.Lib

abbrev Bytes := List UInt8

/-- A 32-byte word, `[u8; 32]` in Rust and `Bytes<32>` in Compact. -/
abbrev Bytes32 := Vector UInt8 32

/-! ## Text as bytes -/

/-- The UTF-8 bytes of a string. -/
def asBytes (s : String) : Bytes := s.toByteArray.data.toList

theorem asBytes_injective : Function.Injective asBytes := by
  intro s t h
  have hdata : s.toByteArray.data = t.toByteArray.data := Array.toList_inj.mp h
  exact String.toByteArray_inj.mp (ByteArray.ext hdata)

@[simp] theorem asBytes_inj {s t : String} : asBytes s = asBytes t ↔ s = t :=
  asBytes_injective.eq_iff

theorem asBytes_append (s t : String) : asBytes (s ++ t) = asBytes s ++ asBytes t := by
  simp [asBytes]

theorem asBytes_ofList (cs : List Char) :
    asBytes (String.ofList cs) = cs.flatMap String.utf8EncodeChar := by
  rw [asBytes, String.toByteArray_ofList, List.utf8Encode]
  simp

/-- An ASCII string is one byte a character. -/
theorem asBytes_of_ascii {cs : List Char} (ascii : ∀ c ∈ cs, c.toNat < 128) :
    asBytes (String.ofList cs) = cs.map fun c => UInt8.ofNat c.toNat := by
  rw [asBytes_ofList, List.map_eq_flatMap]
  apply List.flatMap_congr
  intro c member
  have small : c.val ≤ 127 := UInt32.le_iff_toNat_le.mpr (Nat.le_of_lt_succ (ascii c member))
  rw [String.utf8EncodeChar_eq_singleton (Char.utf8Size_eq_one_iff.mpr small)]
  rfl

theorem asBytes_length_of_ascii {cs : List Char} (ascii : ∀ c ∈ cs, c.toNat < 128) :
    (asBytes (String.ofList cs)).length = cs.length := by
  rw [asBytes_of_ascii ascii, List.length_map]

theorem zero_notMem_utf8EncodeChar {c : Char} (nonzero : c.toNat ≠ 0) :
    (0 : UInt8) ∉ String.utf8EncodeChar c := by
  have positive : ∀ n : Nat, n % 256 ≠ 0 → (0 : UInt8) ≠ UInt8.ofNat n := by
    intro n residue same
    have value := congrArg UInt8.toNat same
    rw [UInt8.toNat_ofNat', UInt8.toNat_zero] at value
    exact residue value.symm
  have value : c.val.toNat ≠ 0 := nonzero
  unfold String.utf8EncodeChar
  simp only
  split
  · rw [List.mem_singleton]
    exact positive _ (by omega)
  · split
    · simp only [List.mem_cons, List.not_mem_nil, or_false, not_or]
      exact ⟨positive _ (by omega), positive _ (by omega)⟩
    · split
      · simp only [List.mem_cons, List.not_mem_nil, or_false, not_or]
        exact ⟨positive _ (by omega), positive _ (by omega), positive _ (by omega)⟩
      · simp only [List.mem_cons, List.not_mem_nil, or_false, not_or]
        exact ⟨positive _ (by omega), positive _ (by omega), positive _ (by omega),
          positive _ (by omega)⟩

theorem zero_notMem_asBytes {s : String} (nonzero : ∀ c ∈ s.toList, c.toNat ≠ 0) :
    0 ∉ asBytes s := by
  have bytes := asBytes_ofList s.toList
  rw [String.ofList_toList] at bytes
  rw [bytes, List.mem_flatMap]
  intro ⟨c, member, zero⟩
  exact zero_notMem_utf8EncodeChar (nonzero c member) zero

/-! ## Words -/

def zero32 : Bytes32 := Vector.replicate 32 0

/-- Right-pad with zero bytes to 32; bytes past the 32nd are dropped. -/
def padBytes (b : Bytes) : Bytes32 := Vector.ofFn fun i => b.getD i 0

/-- `n` in base 256, low digit first; digits past the 32nd are dropped. -/
def leBytes32 (n : Nat) : Bytes32 := Vector.ofFn fun i => UInt8.ofNat (n / 256 ^ i.val)

/-- A byte string of exactly 32 bytes as a word. -/
def tryInto32 (b : Bytes) : Option Bytes32 :=
  if h : b.length = 32 then some ⟨b.toArray, by simpa using h⟩ else none

@[simp] theorem padBytes_nil : padBytes [] = zero32 := by decide

/-- Lists that do not contain their padding are told apart by their padded slots. -/
theorem eq_of_getD {α : Type*} {pad : α} {n : Nat} {xs ys : List α} (fits : xs.length ≤ n)
    (fits' : ys.length ≤ n) (unpadded : pad ∉ xs) (unpadded' : pad ∉ ys)
    (agree : ∀ i < n, xs.getD i pad = ys.getD i pad) : xs = ys := by
  -- a list ends at the first slot that holds the padding
  have ends : ∀ {xs ys : List α}, xs.length ≤ n → pad ∉ xs →
      (∀ i < n, xs.getD i pad = ys.getD i pad) → xs.length ≤ ys.length := by
    intro xs ys short inside same
    by_contra shorter
    have last := same ys.length (by omega)
    rw [List.getD_eq_getElem _ _ (by omega), List.getD_eq_default _ _ (le_refl _)] at last
    exact inside (last ▸ List.getElem_mem _)
  have length : xs.length = ys.length :=
    le_antisymm (ends fits unpadded agree) (ends fits' unpadded' fun i bound => (agree i bound).symm)
  apply List.ext_getElem length
  intro i bound bound'
  have here := agree i (by omega)
  rwa [List.getD_eq_getElem _ _ bound, List.getD_eq_getElem _ _ bound'] at here

theorem padBytes_getElem (b : Bytes) (i : Nat) (h : i < 32) : (padBytes b)[i] = b.getD i 0 := by
  simp [padBytes]

theorem padBytes_inj {b b' : Bytes} (fits : b.length ≤ 32) (fits' : b'.length ≤ 32) (nonzero : 0 ∉ b)
    (nonzero' : 0 ∉ b') (same : padBytes b = padBytes b') : b = b' := by
  apply eq_of_getD fits fits' nonzero nonzero'
  intro i bound
  rw [← padBytes_getElem b i bound, ← padBytes_getElem b' i bound, same]

/-- A zero-free text that pads to a short zero-free text is that text. -/
theorem padBytes_inj_short {b b' : Bytes} (short : b'.length < 32) (nonzero : 0 ∉ b)
    (nonzero' : 0 ∉ b') (same : padBytes b = padBytes b') : b = b' := by
  have fits : b.length ≤ 32 := by
    by_contra long
    have here := padBytes_getElem b b'.length short
    have there := padBytes_getElem b' b'.length short
    rw [same, there, List.getD_eq_default _ _ le_rfl,
      List.getD_eq_getElem _ _ (by omega)] at here
    exact nonzero (here ▸ List.getElem_mem _)
  exact padBytes_inj fits (by omega) nonzero nonzero' same

theorem tryInto32_eq_some {b : Bytes} {w : Bytes32} : tryInto32 b = some w ↔ b = w.toList := by
  unfold tryInto32
  constructor
  · intro h
    split at h
    · simp only [Option.some.injEq] at h
      subst h
      simp
    · cases h
  · intro h
    subst h
    simp [Vector.toList]

@[simp] theorem tryInto32_toList (w : Bytes32) : tryInto32 w.toList = some w :=
  tryInto32_eq_some.mpr rfl

theorem leBytes32_getElem (n : Nat) (i : Nat) (h : i < 32) :
    (leBytes32 n)[i].toNat = n / 256 ^ i % 256 := by
  simp [leBytes32]

/-- Equal words agree on every digit, hence on every partial sum of digits. -/
theorem mod_pow_eq_of_leBytes32_eq {m n : Nat} (h : leBytes32 m = leBytes32 n) :
    ∀ k, k ≤ 32 → m % 256 ^ k = n % 256 ^ k := by
  intro k
  induction k with
  | zero => intro _; simp [Nat.mod_one]
  | succ k ih =>
    intro hk
    have digit : m / 256 ^ k % 256 = n / 256 ^ k % 256 := by
      rw [← leBytes32_getElem m k (by omega), ← leBytes32_getElem n k (by omega), h]
    rw [Nat.mod_pow_succ, Nat.mod_pow_succ, ih (by omega), digit]

theorem leBytes32_inj {m n : Nat} (hm : m < 256 ^ 32) (hn : n < 256 ^ 32)
    (h : leBytes32 m = leBytes32 n) : m = n := by
  have := mod_pow_eq_of_leBytes32_eq h 32 (Nat.le_refl _)
  rwa [Nat.mod_eq_of_lt hm, Nat.mod_eq_of_lt hn] at this

/-! ## Concatenations of words -/

/-- The bytes of a sequence of words, in order. -/
def concat32 (ws : List Bytes32) : Bytes := ws.flatMap Vector.toList

@[simp] theorem concat32_nil : concat32 [] = [] := rfl

@[simp] theorem concat32_cons (w : Bytes32) (ws : List Bytes32) :
    concat32 (w :: ws) = w.toList ++ concat32 ws := by simp [concat32]

@[simp] theorem concat32_length (ws : List Bytes32) : (concat32 ws).length = 32 * ws.length := by
  induction ws with
  | nil => rfl
  | cons w ws ih => simp [ih]; omega

theorem concat32_injective : Function.Injective concat32 := by
  intro xs
  induction xs with
  | nil =>
    intro ys h
    have := congrArg List.length h
    simp only [concat32_length, List.length_nil] at this
    exact (List.length_eq_zero_iff.mp (by omega)).symm
  | cons x xs ih =>
    intro ys h
    cases ys with
    | nil =>
      have := congrArg List.length h
      simp at this
    | cons y ys =>
      simp only [concat32_cons] at h
      obtain ⟨head, tail⟩ := List.append_inj h (by simp)
      rw [Vector.toList_inj.mp head, ih tail]

end OwlId.Lib
