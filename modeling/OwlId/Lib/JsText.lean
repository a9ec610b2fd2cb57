import Mathlib
import OwlId.Lib.Encodings
import OwlId.Lib.UnicodeCase

/-! # Text in JavaScript

The string operations of the language that differ from their Rust namesakes: what
counts as white space, and the lenient reading of hex digits by `parseInt`.  Strings
are sequences of Unicode scalar values; `utf16Length` is what `length` returns.
-/

namespace OwlId.Lib

/-- `WhiteSpace` and `LineTerminator`: the byte order mark is one, `U+0085` is not. -/
def isJsWhitespace (c : Char) : Bool :=
  (isWhitespace c && c.toNat != 0x85) || c.toNat == 0xfeff

/-- `String.prototype.trim`. -/
def jsTrim (s : String) : String := trimBy isJsWhitespace s

def utf16Length (s : String) : Nat :=
  (s.toList.map fun c => if c.toNat < 0x10000 then 1 else 2).sum

/-- The two characters on which the two notions of white space differ. -/
def isOddSpace (c : Char) : Bool := c.toNat == 0x85 || c.toNat == 0xfeff

theorem isJsWhitespace_eq {c : Char} (usual : isOddSpace c = false) :
    isJsWhitespace c = isWhitespace c := by
  simp only [isOddSpace, Bool.or_eq_false_iff, beq_eq_false_iff_ne] at usual
  rw [isJsWhitespace, bne_iff_ne.mpr usual.1, beq_false_of_ne usual.2, Bool.and_true, Bool.or_false]

theorem jsTrim_eq {s : String} (usual : ∀ c ∈ s.toList, isOddSpace c = false) :
    jsTrim s = trim s :=
  trimBy_congr fun c member => isJsWhitespace_eq (usual c member)

/-! ## Reading hex with `parseInt` -/

/-- The code units of a string; a surrogate stands as the character it belongs to, which
no reader below takes for a digit, a sign or a space. -/
def utf16Units (s : String) : List Char :=
  s.toList.flatMap fun c => if c.toNat < 0x10000 then [c] else [c, c]

/-- `parseInt` of two code units in base 16, stored in a byte: `NaN` becomes zero, and
reading stops at the first unit that is not a digit. -/
def parseHexPair (a b : Char) : UInt8 :=
  match hexVal a, hexVal b with
  | some x, some y => UInt8.ofNat (16 * x + y)
  | some x, none => UInt8.ofNat x
  | none, some y =>
    if isJsWhitespace a || a == '+' then UInt8.ofNat y
    else if a == '-' then 0 - UInt8.ofNat y
    else 0
  | none, none => 0

/-- An odd unit at the end falls outside the array. -/
def parseHexPairs : List Char → Bytes
  | a :: b :: rest => parseHexPair a b :: parseHexPairs rest
  | _ => []

/-- `hexToBytes`: every text is read, and nothing is stripped from it. -/
def hexToBytes (hex : String) : Bytes := parseHexPairs (utf16Units hex)

theorem utf16Units_of_ascii {s : String} (ascii : ∀ c ∈ s.toList, c.toNat < 128) :
    utf16Units s = s.toList := by
  have single : s.toList.flatMap (fun c => if c.toNat < 0x10000 then [c] else [c, c]) =
      s.toList.flatMap fun c => [c] := by
    apply List.flatMap_congr
    intro c member
    have small := ascii c member
    rw [if_pos (by omega)]
  rw [utf16Units, single, List.flatMap_singleton']

theorem parseHexPairs_of_decode {cs : List Char} {bs : Bytes}
    (decoded : hexDecodeChars cs = some bs) :
    parseHexPairs cs = bs ∧ ∀ c ∈ cs, c.toNat < 128 := by
  induction cs using hexDecodeChars.induct generalizing bs with
  | case1 =>
    cases decoded
    exact ⟨rfl, by simp⟩
  | case2 c => cases decoded
  | case3 a b rest ih =>
    simp only [hexDecodeChars, Option.bind_eq_bind, Option.bind_eq_some_iff, Option.pure_def,
      Option.some.injEq] at decoded
    obtain ⟨x, high, y, low, tail, inner, joined⟩ := decoded
    obtain ⟨read, ascii⟩ := ih inner
    refine ⟨by rw [parseHexPairs, parseHexPair, high, low, read, joined], ?_⟩
    simp only [List.mem_cons, forall_eq_or_imp]
    exact ⟨(hexVal_bounds high).1, (hexVal_bounds low).1, ascii⟩

/-- On hex text without a leading `0x` the lenient reader is the strict one. -/
theorem hexToBytes_of_decode {hex : String} {bs : Bytes} (decoded : hexDecode hex = some bs) :
    hexToBytes hex = bs := by
  obtain ⟨read, ascii⟩ := parseHexPairs_of_decode decoded
  rw [hexToBytes, utf16Units_of_ascii ascii, read]

/-- A single leading `0x`, which the readers of 32-byte words strip. -/
def strip0x : List Char → List Char
  | a :: b :: rest => if a = '0' ∧ b = 'x' then rest else a :: b :: rest
  | cs => cs

/-! ## Numbers as bytes -/

/-- The loop that writes a number: at most `k` digits, none past the last nonzero one. -/
def leDigits : Nat → Nat → Bytes
  | 0, _ => []
  | k + 1, n => if 0 < n then UInt8.ofNat n :: leDigits k (n / 256) else []

theorem leDigits_getD (k n i : Nat) :
    (leDigits k n).getD i 0 = if i < k then UInt8.ofNat (n / 256 ^ i) else 0 := by
  induction k generalizing n i with
  | zero => simp [leDigits]
  | succ k ih =>
    rw [leDigits]
    by_cases positive : 0 < n
    · rw [if_pos positive]
      cases i with
      | zero => simp
      | succ i =>
        rw [List.getD_cons_succ, ih, Nat.div_div_eq_div_mul, ← Nat.pow_succ']
        simp
    · -- the loop stops at zero, whose digits are all zero
      have zero : n = 0 := by omega
      simp [zero]

theorem padBytes_leDigits (n : Nat) : padBytes (leDigits 16 n) = leBytes32 (n % 2 ^ 128) := by
  apply Vector.ext
  intro i bound
  rw [padBytes_getElem _ _ bound, leDigits_getD, leBytes32, Vector.getElem_ofFn]
  split
  · rename_i low
    apply UInt8.toNat_inj.mp
    have divides : 256 ^ (i + 1) ∣ 2 ^ 128 := by
      rw [show 256 = 2 ^ 8 by rfl, ← Nat.pow_mul]
      exact Nat.pow_dvd_pow 2 (by omega)
    have digit (m : Nat) : m / 256 ^ i % 2 ^ 8 = m % 256 ^ (i + 1) / 256 ^ i :=
      (Nat.mod_mul_right_div_self m (256 ^ i) 256).symm
    rw [UInt8.toNat_ofNat', UInt8.toNat_ofNat', digit, digit, Nat.mod_mod_of_dvd n divides]
  · have small : n % 2 ^ 128 < 256 ^ i := by
      calc n % 2 ^ 128 < 256 ^ 16 := by omega
        _ ≤ 256 ^ i := Nat.pow_le_pow_right (by omega) (by omega)
    rw [Nat.div_eq_of_lt small]
    rfl

/-! ## Texts that both languages trim alike -/

theorem exists_trimBy (space : Char → Bool) (s : String) :
    ∃ before after : List Char, before.all space = true ∧ after.all space = true ∧
      s.toList = before ++ (trimBy space s).toList ++ after := by
  refine ⟨s.toList.takeWhile space,
    ((s.toList.dropWhile space).reverse.takeWhile space).reverse, List.all_takeWhile, ?_, ?_⟩
  · rw [List.all_reverse]
    exact List.all_takeWhile
  · rw [trimBy, String.toList_ofList, List.append_assoc, ← List.reverse_append,
      List.takeWhile_append_dropWhile, List.reverse_reverse, List.takeWhile_append_dropWhile]

/-- Trimming more characters forgets an earlier trim. -/
theorem trimBy_trimBy {space wider : Char → Bool} (wide : ∀ c, space c = true → wider c = true)
    (s : String) : trimBy wider (trimBy space s) = trimBy wider s := by
  obtain ⟨before, after, spaces, spaces', parts⟩ := exists_trimBy space s
  have widen : ∀ {cs : List Char}, cs.all space = true → cs.all wider = true := by
    intro cs all
    rw [List.all_eq_true] at all ⊢
    exact fun c member => wide c (all c member)
  have whole := trimBy_surrounded (trimBy space s) (widen spaces) (widen spaces')
  rw [← parts, String.ofList_toList] at whole
  exact whole.symm

/-- A wider trim changes nothing if no character of the trimmed text is concerned. -/
theorem trimBy_eq_of_wider {space wider : Char → Bool} {s : String}
    (wide : ∀ c, space c = true → wider c = true)
    (agree : ∀ c ∈ (trimBy space s).toList, wider c = space c) :
    trimBy wider s = trimBy space s := by
  rw [← trimBy_trimBy wide, trimBy_congr agree, trimBy_trimBy fun c blank => blank]

theorem jsTrim_eq_trim {s : String} (here : ∀ c ∈ (jsTrim s).toList, isOddSpace c = false)
    (there : ∀ c ∈ (trim s).toList, isOddSpace c = false) : jsTrim s = trim s := by
  -- both are the trim of the union of the two notions of white space
  have union : ∀ {space : Char → Bool}, (∀ c, isOddSpace c = false → space c = isWhitespace c) →
      (∀ c, space c = true → (isWhitespace c || isOddSpace c) = true) →
      (∀ c ∈ (trimBy space s).toList, isOddSpace c = false) →
      trimBy (fun c => isWhitespace c || isOddSpace c) s = trimBy space s := by
    intro space usual wide inside
    apply trimBy_eq_of_wider wide
    intro c member
    rw [usual c (inside c member), inside c member, Bool.or_false]
  have js := @union isJsWhitespace (fun c usual => isJsWhitespace_eq usual)
    (fun c blank => by
      by_cases odd : isOddSpace c = true
      · rw [odd, Bool.or_true]
      · rw [← isJsWhitespace_eq (Bool.not_eq_true _ ▸ odd), blank, Bool.true_or]) here
  have rust := @union isWhitespace (fun c _ => rfl) (fun c blank => by rw [blank, Bool.true_or]) there
  rw [jsTrim, ← js, rust, trim]

end OwlId.Lib
