import Mathlib
import OwlId.Lib.Bytes
import OwlId.Lib.Text

/-! # Textual encodings of byte strings

Hexadecimal and unpadded base64url (RFC 4648 §5), encoder and decoder.  The hex
decoder takes both letter cases; the base64url decoder is the strict one, which
refuses padding, a lone trailing character and non-zero trailing bits.
-/

namespace OwlId.Lib

/-! ## Hexadecimal -/

def hexDigits : List Char := "0123456789abcdef".toList

def hexDigit (n : Nat) : Char := hexDigits.getD n '0'

/-- The value of a hex digit, in either case. -/
def hexVal (c : Char) : Option Nat :=
  if '0' ≤ c ∧ c ≤ '9' then some (c.toNat - 48)
  else if 'a' ≤ c ∧ c ≤ 'f' then some (c.toNat - 87)
  else if 'A' ≤ c ∧ c ≤ 'F' then some (c.toNat - 55)
  else none

def hexEncodeChars : Bytes → List Char
  | [] => []
  | b :: bs => hexDigit (b.toNat / 16) :: hexDigit (b.toNat % 16) :: hexEncodeChars bs

def hexDecodeChars : List Char → Option Bytes
  | [] => some []
  | [_] => none
  | a :: b :: rest => do
    let x ← hexVal a
    let y ← hexVal b
    let tail ← hexDecodeChars rest
    pure (UInt8.ofNat (16 * x + y) :: tail)

/-- Lower-case hex, two digits a byte. -/
def hexEncode (bs : Bytes) : String := String.ofList (hexEncodeChars bs)

def hexDecode (s : String) : Option Bytes := hexDecodeChars s.toList

theorem hexVal_hexDigit : ∀ n < 16, hexVal (hexDigit n) = some n := by decide

theorem hexDecodeChars_hexEncodeChars (bs : Bytes) :
    hexDecodeChars (hexEncodeChars bs) = some bs := by
  induction bs with
  | nil => rfl
  | cons b bs ih =>
    have hb := b.toNat_lt
    have high := hexVal_hexDigit (b.toNat / 16) (by omega)
    have low := hexVal_hexDigit (b.toNat % 16) (by omega)
    have join : 16 * (b.toNat / 16) + b.toNat % 16 = b.toNat := Nat.div_add_mod _ _
    simp only [hexEncodeChars, hexDecodeChars, high, low, ih, join, Option.bind_eq_bind,
      Option.bind_some, UInt8.ofNat_toNat, Option.pure_def]

@[simp] theorem hexDecode_hexEncode (bs : Bytes) : hexDecode (hexEncode bs) = some bs := by
  simp [hexDecode, hexEncode, hexDecodeChars_hexEncodeChars]

theorem hexEncode_injective : Function.Injective hexEncode := by
  intro a b h
  have : hexDecode (hexEncode a) = hexDecode (hexEncode b) := by rw [h]
  simpa using this

theorem hexEncodeChars_length (bs : Bytes) : (hexEncodeChars bs).length = 2 * bs.length := by
  induction bs with
  | nil => rfl
  | cons b bs ih => simp [hexEncodeChars, ih]; omega

theorem hexVal_bounds {c : Char} {n : Nat} (value : hexVal c = some n) :
    c.toNat < 128 ∧ n < 16 := by
  simp only [hexVal, charLe_iff, Char.reduceToNat] at value
  split at value
  · cases value; omega
  · split at value
    · cases value; omega
    · split at value
      · cases value; omega
      · cases value

/-- The encoder writes the lower-case form of every digit it reads. -/
theorem hexDigit_hexVal {c : Char} {n : Nat} (value : hexVal c = some n) :
    hexDigit n = asciiLower c := by
  have codes : ∀ n < 16, (hexDigit n).toNat = if n < 10 then 48 + n else 87 + n := by decide
  rw [← Char.toNat_inj, codes n (hexVal_bounds value).2, asciiLower_toNat]
  simp only [hexVal, charLe_iff, Char.reduceToNat] at value
  split at value
  · cases value
    rw [if_pos (by omega), if_neg (by omega)]
    omega
  · split at value
    · cases value
      rw [if_neg (by omega), if_neg (by omega)]
      omega
    · split at value
      · cases value
        rw [if_neg (by omega), if_pos (by omega)]
        omega
      · cases value

theorem hexVal_asciiLower (c : Char) : hexVal (asciiLower c) = hexVal c := by
  by_cases capital : 65 ≤ c.toNat ∧ c.toNat ≤ 90
  · simp only [hexVal, charLe_iff, Char.reduceToNat, asciiLower_toNat, if_pos capital]
    by_cases digit : c.toNat ≤ 70
    · rw [if_neg (by omega), if_pos (by omega), if_neg (by omega), if_neg (by omega),
        if_pos (by omega)]
      congr 1
    · rw [if_neg (by omega), if_neg (by omega), if_neg (by omega), if_neg (by omega),
        if_neg (by omega), if_neg (by omega)]
  · rw [asciiLower_eq_self (by omega)]

theorem hexDigit_mem : ∀ n < 16, hexDigit n ∈ hexDigits := by decide

theorem mem_hexEncodeChars {c : Char} {bs : Bytes} (h : c ∈ hexEncodeChars bs) : c ∈ hexDigits := by
  induction bs with
  | nil => cases h
  | cons b bs ih =>
    have hb := b.toNat_lt
    simp only [hexEncodeChars, List.mem_cons] at h
    rcases h with rfl | rfl | h
    · exact hexDigit_mem _ (by omega)
    · exact hexDigit_mem _ (by omega)
    · exact ih h

/-! ## Base64url without padding -/

def b64Alphabet : List Char :=
  "ABCDEFGHIJKLMNOPQRSTUVWXYZabcdefghijklmnopqrstuvwxyz0123456789-_".toList

def b64Char (n : Nat) : Char := b64Alphabet.getD n 'A'

def b64Val (c : Char) : Option Nat := b64Alphabet.idxOf? c

def b64EncodeChars : Bytes → List Char
  | [] => []
  | [a] => [b64Char (a.toNat / 4), b64Char (a.toNat % 4 * 16)]
  | [a, b] =>
    [b64Char (a.toNat / 4), b64Char (a.toNat % 4 * 16 + b.toNat / 16), b64Char (b.toNat % 16 * 4)]
  | a :: b :: c :: rest =>
    b64Char (a.toNat / 4) :: b64Char (a.toNat % 4 * 16 + b.toNat / 16) ::
      b64Char (b.toNat % 16 * 4 + c.toNat / 64) :: b64Char (c.toNat % 64) :: b64EncodeChars rest

def b64DecodeChars : List Char → Option Bytes
  | [] => some []
  | [_] => none
  | [w, x] => do
    let w ← b64Val w
    let x ← b64Val x
    if x % 16 = 0 then pure [UInt8.ofNat (w * 4 + x / 16)] else none
  | [w, x, y] => do
    let w ← b64Val w
    let x ← b64Val x
    let y ← b64Val y
    if y % 4 = 0 then
      pure [UInt8.ofNat (w * 4 + x / 16), UInt8.ofNat (x % 16 * 16 + y / 4)]
    else none
  | w :: x :: y :: z :: rest => do
    let w ← b64Val w
    let x ← b64Val x
    let y ← b64Val y
    let z ← b64Val z
    let tail ← b64DecodeChars rest
    pure (UInt8.ofNat (w * 4 + x / 16) :: UInt8.ofNat (x % 16 * 16 + y / 4) ::
      UInt8.ofNat (y % 4 * 64 + z) :: tail)

def b64 (bs : Bytes) : String := String.ofList (b64EncodeChars bs)

def unb64 (s : String) : Option Bytes := b64DecodeChars s.toList

theorem b64Alphabet_length : b64Alphabet.length = 64 := by decide

theorem b64Char_digit : ∀ n < 64, b64Val (b64Char n) = some n ∧ (b64Char n).toNat < 128 := by
  decide

theorem b64Val_b64Char (n : Nat) (small : n < 64) : b64Val (b64Char n) = some n :=
  (b64Char_digit n small).1

theorem b64Char_mem (n : Nat) (small : n < 64) : b64Char n ∈ b64Alphabet := by
  rw [b64Char, List.getD_eq_getElem _ _ (b64Alphabet_length ▸ small)]
  exact List.getElem_mem _

theorem b64DecodeChars_b64EncodeChars (bs : Bytes) :
    b64DecodeChars (b64EncodeChars bs) = some bs := by
  induction bs using b64EncodeChars.induct with
  | case1 => rfl
  | case2 a =>
    have ha := a.toNat_lt
    have join : a.toNat / 4 * 4 + a.toNat % 4 * 16 / 16 = a.toNat := by omega
    simp only [b64EncodeChars, b64DecodeChars, b64Val_b64Char (a.toNat / 4) (by omega),
      b64Val_b64Char (a.toNat % 4 * 16) (by omega), Option.bind_eq_bind, Option.bind_some,
      Nat.mul_mod_left, if_true, join, UInt8.ofNat_toNat, Option.pure_def]
  | case3 a b =>
    have ha := a.toNat_lt
    have hb := b.toNat_lt
    have first : a.toNat / 4 * 4 + (a.toNat % 4 * 16 + b.toNat / 16) / 16 = a.toNat := by omega
    have second : (a.toNat % 4 * 16 + b.toNat / 16) % 16 * 16 + b.toNat % 16 * 4 / 4 = b.toNat := by
      omega
    simp only [b64EncodeChars, b64DecodeChars, b64Val_b64Char (a.toNat / 4) (by omega),
      b64Val_b64Char (a.toNat % 4 * 16 + b.toNat / 16) (by omega),
      b64Val_b64Char (b.toNat % 16 * 4) (by omega), Option.bind_eq_bind, Option.bind_some,
      Nat.mul_mod_left, if_true, first, second, UInt8.ofNat_toNat, Option.pure_def]
  | case4 a b c rest ih =>
    have ha := a.toNat_lt
    have hb := b.toNat_lt
    have hc := c.toNat_lt
    have first : a.toNat / 4 * 4 + (a.toNat % 4 * 16 + b.toNat / 16) / 16 = a.toNat := by omega
    have second : (a.toNat % 4 * 16 + b.toNat / 16) % 16 * 16 +
        (b.toNat % 16 * 4 + c.toNat / 64) / 4 = b.toNat := by omega
    have third : (b.toNat % 16 * 4 + c.toNat / 64) % 4 * 64 + c.toNat % 64 = c.toNat := by omega
    simp only [b64EncodeChars, b64DecodeChars, b64Val_b64Char (a.toNat / 4) (by omega),
      b64Val_b64Char (a.toNat % 4 * 16 + b.toNat / 16) (by omega),
      b64Val_b64Char (b.toNat % 16 * 4 + c.toNat / 64) (by omega),
      b64Val_b64Char (c.toNat % 64) (by omega), Option.bind_eq_bind, Option.bind_some, ih,
      first, second, third, UInt8.ofNat_toNat, Option.pure_def]

@[simp] theorem unb64_b64 (bs : Bytes) : unb64 (b64 bs) = some bs := by
  simp [unb64, b64, b64DecodeChars_b64EncodeChars]

theorem b64_injective : Function.Injective b64 := by
  intro a b h
  have : unb64 (b64 a) = unb64 (b64 b) := by rw [h]
  simpa using this

@[simp] theorem b64_inj {a b : Bytes} : b64 a = b64 b ↔ a = b := b64_injective.eq_iff

/-- What holds of every character of the alphabet holds along an encoding. -/
theorem forall_mem_b64EncodeChars {p : Char → Prop} (digits : ∀ n < 64, p (b64Char n)) {c : Char}
    {bs : Bytes} (h : c ∈ b64EncodeChars bs) : p c := by
  induction bs using b64EncodeChars.induct with
  | case1 => cases h
  | case2 a =>
    have ha := a.toNat_lt
    simp only [b64EncodeChars, List.mem_cons, List.not_mem_nil, or_false] at h
    rcases h with rfl | rfl <;> exact digits _ (by omega)
  | case3 a b =>
    have ha := a.toNat_lt
    have hb := b.toNat_lt
    simp only [b64EncodeChars, List.mem_cons, List.not_mem_nil, or_false] at h
    rcases h with rfl | rfl | rfl <;> exact digits _ (by omega)
  | case4 a b c' rest ih =>
    have ha := a.toNat_lt
    have hb := b.toNat_lt
    have hc := c'.toNat_lt
    simp only [b64EncodeChars, List.mem_cons] at h
    rcases h with rfl | rfl | rfl | rfl | h
    · exact digits _ (by omega)
    · exact digits _ (by omega)
    · exact digits _ (by omega)
    · exact digits _ (by omega)
    · exact ih h

theorem mem_b64EncodeChars {c : Char} {bs : Bytes} (h : c ∈ b64EncodeChars bs) :
    c ∈ b64Alphabet := forall_mem_b64EncodeChars b64Char_mem h

theorem b64Char_ascii (n : Nat) (small : n < 64) : (b64Char n).toNat < 128 :=
  (b64Char_digit n small).2

theorem b64EncodeChars_length (bs : Bytes) :
    (b64EncodeChars bs).length = (4 * bs.length + 2) / 3 := by
  induction bs using b64EncodeChars.induct with
  | case1 => rfl
  | case2 a => simp [b64EncodeChars]
  | case3 a b => simp [b64EncodeChars]
  | case4 a b c rest ih => simp only [b64EncodeChars, List.length_cons, ih]; omega

theorem b64_toList (bs : Bytes) : (b64 bs).toList = b64EncodeChars bs := by simp [b64]

/-! ## Decoding is canonical -/

theorem b64Val_eq_some {c : Char} {n : Nat} (value : b64Val c = some n) : n < 64 ∧ b64Char n = c := by
  obtain ⟨bound, here, _⟩ := List.idxOf?_eq_some_iff.mp value
  have small := b64Alphabet_length
  exact ⟨by omega, by rw [b64Char, List.getD_eq_getElem _ _ bound, here]⟩

/-- The decoder accepts one spelling of each byte string. -/
theorem b64EncodeChars_of_decode {cs : List Char} {bs : Bytes}
    (decoded : b64DecodeChars cs = some bs) : b64EncodeChars bs = cs := by
  induction cs using b64DecodeChars.induct generalizing bs with
  | case1 => simp_all [b64DecodeChars, b64EncodeChars]
  | case2 c => simp [b64DecodeChars] at decoded
  | case3 w x =>
    simp only [b64DecodeChars, Option.bind_eq_bind, Option.bind_eq_some_iff] at decoded
    obtain ⟨w', hw, x', hx, last⟩ := decoded
    obtain ⟨hw', rfl⟩ := b64Val_eq_some hw
    obtain ⟨hx', rfl⟩ := b64Val_eq_some hx
    split at last
    · rename_i bits
      obtain rfl := Option.some.inj last
      simp only [b64EncodeChars, UInt8.toNat_ofNat']
      congr 3 <;> omega
    · cases last
  | case4 w x y =>
    simp only [b64DecodeChars, Option.bind_eq_bind, Option.bind_eq_some_iff] at decoded
    obtain ⟨w', hw, x', hx, y', hy, last⟩ := decoded
    obtain ⟨hw', rfl⟩ := b64Val_eq_some hw
    obtain ⟨hx', rfl⟩ := b64Val_eq_some hx
    obtain ⟨hy', rfl⟩ := b64Val_eq_some hy
    split at last
    · rename_i bits
      obtain rfl := Option.some.inj last
      simp only [b64EncodeChars, UInt8.toNat_ofNat']
      congr 4 <;> omega
    · cases last
  | case5 w x y z rest ih =>
    simp only [b64DecodeChars, Option.bind_eq_bind, Option.bind_eq_some_iff] at decoded
    obtain ⟨w', hw, x', hx, y', hy, z', hz, tail, htail, last⟩ := decoded
    obtain ⟨hw', rfl⟩ := b64Val_eq_some hw
    obtain ⟨hx', rfl⟩ := b64Val_eq_some hx
    obtain ⟨hy', rfl⟩ := b64Val_eq_some hy
    obtain ⟨hz', rfl⟩ := b64Val_eq_some hz
    obtain rfl := Option.some.inj last
    simp only [b64EncodeChars, UInt8.toNat_ofNat', ih htail]
    congr 5 <;> omega

theorem b64_of_unb64 {s : String} {bs : Bytes} (decoded : unb64 s = some bs) : b64 bs = s := by
  rw [b64, b64EncodeChars_of_decode decoded, String.ofList_toList]

theorem hexDecodeChars_length {cs : List Char} {bs : Bytes}
    (decoded : hexDecodeChars cs = some bs) : cs.length = 2 * bs.length := by
  induction cs using hexDecodeChars.induct generalizing bs with
  | case1 => simp_all [hexDecodeChars]
  | case2 c => simp [hexDecodeChars] at decoded
  | case3 a b rest ih =>
    simp only [hexDecodeChars, Option.bind_eq_bind, Option.bind_eq_some_iff] at decoded
    obtain ⟨_, _, _, _, tail, htail, last⟩ := decoded
    obtain rfl := Option.some.inj last
    simp only [List.length_cons, ih htail]
    omega

end OwlId.Lib
