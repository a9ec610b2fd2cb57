import Mathlib
import OwlId.Lib.Encodings

/-! # Standard base64

The alphabet with `+` and `/`, padded to a multiple of four.  The decoder is the strict one:
the padding must be exact and the unused bits zero, so it accepts one spelling of each byte
string, whose length tells how many bytes there are.
-/

namespace OwlId.Lib

def toStandard : Char → Char
  | '-' => '+'
  | '_' => '/'
  | c => c

def fromStandard : Char → Char
  | '+' => '-'
  | '/' => '_'
  | c => c

def b64Standard (bs : Bytes) : String :=
  String.ofList ((b64EncodeChars bs).map toStandard ++ List.replicate ((3 - bs.length % 3) % 3) '=')

/-- The text without its padding. -/
def unpadded (cs : List Char) : List Char := cs.rdropWhile (· = '=')

def b64StandardDecode (s : String) : Option Bytes :=
  let body := unpadded s.toList
  if '-' ∈ body ∨ '_' ∈ body ∨ s.toList.length ≠ body.length + (4 - body.length % 4) % 4 then none
  else b64DecodeChars (body.map fromStandard)

theorem unpadded_padded {cs : List Char} (noPad : '=' ∉ cs) (n : Nat) :
    unpadded (cs ++ List.replicate n '=') = cs := by
  induction n with
  | zero =>
    rw [List.replicate_zero, List.append_nil, unpadded, List.rdropWhile_eq_self_iff]
    intro nonempty
    rw [decide_eq_true_eq]
    exact fun last => noPad (last ▸ List.getLast_mem nonempty)
  | succ n ih =>
    rw [List.replicate_succ', ← List.append_assoc, unpadded, List.rdropWhile_concat_pos _ _ _ (by simp)]
    exact ih

set_option maxRecDepth 4096 in
/-- Swapping the two digits and back; none of the results is an unswapped digit or padding. -/
theorem standard_digit : ∀ n < 64, fromStandard (toStandard (b64Char n)) = b64Char n ∧
    toStandard (b64Char n) ≠ '-' ∧ toStandard (b64Char n) ≠ '_' ∧
      toStandard (b64Char n) ≠ '=' := by decide

/-- The padding fills the last group of four digits. -/
theorem padding_length (bs : Bytes) :
    (4 - (b64EncodeChars bs).length % 4) % 4 = (3 - bs.length % 3) % 3 := by
  rw [b64EncodeChars_length]
  obtain ⟨k, r, small, size⟩ : ∃ k r, r < 3 ∧ bs.length = 3 * k + r :=
    ⟨bs.length / 3, bs.length % 3, Nat.mod_lt _ (by omega), (Nat.div_add_mod _ _).symm⟩
  rw [size]
  interval_cases r <;> omega

@[simp] theorem b64StandardDecode_b64Standard (bs : Bytes) :
    b64StandardDecode (b64Standard bs) = some bs := by
  have digit : ∀ c ∈ b64EncodeChars bs, fromStandard (toStandard c) = c ∧ toStandard c ≠ '-' ∧
      toStandard c ≠ '_' ∧ toStandard c ≠ '=' :=
    fun c member => forall_mem_b64EncodeChars (p := fun c => fromStandard (toStandard c) = c ∧
      toStandard c ≠ '-' ∧ toStandard c ≠ '_' ∧ toStandard c ≠ '=') standard_digit member
  have notIn : ∀ d : Char, (∀ c ∈ b64EncodeChars bs, toStandard c ≠ d) →
      d ∉ (b64EncodeChars bs).map toStandard := by
    intro d differs member
    obtain ⟨c, inside, same⟩ := List.mem_map.mp member
    exact differs c inside same
  have chars : (b64Standard bs).toList = (b64EncodeChars bs).map toStandard ++
      List.replicate ((3 - bs.length % 3) % 3) '=' := by
    rw [b64Standard, String.toList_ofList]
  have body : unpadded (b64Standard bs).toList = (b64EncodeChars bs).map toStandard := by
    rw [chars]
    exact unpadded_padded (notIn '=' fun c inside => (digit c inside).2.2.2) _
  have back : ((b64EncodeChars bs).map toStandard).map fromStandard = b64EncodeChars bs := by
    rw [List.map_map]
    exact (List.map_congr_left fun c inside => (digit c inside).1).trans (List.map_id _)
  have accepted : ¬('-' ∈ (b64EncodeChars bs).map toStandard ∨
      '_' ∈ (b64EncodeChars bs).map toStandard ∨
      (b64Standard bs).toList.length ≠ ((b64EncodeChars bs).map toStandard).length +
        (4 - ((b64EncodeChars bs).map toStandard).length % 4) % 4) := by
    rw [not_or, not_or, not_not, chars, List.length_append, List.length_replicate,
      List.length_map, padding_length]
    exact ⟨notIn '-' fun c inside => (digit c inside).2.1,
      notIn '_' fun c inside => (digit c inside).2.2.1, rfl⟩
  simp only [b64StandardDecode, body, if_neg accepted, back, b64DecodeChars_b64EncodeChars]

theorem b64StandardDecode_length {s : String} {bs : Bytes}
    (decoded : b64StandardDecode s = some bs) : s.toList.length = (bs.length + 2) / 3 * 4 := by
  simp only [b64StandardDecode, Option.ite_none_left_eq_some, not_or, not_not] at decoded
  obtain ⟨⟨_, _, padded⟩, decoded⟩ := decoded
  have digits := congrArg List.length (b64EncodeChars_of_decode decoded)
  rw [b64EncodeChars_length, List.length_map] at digits
  rw [padded, ← digits]
  omega

/-- No text spells 32 bytes both in hexadecimal and in base64. -/
theorem hexDecode_ne_b64StandardDecode {s : String} {hex base64 : Bytes}
    (fits : hex.length = 32) (fits' : base64.length = 32) (decoded : hexDecode s = some hex)
    (decoded' : b64StandardDecode s = some base64) : False := by
  have length := hexDecodeChars_length decoded
  have length' := b64StandardDecode_length decoded'
  rw [fits] at length
  rw [fits'] at length'
  omega

end OwlId.Lib
