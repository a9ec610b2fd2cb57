import Mathlib
import OwlId.Lib.StandardBase64
import OwlId.Lib.UnicodeCase
import OwlId.ProofSystem.SdJwtRoundTrip

/-! # The recovery file

A file that holds the credentials and their seeds under a key made from a code the user
writes down.  The code is folded before the key is made, so `recoveryFile_opens_exactly`
asks two things of the fold: that it forgets how a code was typed, and nothing else.
-/

namespace OwlId.Sdk

open OwlId.Lib OwlId.ProofSystem

/-! ## Base64url with the browser's functions -/

/-- `bufferToBase64url`: `btoa`, the two characters replaced, the padding cut. -/
def bufferToBase64url (bytes : Bytes) : String :=
  String.ofList (unpadded ((b64Standard bytes).toList.map fromStandard))

def isAtobSpace (c : Char) : Bool := [9, 10, 12, 13, 32].contains c.toNat

def atobVal (c : Char) : Option Nat :=
  if c = '-' ∨ c = '_' then none else b64Val (fromStandard c)

/-- The bits left over in the last group are dropped, whatever they are. -/
def atobChars : List Char → Option Bytes
  | [] => some []
  | [_] => none
  | [w, x] => do
    let w ← atobVal w
    let x ← atobVal x
    pure [UInt8.ofNat (w * 4 + x / 16)]
  | [w, x, y] => do
    let w ← atobVal w
    let x ← atobVal x
    let y ← atobVal y
    pure [UInt8.ofNat (w * 4 + x / 16), UInt8.ofNat (x % 16 * 16 + y / 4)]
  | w :: x :: y :: z :: rest => do
    let w ← atobVal w
    let x ← atobVal x
    let y ← atobVal y
    let z ← atobVal z
    let tail ← atobChars rest
    pure (UInt8.ofNat (w * 4 + x / 16) :: UInt8.ofNat (x % 16 * 16 + y / 4) ::
      UInt8.ofNat (y % 4 * 64 + z) :: tail)

/-- White space is ignored, and the padding of a full last group is optional. -/
def atob (cs : List Char) : Option Bytes :=
  let cs := cs.filter fun c => !isAtobSpace c
  if cs.length % 4 = 0 then
    let padding := (cs.rtakeWhile (· = '=')).length
    atobChars (cs.take (cs.length - min 2 padding))
  else atobChars cs

def base64urlToBuffer (text : String) : Except String Bytes :=
  okOr (atob (text.toList.map toStandard)) "The string to be decoded is not correctly encoded."

/-! ## The code -/

/-- Crockford's base32 digits. -/
def recoveryAlphabet : List Char := "0123456789ABCDEFGHJKMNPQRSTVWXYZ".toList

def codeGroups : Nat := 6

def codeGroupLen : Nat := 5

/-- The loop over the random bytes, from the `i`-th on. -/
def recoveryCodeChars (i : Nat) : Bytes → List Char
  | [] => []
  | b :: rest =>
    (if 0 < i ∧ i % codeGroupLen = 0 then ['-'] else []) ++
      recoveryAlphabet.getD (b &&& 31).toNat '0' :: recoveryCodeChars (i + 1) rest

def generateRecoveryCode (bytes : Vector UInt8 (codeGroups * codeGroupLen)) : String :=
  String.ofList (recoveryCodeChars 0 bytes.toList)

def confusable (c : Char) : Char :=
  if c = 'O' then '0' else if c = 'I' ∨ c = 'L' then '1' else c

def normalizeRecoveryCode (code : String) : String :=
  String.ofList (((toUpperCase code).toList.map confusable).filter (· ∈ recoveryAlphabet))

/-! ## The file -/

def fileVersion : String := "owlid-recovery-file-v1"

def recoveryDomain : Bytes := asBytes "owlid:recovery-file:v1"

def pbkdf2Iterations : ℚ := 600000

def minIterations : ℚ := 100000

def maxIterations : ℚ := 2000000

/-- A credential is whatever the application passes. -/
structure RecoveryFileEntry (Value : Type) where
  credential : Value
  holderSeedHex : String

/-- The iteration count is a number, which need not be an integer. -/
structure RecoveryKdf where
  name : String
  hash : String
  iterations : ℚ
  salt : String

structure RecoveryFile where
  v : String
  kdf : Option RecoveryKdf
  iv : String
  ct : String

/-- PBKDF2 with SHA-256 and AES-256-GCM; a `CryptoKey` is opaque to the program. -/
structure RecoveryCrypto where
  CryptoKey : Type
  pbkdf2 : Bytes → Bytes → Nat → CryptoKey
  encrypt : CryptoKey → Bytes → Bytes → Bytes → Bytes
  decrypt : CryptoKey → Bytes → Bytes → Bytes → Option Bytes

section

variable (P : Primitives) (crypto : RecoveryCrypto)

def deriveKey (code : String) (salt : Bytes) (iterations : ℚ) :
    Except String crypto.CryptoKey := do
  let normalized := normalizeRecoveryCode code
  ensure (codeGroups * codeGroupLen ≤ normalized.length) "Recovery code is too short"
  return crypto.pbkdf2 (asBytes normalized) salt iterations.num.toNat

variable {Value : Type} (jsonOf : Value → Except String (Option Json))

/-- What `JSON.stringify` writes of an entry; it leaves an undefined credential out. -/
def entryJson (entry : RecoveryFileEntry Value) : Except String Json := do
  let credential ← jsonOf entry.credential
  return .ofFields (credential.toList.map (("credential", ·)) ++
    [("holderSeedHex", .string entry.holderSeedHex)])

def recoveryPayload (items : List Json) : Json :=
  .ofFields [("v", .string fileVersion), ("entries", .array items)]

def encryptRecoveryFile (salt : Vector UInt8 16) (iv : Vector UInt8 12)
    (entries : List (RecoveryFileEntry Value)) (code : String) : Except String RecoveryFile := do
  ensure (entries ≠ []) "Nothing to back up"
  let key ← deriveKey crypto code salt.toList pbkdf2Iterations
  let items ← entries.mapM (entryJson jsonOf)
  let ct := crypto.encrypt key iv.toList recoveryDomain (P.toVec (recoveryPayload items))
  return ⟨fileVersion, some ⟨"PBKDF2", "SHA-256", pbkdf2Iterations, bufferToBase64url salt.toList⟩,
    bufferToBase64url iv.toList, bufferToBase64url ct⟩

/-- The checks on what the file says of its key. -/
def checkedKdf (file : RecoveryFile) : Except String RecoveryKdf :=
  match file.kdf with
  | none => .error "Unsupported recovery file KDF"
  | some kdf =>
    if kdf.name ≠ "PBKDF2" ∨ kdf.hash ≠ "SHA-256" then .error "Unsupported recovery file KDF"
    else if kdf.iterations.den ≠ 1 ∨ kdf.iterations < minIterations ∨
        maxIterations < kdf.iterations then
      .error "Recovery file has an out-of-range iteration count"
    else .ok kdf

/-- The `try` block: whatever fails in it is reported as a wrong code. -/
def openedWith (key : crypto.CryptoKey) (file : RecoveryFile) : Except String Bytes :=
  let opened := do
    let iv ← base64urlToBuffer file.iv
    let ct ← base64urlToBuffer file.ct
    okOr (crypto.decrypt key iv recoveryDomain ct) "OperationError"
  mapErr (fun _ => "Invalid recovery code or corrupted recovery file") opened

def parsedEntries : Json → Except String (List Json)
  | .null => .error "Cannot read properties of null (reading 'v')"
  | parsed =>
    match parsed.getStr "v", parsed.get "entries" with
    | some v, some (.array items) =>
      if v = fileVersion then .ok items else .error "Recovery file payload is malformed"
    | _, _ => .error "Recovery file payload is malformed"

def decryptRecoveryFile (file : Option RecoveryFile) (code : String) :
    Except String (List Json) := do
  let file ← okOr (file.filter (·.v = fileVersion)) "Unsupported recovery file format"
  let kdf ← checkedKdf file
  let salt ← base64urlToBuffer kdf.salt
  let key ← deriveKey crypto code salt kdf.iterations
  let pt ← openedWith crypto key file
  let parsed ← P.fromSlice pt
  parsedEntries parsed

end

/-! ## Base64url comes back -/

theorem atobVal_digit : ∀ n < 64, atobVal (toStandard (b64Char n)) = some n := by
  intro n small
  obtain ⟨back, noMinus, noLow, _⟩ := standard_digit n small
  rw [atobVal, if_neg (not_or.mpr ⟨noMinus, noLow⟩), back, b64Val_b64Char n small]

theorem atobVal_toStandard {c : Char} {n : Nat} (value : b64Val c = some n) :
    atobVal (toStandard c) = some n := by
  obtain ⟨small, digit⟩ := b64Val_eq_some value
  rw [← digit, atobVal_digit n small]

/-- The lenient decoder reads what the strict one does. -/
theorem atobChars_of_decode {cs : List Char} {bs : Bytes}
    (decoded : b64DecodeChars cs = some bs) : atobChars (cs.map toStandard) = some bs := by
  induction cs using b64DecodeChars.induct generalizing bs with
  | case1 => exact decoded
  | case2 c => cases decoded
  | case3 w x =>
    simp only [b64DecodeChars, Option.bind_eq_bind, Option.bind_eq_some_iff] at decoded
    obtain ⟨w', hw, x', hx, last⟩ := decoded
    split at last
    · simp only [List.map_cons, List.map_nil, atobChars, atobVal_toStandard hw,
        atobVal_toStandard hx, Option.bind_eq_bind, Option.bind_some]
      exact last
    · cases last
  | case4 w x y =>
    simp only [b64DecodeChars, Option.bind_eq_bind, Option.bind_eq_some_iff] at decoded
    obtain ⟨w', hw, x', hx, y', hy, last⟩ := decoded
    split at last
    · simp only [List.map_cons, List.map_nil, atobChars, atobVal_toStandard hw,
        atobVal_toStandard hx, atobVal_toStandard hy, Option.bind_eq_bind, Option.bind_some]
      exact last
    · cases last
  | case5 w x y z rest ih =>
    simp only [b64DecodeChars, Option.bind_eq_bind, Option.bind_eq_some_iff] at decoded
    obtain ⟨w', hw, x', hx, y', hy, z', hz, tail, htail, last⟩ := decoded
    simp only [List.map_cons, atobChars, atobVal_toStandard hw, atobVal_toStandard hx,
      atobVal_toStandard hy, atobVal_toStandard hz, ih htail, Option.bind_eq_bind,
      Option.bind_some]
    exact last

set_option maxRecDepth 4096 in
theorem url_digit : ∀ n < 64, fromStandard (toStandard (b64Char n)) = b64Char n ∧
    b64Char n ≠ '=' := by decide

set_option maxRecDepth 4096 in
theorem atob_digit : ∀ n < 64, isAtobSpace (toStandard (b64Char n)) = false ∧
    toStandard (b64Char n) ≠ '=' := by decide

theorem bufferToBase64url_eq (bs : Bytes) : bufferToBase64url bs = b64 bs := by
  have digit : ∀ c ∈ b64EncodeChars bs, fromStandard (toStandard c) = c ∧ c ≠ '=' :=
    fun c member => forall_mem_b64EncodeChars
      (p := fun c => fromStandard (toStandard c) = c ∧ c ≠ '=') url_digit member
  have back : ((b64EncodeChars bs).map toStandard).map fromStandard = b64EncodeChars bs := by
    rw [List.map_map]
    exact (List.map_congr_left fun c inside => (digit c inside).1).trans (List.map_id _)
  have noPad : '=' ∉ b64EncodeChars bs := fun member => (digit '=' member).2 rfl
  rw [bufferToBase64url, b64Standard, String.toList_ofList, List.map_append, back,
    List.map_replicate]
  show String.ofList (unpadded (_ ++ List.replicate _ '=')) = _
  rw [unpadded_padded noPad, b64]

theorem base64urlToBuffer_bufferToBase64url (bs : Bytes) :
    base64urlToBuffer (bufferToBase64url bs) = .ok bs := by
  rw [bufferToBase64url_eq, base64urlToBuffer, okOr_eq_ok, b64_toList]
  have digit : ∀ c ∈ (b64EncodeChars bs).map toStandard,
      isAtobSpace c = false ∧ c ≠ '=' := by
    intro c member
    obtain ⟨d, inside, rfl⟩ := List.mem_map.mp member
    exact forall_mem_b64EncodeChars
      (p := fun d => isAtobSpace (toStandard d) = false ∧ toStandard d ≠ '=') atob_digit inside
  have noSpace : ((b64EncodeChars bs).map toStandard).filter (fun c => !isAtobSpace c) =
      (b64EncodeChars bs).map toStandard :=
    List.filter_eq_self.mpr fun c member => by rw [(digit c member).1]; rfl
  have noPadding : ((b64EncodeChars bs).map toStandard).rtakeWhile (· = '=') = [] := by
    rw [List.rtakeWhile_eq_nil_iff]
    intro nonempty
    rw [decide_eq_true_eq]
    exact (digit _ (List.getLast_mem nonempty)).2
  have decoded := atobChars_of_decode (b64DecodeChars_b64EncodeChars bs)
  simp only [atob, noSpace, noPadding, List.length_nil, Nat.min_zero, Nat.sub_zero,
    List.take_length, decoded, ite_self]

/-! ## The fold -/

/-- What one typed character contributes. -/
def symbols (c : Char) : List Char :=
  ((upperChar c).map confusable).filter (· ∈ recoveryAlphabet)

theorem normalizeRecoveryCode_eq (code : String) :
    normalizeRecoveryCode code = String.ofList (code.toList.flatMap symbols) := by
  rw [normalizeRecoveryCode, toUpperCase, String.toList_ofList, List.map_flatMap,
    List.filter_flatMap]
  rfl

theorem alphabet_digit {c : Char} (digit : c ∈ recoveryAlphabet) :
    c.toNat < 97 ∧ c.toNat ≠ 0 ∧ confusable c = c := by
  have all : recoveryAlphabet.all (fun c =>
      decide (c.toNat < 97 ∧ c.toNat ≠ 0 ∧ confusable c = c)) = true := rfl
  simpa only [decide_eq_true_eq] using List.all_eq_true.mp all c digit

theorem symbols_alphabet {c : Char} (digit : c ∈ recoveryAlphabet) : symbols c = [c] := by
  obtain ⟨capital, _, plain⟩ := alphabet_digit digit
  rw [symbols, upperChar_ascii (by omega), asciiUpper_eq_self (.inl capital), List.map_singleton,
    plain]
  simp [digit]

/-- The fold changes no text of its alphabet, so it confuses none of them. -/
theorem normalizeRecoveryCode_alphabet {code : String} (digits : ∀ c ∈ code.toList,
    c ∈ recoveryAlphabet) : normalizeRecoveryCode code = code := by
  have same : code.toList.flatMap symbols = code.toList.flatMap fun c => [c] :=
    List.flatMap_congr fun c member => symbols_alphabet (digits c member)
  rw [normalizeRecoveryCode_eq, same, List.flatMap_singleton', String.ofList_toList]

theorem normalized_digits {code : String} {c : Char}
    (member : c ∈ (normalizeRecoveryCode code).toList) : c ∈ recoveryAlphabet := by
  rw [normalizeRecoveryCode, String.toList_ofList, List.mem_filter, decide_eq_true_eq] at member
  exact member.2

theorem normalizeRecoveryCode_idempotent (code : String) :
    normalizeRecoveryCode (normalizeRecoveryCode code) = normalizeRecoveryCode code :=
  normalizeRecoveryCode_alphabet fun _ member => normalized_digits member

/-- Neither an ASCII letter or digit, nor changed or split by upper-casing. -/
def isSeparator (c : Char) : Prop :=
  upperChar c = [c] ∧ isAsciiAlphabetic c = false ∧ digitVal c = none

theorem symbols_separator {c : Char} (separator : isSeparator c) : symbols c = [] := by
  obtain ⟨upper, noLetter, noDigit⟩ := separator
  have alphabet : ∀ d ∈ recoveryAlphabet, (isAsciiAlphabetic d || (digitVal d).isSome) = true :=
    List.all_eq_true.mp rfl
  have plain : confusable c = c := by
    rw [confusable]
    split
    next o =>
      rw [o] at noLetter
      cases noLetter
    next =>
      split
      next il =>
        cases il with
        | inl i => rw [i] at noLetter; cases noLetter
        | inr l => rw [l] at noLetter; cases noLetter
      next => rfl
  have outside : c ∉ recoveryAlphabet := by
    intro digit
    have known := alphabet c digit
    rw [noLetter, noDigit] at known
    cases known
  rw [symbols, upper, List.map_singleton, plain, List.filter_singleton]
  simp [outside]

theorem symbols_asciiUpper (c : Char) : symbols (asciiUpper c) = symbols c := by
  by_cases lower : c.toNat < 97 ∨ 122 < c.toNat
  · rw [asciiUpper_eq_self lower]
  · have code : (asciiUpper c).toNat = c.toNat - 32 := by
      rw [asciiUpper_toNat, if_pos (by omega)]
    have upper : upperChar (asciiUpper c) = upperChar c := by
      rw [upperChar_ascii (by omega), upperChar_ascii (by omega),
        asciiUpper_eq_self (c := asciiUpper c) (by omega)]
    rw [symbols, upper, symbols]

/-- The letters that are read as zero and as one. -/
def confusedWith : List (List Char) := [['O', 'o', '0'], ['I', 'i', 'L', 'l', '1']]

theorem symbols_confused {group : List Char} (known : group ∈ confusedWith) {a b : Char}
    (first : a ∈ group) (second : b ∈ group) : symbols a = symbols b := by
  have folded : confusedWith.all (fun group => group.all fun a => group.all fun b =>
      decide (a.toNat < 128 ∧ confusable (asciiUpper a) = confusable (asciiUpper b))) = true := rfl
  simp only [List.all_eq_true, decide_eq_true_eq] at folded
  obtain ⟨asciiA, same⟩ := folded group known a first b second
  obtain ⟨asciiB, _⟩ := folded group known b second a first
  rw [symbols, symbols, upperChar_ascii asciiA, upperChar_ascii asciiB, List.map_singleton,
    List.map_singleton, same]

/-- Two ways of typing one code. -/
inductive Retyped : List Char → List Char → Prop
  | done : Retyped [] []
  | inCase {a b : Char} {s t : List Char} (same : asciiUpper a = asciiUpper b)
      (rest : Retyped s t) : Retyped (a :: s) (b :: t)
  | confused {a b : Char} {group s t : List Char} (known : group ∈ confusedWith)
      (first : a ∈ group) (second : b ∈ group) (rest : Retyped s t) :
      Retyped (a :: s) (b :: t)
  | separatorLeft {c : Char} {s t : List Char} (separator : isSeparator c)
      (rest : Retyped s t) : Retyped (c :: s) t
  | separatorRight {c : Char} {s t : List Char} (separator : isSeparator c)
      (rest : Retyped s t) : Retyped s (c :: t)

theorem Retyped.symbols_eq {s t : List Char} (retyped : Retyped s t) :
    s.flatMap symbols = t.flatMap symbols := by
  induction retyped with
  | done => rfl
  | @inCase a b s t same rest ih =>
    rw [List.flatMap_cons, List.flatMap_cons, ih, ← symbols_asciiUpper a, same,
      symbols_asciiUpper]
  | confused known first second rest ih =>
    rw [List.flatMap_cons, List.flatMap_cons, ih, symbols_confused known first second]
  | separatorLeft separator rest ih =>
    rw [List.flatMap_cons, symbols_separator separator, List.nil_append, ih]
  | separatorRight separator rest ih =>
    rw [List.flatMap_cons, symbols_separator separator, List.nil_append, ih]

theorem normalizeRecoveryCode_retyped {s t : String} (retyped : Retyped s.toList t.toList) :
    normalizeRecoveryCode s = normalizeRecoveryCode t := by
  rw [normalizeRecoveryCode_eq, normalizeRecoveryCode_eq, retyped.symbols_eq]

/-- A generated code is its digits with dashes between them. -/
theorem recoveryCodeChars_symbols (i : Nat) (bytes : Bytes) :
    (recoveryCodeChars i bytes).flatMap symbols =
        (recoveryCodeChars i bytes).filter (· ≠ '-') ∧
      ((recoveryCodeChars i bytes).filter (· ≠ '-')).length = bytes.length := by
  induction bytes generalizing i with
  | nil => exact ⟨rfl, rfl⟩
  | cons b rest ih =>
    have low : (b &&& 31).toNat < 32 := by
      rw [UInt8.toNat_and]
      exact Nat.and_lt_two_pow _ (by decide : (31 : UInt8).toNat < 2 ^ 5)
    have digit : recoveryAlphabet.getD (b &&& 31).toNat '0' ∈ recoveryAlphabet := by
      have size : recoveryAlphabet.length = 32 := rfl
      rw [List.getD_eq_getElem _ _ (by omega)]
      exact List.getElem_mem _
    have noDash : recoveryAlphabet.getD (b &&& 31).toNat '0' ≠ '-' := by
      intro dash
      rw [dash] at digit
      revert digit
      decide
    have dashes : ∀ dash : List Char, dash = [] ∨ dash = ['-'] →
        dash.flatMap symbols = [] ∧ dash.filter (· ≠ '-') = [] := by
      intro dash either
      cases either with
      | inl none => rw [none]; exact ⟨rfl, rfl⟩
      | inr one =>
        have separator : isSeparator '-' := ⟨upperChar_ascii (by decide), by decide, by decide⟩
        rw [one, List.flatMap_cons, symbols_separator separator]
        exact ⟨rfl, rfl⟩
    obtain ⟨noSymbols, filtered⟩ := dashes
      (if 0 < i ∧ i % codeGroupLen = 0 then ['-'] else []) (by split <;> simp)
    obtain ⟨same, length⟩ := ih (i + 1)
    rw [recoveryCodeChars, List.flatMap_append, List.filter_append, noSymbols, filtered,
      List.nil_append, List.nil_append, List.flatMap_cons, symbols_alphabet digit,
      List.filter_cons_of_pos (by simpa using noDash), same]
    exact ⟨rfl, by rw [List.length_cons, length, List.length_cons]⟩

theorem normalizeRecoveryCode_generated (bytes : Vector UInt8 (codeGroups * codeGroupLen)) :
    normalizeRecoveryCode (generateRecoveryCode bytes) =
      String.ofList ((generateRecoveryCode bytes).toList.filter (· ≠ '-')) := by
  rw [normalizeRecoveryCode_eq, generateRecoveryCode, String.toList_ofList,
    (recoveryCodeChars_symbols 0 bytes.toList).1]

/-! ## Opening the file -/

/-- The text of a code that was folded. -/
def Folded (code : String) : Prop := ∀ c ∈ code.toList, c ∈ recoveryAlphabet

structure RecoveryCryptoLaws (crypto : RecoveryCrypto) : Prop where
  opens : ∀ key iv aad pt, crypto.decrypt key iv aad (crypto.encrypt key iv aad pt) = some pt
  refuses : ∀ key key' iv aad pt, key ≠ key' →
    crypto.decrypt key' iv aad (crypto.encrypt key iv aad pt) = none
  separates : ∀ code code' salt iterations, Folded code → Folded code' →
    crypto.pbkdf2 (asBytes code) salt iterations = crypto.pbkdf2 (asBytes code') salt iterations →
      code = code'

section

variable {P : Primitives} {crypto : RecoveryCrypto} {Value : Type}
  {jsonOf : Value → Except String (Option Json)}

theorem folded_normalizeRecoveryCode (code : String) : Folded (normalizeRecoveryCode code) :=
  fun _ member => normalized_digits member

theorem Folded.zero_free {code : String} (folded : Folded code) : 0 ∉ asBytes code :=
  zero_notMem_asBytes fun c member => (alphabet_digit (folded c member)).2.1

/-- Two codes make one key exactly when they fold to one code. -/
theorem pbkdf2_eq_iff (laws : RecoveryCryptoLaws crypto) (code code' : String) (salt : Bytes)
    (iterations : Nat) :
    crypto.pbkdf2 (asBytes (normalizeRecoveryCode code)) salt iterations =
        crypto.pbkdf2 (asBytes (normalizeRecoveryCode code')) salt iterations ↔
      normalizeRecoveryCode code = normalizeRecoveryCode code' := by
  constructor
  · intro same
    exact laws.separates _ _ salt iterations (folded_normalizeRecoveryCode code)
      (folded_normalizeRecoveryCode code') same
  · intro same
    rw [same]

theorem deriveKey_eq_ok {code : String} {salt : Bytes} {iterations : ℚ}
    {key : crypto.CryptoKey} : deriveKey crypto code salt iterations = .ok key ↔
      codeGroups * codeGroupLen ≤ (normalizeRecoveryCode code).length ∧
        crypto.pbkdf2 (asBytes (normalizeRecoveryCode code)) salt iterations.num.toNat = key := by
  simp only [deriveKey, bind_eq_ok, ensure_eq_ok, pure_eq_ok, exists_const]

/-- The file with these texts in its fields. -/
def writtenFile (saltText ivText ctText : String) : RecoveryFile :=
  ⟨fileVersion, some ⟨"PBKDF2", "SHA-256", pbkdf2Iterations, saltText⟩, ivText, ctText⟩

/-- A file that was written: what its fields are. -/
theorem encryptRecoveryFile_eq_ok {salt : Vector UInt8 16} {iv : Vector UInt8 12}
    {entries : List (RecoveryFileEntry Value)} {code : String} {file : RecoveryFile} :
    encryptRecoveryFile P crypto jsonOf salt iv entries code = .ok file ↔
      entries ≠ [] ∧ codeGroups * codeGroupLen ≤ (normalizeRecoveryCode code).length ∧
      ∃ items, entries.mapM (entryJson jsonOf) = .ok items ∧
        file = writtenFile (bufferToBase64url salt.toList) (bufferToBase64url iv.toList)
          (bufferToBase64url (crypto.encrypt
            (crypto.pbkdf2 (asBytes (normalizeRecoveryCode code)) salt.toList
              pbkdf2Iterations.num.toNat)
            iv.toList recoveryDomain (P.toVec (recoveryPayload items)))) := by
  simp only [encryptRecoveryFile, bind_eq_ok, ensure_eq_ok, deriveKey_eq_ok, pure_eq_ok]
  constructor
  · rintro ⟨_, some, _, ⟨long, rfl⟩, items, written, rfl⟩
    exact ⟨some, long, items, written, rfl⟩
  · rintro ⟨some, long, items, written, rfl⟩
    exact ⟨(), some, _, ⟨long, rfl⟩, items, written, rfl⟩

theorem parsedEntries_payload (items : List Json) :
    parsedEntries (recoveryPayload items) = .ok items := by
  have version : (recoveryPayload items).getStr "v" = some fileVersion := by
    simp [recoveryPayload, Json.getStr, Json.get_ofFields, List.lookup, Json.asStr]
  have entries : (recoveryPayload items).get "entries" = some (.array items) := by
    simp [recoveryPayload, Json.get_ofFields]
  obtain ⟨fields, isObject⟩ : ∃ fields, recoveryPayload items = .object fields := ⟨_, rfl⟩
  rw [isObject] at version entries ⊢
  simp only [parsedEntries, version, entries, if_true]

theorem openedWith_written (laws : RecoveryCryptoLaws crypto) (key key' : crypto.CryptoKey)
    (saltText : String) (iv pt : Bytes) :
    (key = key' → openedWith crypto key' (writtenFile saltText (bufferToBase64url iv)
      (bufferToBase64url (crypto.encrypt key iv recoveryDomain pt))) = .ok pt) ∧
    (key ≠ key' → openedWith crypto key' (writtenFile saltText (bufferToBase64url iv)
      (bufferToBase64url (crypto.encrypt key iv recoveryDomain pt))) =
        .error "Invalid recovery code or corrupted recovery file") := by
  simp only [openedWith, writtenFile, base64urlToBuffer_bufferToBase64url]
  constructor
  · rintro rfl
    show mapErr _ (okOr (crypto.decrypt key iv recoveryDomain _) _) = .ok pt
    rw [laws.opens]
    rfl
  · intro different
    show mapErr _ (okOr (crypto.decrypt key' iv recoveryDomain _) _) = .error _
    rw [laws.refuses key key' iv recoveryDomain pt different]
    rfl

theorem checkedKdf_written (saltText ivText ctText : String) :
    checkedKdf (writtenFile saltText ivText ctText) =
      .ok ⟨"PBKDF2", "SHA-256", pbkdf2Iterations, saltText⟩ := by
  have inRange : ¬(pbkdf2Iterations.den ≠ 1 ∨ pbkdf2Iterations < minIterations ∨
      maxIterations < pbkdf2Iterations) := by
    have integer : pbkdf2Iterations.den = 1 := rfl
    rw [integer, pbkdf2Iterations, minIterations, maxIterations]
    norm_num
  simp only [checkedKdf, writtenFile, ne_eq, not_true_eq_false, or_self, if_false] at inRange ⊢
  rw [if_neg inRange]

/-- Up to the key nothing in a written file stops the reader. -/
theorem decryptRecoveryFile_upToKey {saltText : String} {salt : Bytes}
    (decoded : base64urlToBuffer saltText = .ok salt) (ivText ctText typed : String) :
    decryptRecoveryFile P crypto (some (writtenFile saltText ivText ctText)) typed = (do
      let key ← deriveKey crypto typed salt pbkdf2Iterations
      let pt ← openedWith crypto key (writtenFile saltText ivText ctText)
      let parsed ← P.fromSlice pt
      parsedEntries parsed) := by
  have found : (some (writtenFile saltText ivText ctText)).filter (·.v = fileVersion) =
      some (writtenFile saltText ivText ctText) :=
    Option.filter_some_pos (decide_eq_true rfl)
  simp only [decryptRecoveryFile, found, okOr, checkedKdf_written, decoded, bind, Except.bind]

/-- A written file under any code: opened by the codes of one fold, refused to the others. -/
theorem decryptRecoveryFile_written (laws : RecoveryCryptoLaws crypto)
    {salt : Vector UInt8 16} {iv : Vector UInt8 12} {entries : List (RecoveryFileEntry Value)}
    {code : String} {file : RecoveryFile} {items : List Json}
    (written : encryptRecoveryFile P crypto jsonOf salt iv entries code = .ok file)
    (jsons : entries.mapM (entryJson jsonOf) = .ok items)
    (json : RoundTrips P (recoveryPayload items)) (typed : String) :
    (normalizeRecoveryCode typed = normalizeRecoveryCode code →
      decryptRecoveryFile P crypto (some file) typed = .ok items) ∧
    (normalizeRecoveryCode typed ≠ normalizeRecoveryCode code →
      ∃ e, decryptRecoveryFile P crypto (some file) typed = .error e) := by
  obtain ⟨_, long, items', jsons', rfl⟩ := encryptRecoveryFile_eq_ok.mp written
  cases jsons.symm.trans jsons'
  rw [decryptRecoveryFile_upToKey (base64urlToBuffer_bufferToBase64url salt.toList)]
  constructor
  · intro same
    have long' : codeGroups * codeGroupLen ≤ (normalizeRecoveryCode typed).length := by
      rw [same]
      exact long
    have keys := (pbkdf2_eq_iff laws typed code salt.toList pbkdf2Iterations.num.toNat).mpr same
    have key := deriveKey_eq_ok.mpr ⟨long', keys⟩
    have opened := (openedWith_written laws _ _ (bufferToBase64url salt.toList) iv.toList
      (P.toVec (recoveryPayload items))).1 keys.symm
    rw [keys] at opened
    exact bind_eq_ok.mpr ⟨_, key, bind_eq_ok.mpr ⟨_, opened,
      bind_eq_ok.mpr ⟨_, json.read, parsedEntries_payload items⟩⟩⟩
  · intro different
    cases derived : deriveKey crypto typed salt.toList pbkdf2Iterations with
    | error e => exact ⟨e, rfl⟩
    | ok key =>
      have keys := (deriveKey_eq_ok.mp derived).2
      have others := mt (pbkdf2_eq_iff laws typed code salt.toList
        pbkdf2Iterations.num.toNat).mp different
      rw [keys] at others
      have refused := (openedWith_written laws _ key (bufferToBase64url salt.toList) iv.toList
        (P.toVec (recoveryPayload items))).2 (Ne.symm others)
      refine ⟨"Invalid recovery code or corrupted recovery file", ?_⟩
      simp only [refused, bind, Except.bind]

end

/-- A file is opened by every spelling of its code and by no other code; the fold forgets case,
    separators and the letters taken for digits, and nothing of a generated code. -/
theorem recoveryFile_opens_exactly (P : Primitives) (crypto : RecoveryCrypto)
    (laws : RecoveryCryptoLaws crypto) {Value : Type}
    (jsonOf : Value → Except String (Option Json)) :
    (∀ salt iv entries code file,
      encryptRecoveryFile P crypto jsonOf salt iv entries code = .ok file →
      ∃ items, entries.mapM (entryJson jsonOf) = .ok items ∧
        (RoundTrips P (recoveryPayload items) → ∀ typed,
          (normalizeRecoveryCode typed = normalizeRecoveryCode code →
            decryptRecoveryFile P crypto (some file) typed = .ok items) ∧
          (normalizeRecoveryCode typed ≠ normalizeRecoveryCode code →
            ∃ e, decryptRecoveryFile P crypto (some file) typed = .error e))) ∧
    (∀ code, normalizeRecoveryCode (normalizeRecoveryCode code) = normalizeRecoveryCode code) ∧
    (∀ s t : String, Retyped s.toList t.toList →
      normalizeRecoveryCode s = normalizeRecoveryCode t) ∧
    (∀ bytes, normalizeRecoveryCode (generateRecoveryCode bytes) =
      String.ofList ((generateRecoveryCode bytes).toList.filter (· ≠ '-'))) := by
  refine ⟨?_, normalizeRecoveryCode_idempotent, fun _ _ => normalizeRecoveryCode_retyped,
    normalizeRecoveryCode_generated⟩
  intro salt iv entries code file written
  obtain ⟨_, _, items, jsons, _⟩ := encryptRecoveryFile_eq_ok.mp written
  exact ⟨items, jsons, fun json => decryptRecoveryFile_written laws written jsons json⟩

/-- A key is the code it was made from, and a cipher text begins with its key, ended by a zero
    byte. -/
def sampleRecoveryCrypto : RecoveryCrypto where
  CryptoKey := { password : Bytes // 0 ∉ password }
  pbkdf2 password _ _ :=
    if zeroFree : 0 ∉ password then ⟨password, zeroFree⟩ else ⟨[], List.not_mem_nil⟩
  encrypt key _ _ pt := key.1 ++ 0 :: pt
  decrypt key _ _ ct :=
    if ct.takeWhile (· ≠ 0) = key.1 then some ((ct.dropWhile (· ≠ 0)).drop 1) else none

theorem takeWhile_key {key : Bytes} (zeroFree : 0 ∉ key) (rest : Bytes) :
    (key ++ 0 :: rest).takeWhile (· ≠ 0) = key ∧
      (key ++ 0 :: rest).dropWhile (· ≠ 0) = 0 :: rest := by
  have through : ∀ b ∈ key, decide (b ≠ 0) = true := by
    intro b member
    rw [decide_eq_true_eq]
    exact fun zero => zeroFree (zero ▸ member)
  rw [List.takeWhile_append_of_pos through, List.dropWhile_append_of_pos through]
  simp

theorem sampleRecoveryCrypto_laws : RecoveryCryptoLaws sampleRecoveryCrypto where
  opens key iv aad pt := by
    obtain ⟨front, back⟩ := takeWhile_key key.2 pt
    simp only [sampleRecoveryCrypto, front, back, if_true, List.drop_one, List.tail_cons]
  refuses key key' iv aad pt different := by
    have others : key.1 ≠ key'.1 := fun same => different (Subtype.ext same)
    simp only [sampleRecoveryCrypto, (takeWhile_key key.2 pt).1, if_neg others]
  separates code code' salt iterations folded folded' same := by
    simp only [sampleRecoveryCrypto, dif_pos folded.zero_free, dif_pos folded'.zero_free] at same
    exact asBytes_injective (congrArg Subtype.val same)

def sampleRecoveryEntry : RecoveryFileEntry Json := ⟨.string "vc", "00ff"⟩

def sampleRecoveryItem : Json :=
  .ofFields [("credential", .string "vc"), ("holderSeedHex", .string "00ff")]

theorem normalizeRecoveryCode_ascii {code : String}
    (ascii : code.toList.all (fun c => decide (c.toNat < 128)) = true) :
    normalizeRecoveryCode code = String.ofList
      (((code.toList.map asciiUpper).map confusable).filter (· ∈ recoveryAlphabet)) := by
  simp only [List.all_eq_true, decide_eq_true_eq] at ascii
  rw [normalizeRecoveryCode, toUpperCase_ascii ascii, toAsciiUppercase, String.toList_ofList]

/-- Typed in lower case with spaces and an `o` for a zero; and with a digit of it changed. -/
theorem recoveryFile_opens_exactly_at_sample :
    ∃ file, encryptRecoveryFile (samplePrimitives [recoveryPayload [sampleRecoveryItem]])
        sampleRecoveryCrypto (fun v => .ok (some v)) (Vector.replicate 16 5)
        (Vector.replicate 12 6) [sampleRecoveryEntry] "A0000-00000-00000-00000-00000-00000" =
      .ok file ∧
    decryptRecoveryFile (samplePrimitives [recoveryPayload [sampleRecoveryItem]])
        sampleRecoveryCrypto (some file) "aoooo 00000 00000 00000 00000 00000" =
      .ok [sampleRecoveryItem] ∧
    ∃ e, decryptRecoveryFile (samplePrimitives [recoveryPayload [sampleRecoveryItem]])
        sampleRecoveryCrypto (some file) "B0000-00000-00000-00000-00000-00000" = .error e := by
  have code : normalizeRecoveryCode "A0000-00000-00000-00000-00000-00000" =
      "A00000000000000000000000000000" := (normalizeRecoveryCode_ascii rfl).trans rfl
  have typed : normalizeRecoveryCode "aoooo 00000 00000 00000 00000 00000" =
      "A00000000000000000000000000000" := (normalizeRecoveryCode_ascii rfl).trans rfl
  have other : normalizeRecoveryCode "B0000-00000-00000-00000-00000-00000" =
      "B00000000000000000000000000000" := (normalizeRecoveryCode_ascii rfl).trans rfl
  have long : codeGroups * codeGroupLen ≤
      (normalizeRecoveryCode "A0000-00000-00000-00000-00000-00000").length := by
    rw [code]
    exact le_of_eq rfl
  have jsons : [sampleRecoveryEntry].mapM (entryJson fun v => .ok (some v)) =
      .ok [sampleRecoveryItem] := rfl
  obtain ⟨file, written⟩ : ∃ file, encryptRecoveryFile
      (samplePrimitives [recoveryPayload [sampleRecoveryItem]]) sampleRecoveryCrypto
      (fun v => .ok (some v)) (Vector.replicate 16 5) (Vector.replicate 12 6)
      [sampleRecoveryEntry] "A0000-00000-00000-00000-00000-00000" = .ok file :=
    ⟨_, encryptRecoveryFile_eq_ok.mpr
      ⟨List.cons_ne_nil sampleRecoveryEntry [], long, [sampleRecoveryItem], jsons, rfl⟩⟩
  have json : RoundTrips (samplePrimitives [recoveryPayload [sampleRecoveryItem]])
      (recoveryPayload [sampleRecoveryItem]) :=
    samplePrimitives_roundTrips (by decide) (by decide) (List.mem_singleton_self _)
  obtain ⟨items, jsons', opens⟩ := (recoveryFile_opens_exactly
    (samplePrimitives [recoveryPayload [sampleRecoveryItem]]) sampleRecoveryCrypto
    sampleRecoveryCrypto_laws fun v => .ok (some v)).1 _ _ _ _ _ written
  cases jsons.symm.trans jsons'
  refine ⟨file, written, (opens json _).1 (typed.trans code.symm), (opens json _).2 ?_⟩
  rw [other, code]
  decide

end OwlId.Sdk
