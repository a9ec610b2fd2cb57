import Mathlib
import OwlId.Lib.Radix
import OwlId.Verification.Sessions

/-! # API keys

The text of a key, what is shown of it afterwards, and the table of the keys that the service
knows, which holds a hash of the text only.
-/

namespace OwlId.Verification

open OwlId.Lib OwlId.ProofSystem

/-! ## The text of a key -/

inductive KeyType where
  | pk
  | sk
deriving DecidableEq

def KeyType.asStr : KeyType → String
  | .pk => "pk"
  | .sk => "sk"

inductive Environment where
  | live
  | test
deriving DecidableEq

def Environment.asStr : Environment → String
  | .live => "live"
  | .test => "test"

def base62 : List Char :=
  "0123456789ABCDEFGHIJKLMNOPQRSTUVWXYZabcdefghijklmnopqrstuvwxyz".toList

/-- Digits are pushed lowest first, the zeros of the leading bytes after them, and the whole is
    written backwards. -/
def encodeBase62 (bytes : Bytes) : List Char :=
  (Radix.recode 62 256 (bytes.map UInt8.toNat)).reverse.map fun d => base62.getD d '0'

/-- `splitn`: the last part keeps its separators. -/
def splitN (sep : Char) : Nat → List Char → List (List Char)
  | 0, _ => []
  | 1, text => [text]
  | n + 2, text =>
    match text.span (· != sep) with
    | (part, []) => [part]
    | (part, _ :: rest) => part :: splitN sep (n + 1) rest

def splitHeadSuffix (raw : String) : Option (String × List Char) :=
  match splitN '_' 4 raw.toList with
  | [first, second, third, suffix] =>
    if first = "owlid".toList then
      some (String.ofList first ++ "_" ++ String.ofList second ++ "_" ++ String.ofList third,
        suffix)
    else none
  | _ => none

/-- Of a generated key, which is ASCII: lengths and slices are of bytes, here of characters. -/
def previewFor (raw : String) : String :=
  match splitHeadSuffix raw with
  | some (head, suffix) =>
    if 4 ≤ suffix.length then
      head ++ "_" ++ String.ofList (suffix.take (min suffix.length 2)) ++ "…" ++
        String.ofList (suffix.drop (suffix.length - 4))
    else head ++ "_" ++ String.ofList suffix
  | none => String.ofList (raw.toList.take 8) ++ "…"

structure GeneratedKey where
  raw : String
  preview : String
  keyType : KeyType
  environment : Environment

def keyHead (keyType : KeyType) (environment : Environment) : String :=
  "owlid_" ++ keyType.asStr ++ "_" ++ environment.asStr

/-- A new key, of the random bytes. -/
def generate (keyType : KeyType) (environment : Environment) (bytes : Bytes32) : GeneratedKey :=
  let raw := keyHead keyType environment ++ "_" ++ String.ofList (encodeBase62 bytes.toList)
  ⟨raw, previewFor raw, keyType, environment⟩

/-- What the startup code reads from the text of a configured key. -/
def apiKeyTypeAndEnv (key : String) : KeyType × Environment :=
  (if "owlid_pk_".toList <+: key.toList then .pk else .sk,
    if "_live_".toList <:+: key.toList then .live else .test)

theorem encodeBase62_mem {bytes : Bytes} {c : Char} (among : c ∈ encodeBase62 bytes) :
    c ∈ base62 := by
  obtain ⟨d, digit, rfl⟩ := List.mem_map.mp among
  have small : d < base62.length :=
    Radix.recode_lt (by decide) (by decide) (List.mem_reverse.mp digit)
  rw [List.getD_eq_getElem _ _ small]
  exact List.getElem_mem small

theorem idxOf_base62 : ∀ d < 62, base62.idxOf (base62.getD d '0') = d := by
  decide

theorem byte_lt {bytes : Bytes} {d : Nat} (among : d ∈ bytes.map UInt8.toNat) : d < 256 := by
  obtain ⟨b, _, rfl⟩ := List.mem_map.mp among
  exact b.toNat_lt

theorem encodeBase62_inj {bytes bytes' : Bytes} (same : encodeBase62 bytes = encodeBase62 bytes') :
    bytes = bytes' := by
  have read (bytes : Bytes) : (encodeBase62 bytes).map base62.idxOf =
      (Radix.recode 62 256 (bytes.map UInt8.toNat)).reverse := by
    rw [encodeBase62, List.map_map]
    refine (List.map_congr_left fun d among => ?_).trans (List.map_id _)
    exact idxOf_base62 d
      (Radix.recode_lt (by decide) (by decide) (List.mem_reverse.mp among))
  have digits : Radix.recode 62 256 (bytes.map UInt8.toNat) =
      Radix.recode 62 256 (bytes'.map UInt8.toNat) := by
    rw [← List.reverse_inj, ← read, ← read, same]
  exact List.map_injective_iff.mpr (fun _ _ => UInt8.toNat_inj.mp)
    (Radix.recode_inj (by decide) (by decide) (fun _ => byte_lt) (fun _ => byte_lt) digits)

theorem length_le_encodeBase62 (bytes : Bytes) : bytes.length ≤ (encodeBase62 bytes).length := by
  have longer : (bytes.map UInt8.toNat).length ≤ _ :=
    @Radix.length_le_recode 62 256 (by decide) (by decide) _ fun _ => byte_lt
  simpa [encodeBase62] using longer

theorem underscore_notMem (bytes : Bytes) : '_' ∉ encodeBase62 bytes := by
  intro among
  exact absurd (encodeBase62_mem among) (by decide)

theorem raw_toList (keyType : KeyType) (environment : Environment) (bytes : Bytes32) :
    (generate keyType environment bytes).raw.toList =
      (keyHead keyType environment).toList ++ '_' :: encodeBase62 bytes.toList := by
  simp [generate]

theorem raw_inj {keyType keyType' : KeyType} {environment environment' : Environment}
    {bytes bytes' : Bytes32}
    (same : (generate keyType environment bytes).raw =
      (generate keyType' environment' bytes').raw) :
    keyType = keyType' ∧ environment = environment' ∧ bytes = bytes' := by
  have texts := congrArg String.toList same
  rw [raw_toList, raw_toList] at texts
  have level : (keyHead keyType environment).toList.length =
      (keyHead keyType' environment').toList.length := by
    cases keyType <;> cases keyType' <;> cases environment <;> cases environment' <;> decide
  obtain ⟨heads, suffixes⟩ := List.append_inj texts level
  rw [List.cons.injEq] at suffixes
  have words := Vector.toList_inj.mp (encodeBase62_inj suffixes.2)
  cases keyType <;> cases keyType' <;> cases environment <;> cases environment' <;>
    first
    | exact ⟨rfl, rfl, words⟩
    | exact absurd heads (by decide)

theorem splitHeadSuffix_raw (keyType : KeyType) (environment : Environment) (bytes : Bytes32) :
    splitHeadSuffix (generate keyType environment bytes).raw =
      some (keyHead keyType environment, encodeBase62 bytes.toList) := by
  rw [splitHeadSuffix, raw_toList]
  cases keyType <;> cases environment <;> rfl

/-- An occurrence ends where its last symbol occurs. -/
theorem infix_append {α : Type} {needle left right : List α} {last : α} (absent : last ∉ right) :
    needle ++ [last] <:+: left ++ right ↔ needle ++ [last] <:+: left := by
  constructor
  · rintro ⟨before, after, split⟩
    rcases List.append_eq_append_iff.mp split with ⟨rest, rfl, _⟩ | ⟨rest, whole, tail⟩
    · exact ⟨before, rest, rfl⟩
    · rcases List.eq_nil_or_concat rest with rfl | ⟨rest, symbol, rfl⟩
      · exact ⟨before, [], by simpa using whole⟩
      · rw [List.concat_eq_append, ← List.append_assoc, ← List.append_assoc] at whole
        have same := (List.append_inj' whole rfl).2
        rw [List.cons.injEq] at same
        exact absurd (by simp [tail, same.1]) absent
  · rintro ⟨before, after, rfl⟩
    exact ⟨before, after ++ right, by simp⟩

theorem apiKeyTypeAndEnv_raw (keyType : KeyType) (environment : Environment) (bytes : Bytes32) :
    apiKeyTypeAndEnv (generate keyType environment bytes).raw = (keyType, environment) := by
  have pk : "owlid_pk_".toList <+: (generate keyType environment bytes).raw.toList ↔
      keyType = .pk := by
    rw [raw_toList]
    cases keyType <;> cases environment <;> simp [keyHead, KeyType.asStr, Environment.asStr]
  have live : "_live_".toList <:+: (generate keyType environment bytes).raw.toList ↔
      environment = .live := by
    have absent := underscore_notMem bytes.toList
    rw [raw_toList, ← List.singleton_append, ← List.append_assoc,
      show "_live_".toList = "_live".toList ++ ['_'] by decide, infix_append absent]
    cases keyType <;> cases environment <;> decide
  rw [apiKeyTypeAndEnv]
  simp only [pk, live]
  cases keyType <;> cases environment <;> rfl

/-- Every generated key is another text, which the startup code would read as what it is, and its
    preview shows six characters of the at least thirty-two random ones. -/
theorem generated_keys_distinct (keyType : KeyType) (environment : Environment)
    (bytes : Bytes32) :
    (∀ keyType' environment' bytes', (generate keyType environment bytes).raw =
        (generate keyType' environment' bytes').raw →
      keyType = keyType' ∧ environment = environment' ∧ bytes = bytes') ∧
    apiKeyTypeAndEnv (generate keyType environment bytes).raw = (keyType, environment) ∧
    ∃ suffix, 32 ≤ suffix.length ∧
      (generate keyType environment bytes).raw.toList =
        (keyHead keyType environment).toList ++ '_' :: suffix ∧
      (generate keyType environment bytes).preview.toList =
        (keyHead keyType environment).toList ++
          '_' :: (suffix.take 2 ++ '…' :: suffix.drop (suffix.length - 4)) := by
  refine ⟨fun _ _ _ => raw_inj, apiKeyTypeAndEnv_raw keyType environment bytes,
    encodeBase62 bytes.toList, ?_, raw_toList keyType environment bytes, ?_⟩
  · have longer := length_le_encodeBase62 bytes.toList
    rwa [Vector.length_toList] at longer
  · have longer : 4 ≤ (encodeBase62 bytes.toList).length := by
      have := length_le_encodeBase62 bytes.toList
      rw [Vector.length_toList] at this
      omega
    have two : min (encodeBase62 bytes.toList).length 2 = 2 := by omega
    have shown : (generate keyType environment bytes).preview =
        previewFor (generate keyType environment bytes).raw := rfl
    rw [shown, previewFor, splitHeadSuffix_raw]
    simp [longer, two]

/-! ## The table of keys -/

/-- A row of `api_keys`. -/
structure ApiKey where
  id : Nat
  keyHash : String
  name : String
  description : Option String
  permissions : Json
  isActive : Bool
  createdAt : Time
  lastUsedAt : Option Time
  expiresAt : Option Time
  createdBy : Option String
  keyType : KeyType
  environment : Environment
  keyPreview : String

def ApiKey.hasPermission (row : ApiKey) (permission : String) : Bool :=
  match row.permissions.asArray with
  | some permissions => permissions.any fun p => p.asStr == some permission
  | none => false

def ApiKey.expired (row : ApiKey) (now : Time) : Bool :=
  row.expiresAt.any fun expiresAt => decide (expiresAt < now)

def ApiKey.isValid (row : ApiKey) (now : Time) : Bool := row.isActive && !row.expired now

/-- `key_hash` is `UNIQUE`. -/
abbrev ApiKeyTable := Table ApiKey.keyHash

inductive KeyError where
  /-- A constraint of the table does not hold of the new row. -/
  | sqlx (constraint : String)
  | notFound (message : String)
  | unauthorized (message : String)

def hashKey (H : Hashes) (key : String) : String := hexEncode (H.sha256 (asBytes key)).toList

namespace ApiKeyTable

variable (H : Hashes) (keys : ApiKeyTable)

def create (row : ApiKey) : Except KeyError ApiKeyTable :=
  match keys.find row.keyHash with
  | some _ => .error (.sqlx "api_keys_key_hash_key")
  | none => .ok (keys.insert row)

def findByKey (now : Time) (key : String) : Except KeyError ApiKey := do
  let row ← okOr ((keys.find (hashKey H key)).filter ApiKey.isActive)
    (.notFound "API key not found")
  ensure (row.expired now = false) (.unauthorized "API key expired")
  return row

/-- An `UPDATE … SET is_active = false`. -/
def deactivateWhere (which : ApiKey → Bool) : ApiKeyTable where
  rows := keys.rows.map fun row => if which row then { row with isActive := false } else row
  unique := by
    have same : ApiKey.keyHash ∘ (fun row : ApiKey =>
        if which row then { row with isActive := false } else row) = ApiKey.keyHash := by
      funext row
      simp only [Function.comp]
      split <;> rfl
    rw [List.map_map, same]
    exact keys.unique

/-- The last statement of `delete_expired_records`. -/
def deactivateExpired (now : Time) : ApiKeyTable :=
  keys.deactivateWhere fun row => row.expired now && row.isActive

variable {H keys}

theorem create_eq_ok {row : ApiKey} {keys' : ApiKeyTable} :
    keys.create row = .ok keys' ↔ keys.find row.keyHash = none ∧ keys' = keys.insert row := by
  rw [create]
  cases keys.find row.keyHash <;> simp [eq_comm]

theorem findByKey_eq_ok {now : Time} {key : String} {row : ApiKey} :
    keys.findByKey H now key = .ok row ↔
      keys.find (hashKey H key) = some row ∧ row.isValid now = true := by
  simp only [findByKey, bind_eq_ok, okOr_eq_ok, ensure_eq_ok, pure_eq_ok, exists_const,
    Option.filter_eq_some_iff, ApiKey.isValid, Bool.and_eq_true, Bool.not_eq_true']
  constructor
  · rintro ⟨found, ⟨here, active⟩, live, rfl⟩
    exact ⟨here, active, live⟩
  · rintro ⟨here, active, live⟩
    exact ⟨row, ⟨here, active⟩, live, rfl⟩

theorem mem_deactivateWhere {which : ApiKey → Bool} {row : ApiKey} :
    row ∈ (keys.deactivateWhere which).rows ↔ ∃ old ∈ keys.rows,
      row = if which old then { old with isActive := false } else old := by
  simp only [deactivateWhere, List.mem_map]
  exact exists_congr fun old => and_congr_right fun _ => eq_comm

end ApiKeyTable

end OwlId.Verification
