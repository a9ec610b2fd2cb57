import Mathlib
import OwlId.ProofSystem.SdJwtRoundTrip

/-! # Credential data at rest

With a key configured a credential is stored as an envelope: a marker, a ciphertext and a
nonce.  Without one it is stored as it is, so a credential that carries the marker of itself
is taken for an envelope; and the nonce of an envelope reaches the cipher at whatever length
it has.  `decryptData_exact` says when a value comes back and when reading aborts.
-/

namespace OwlId.Verification

open OwlId.Lib OwlId.ProofSystem

/-! ## The cipher -/

/-- AES-256-GCM. -/
structure Aead where
  seals : Bytes32 → Bytes → Bytes → Except String Bytes
  opens : Bytes32 → Bytes → Bytes → Except String Bytes

structure AeadLaws (aead : Aead) : Prop where
  total : ∀ key nonce plaintext, nonce.length = 12 →
    ∃ ciphertext, aead.seals key nonce plaintext = .ok ciphertext
  inverse : ∀ key nonce plaintext ciphertext,
    aead.seals key nonce plaintext = .ok ciphertext →
      aead.opens key nonce ciphertext = .ok plaintext

inductive EncryptionError where
  | encryptionFailed (message : String)
  | decryptionFailed (message : String)
  | invalidNonce (message : String)

def EncryptionError.display : EncryptionError → String
  | .encryptionFailed message => "Encryption failed: " ++ message
  | .decryptionFailed message => "Decryption failed: " ++ message
  | .invalidNonce message => "Invalid nonce: " ++ message

section

variable (P : Primitives) (aead : Aead)

/-- The ciphertext and the nonce, as hex. -/
def encrypt (nonce : Vector UInt8 12) (plaintext : Bytes) (key : Bytes32) :
    Except EncryptionError (String × String) := do
  let ciphertext ← mapErr .encryptionFailed (aead.seals key nonce.toList plaintext)
  return (hexEncode ciphertext, hexEncode nonce.toList)

/-- `Nonce::from_slice` panics, here `none`, on a slice that is not twelve bytes. -/
def decrypt (ciphertextHex nonceHex : String) (key : Bytes32) :
    Option (Except EncryptionError Bytes) :=
  match hexDecode ciphertextHex with
  | none => some (.error (.decryptionFailed
      ("Invalid ciphertext hex: " ++ P.hexError ciphertextHex)))
  | some ciphertext =>
    match hexDecode nonceHex with
    | none => some (.error (.invalidNonce ("Invalid nonce hex: " ++ P.hexError nonceHex)))
    | some nonceBytes =>
      if nonceBytes.length = 12 then
        some (mapErr .decryptionFailed (aead.opens key nonceBytes ciphertext))
      else none

/-! ## The repository -/

inductive DatabaseError where
  | invalidData (message : String)

structure CredentialRepository where
  encryptionKey : Option Bytes32

variable (repository : CredentialRepository)

def encryptData (nonce : Vector UInt8 12) (data : Json) : Except DatabaseError Json :=
  match repository.encryptionKey with
  | some key => do
    let (ciphertext, nonce) ← mapErr
      (fun e => .invalidData ("Encryption failed: " ++ e.display))
      (encrypt aead nonce (P.toVec data) key)
    return .ofFields [("encrypted", .bool true), ("ciphertext", .string ciphertext),
      ("nonce", .string nonce)]
  | none => .ok data

/-- `data.get("encrypted") == Some(&json!(true))`. -/
def isEnvelope (data : Json) : Bool :=
  match data.get "encrypted" with
  | some (.bool true) => true
  | _ => false

def decryptData (data : Json) : Option (Except DatabaseError Json) :=
  if isEnvelope data then
    match repository.encryptionKey with
    | none => some (.error (.invalidData
        "Credential data is encrypted but no ENCRYPTION_KEY configured"))
    | some key =>
      match data.getStr "ciphertext" with
      | none => some (.error (.invalidData "Missing ciphertext"))
      | some ciphertext =>
        match data.getStr "nonce" with
        | none => some (.error (.invalidData "Missing nonce"))
        | some nonce =>
          (decrypt P aead ciphertext nonce key).map fun opened => do
            let plaintext ← mapErr
              (fun e => .invalidData ("Decryption failed: " ++ e.display)) opened
            mapErr (fun e => .invalidData ("JSON parse after decrypt failed: " ++ e))
              (P.fromSlice plaintext)
  else some (.ok data)

/-! ## What comes back -/

/-- The nonce of an envelope is hex of another length than the cipher's. -/
def NonceMisfits (data : Json) : Prop :=
  ∃ ciphertext nonce ciphertextBytes nonceBytes,
    data.getStr "ciphertext" = some ciphertext ∧ data.getStr "nonce" = some nonce ∧
    hexDecode ciphertext = some ciphertextBytes ∧ hexDecode nonce = some nonceBytes ∧
    nonceBytes.length ≠ 12

end

section

variable {P : Primitives} {aead : Aead} {repository : CredentialRepository}

theorem decrypt_encrypt (laws : AeadLaws aead) (nonce : Vector UInt8 12) (plaintext : Bytes)
    (key : Bytes32) :
    ∃ ciphertext, encrypt aead nonce plaintext key = .ok (ciphertext, hexEncode nonce.toList) ∧
      decrypt P aead ciphertext (hexEncode nonce.toList) key = some (.ok plaintext) := by
  have length : nonce.toList.length = 12 := by simp
  obtain ⟨ciphertext, sealed⟩ := laws.total key nonce.toList plaintext length
  have opened := laws.inverse key nonce.toList plaintext ciphertext sealed
  refine ⟨hexEncode ciphertext, ?_, ?_⟩
  · rw [encrypt, sealed]
    rfl
  · simp only [decrypt, hexDecode_hexEncode, length, if_true, opened]
    rfl

theorem decrypt_eq_none_iff (ciphertextHex nonceHex : String) (key : Bytes32) :
    decrypt P aead ciphertextHex nonceHex key = none ↔
      ∃ ciphertext nonceBytes, hexDecode ciphertextHex = some ciphertext ∧
        hexDecode nonceHex = some nonceBytes ∧ nonceBytes.length ≠ 12 := by
  rw [decrypt]
  cases hexDecode ciphertextHex with
  | none => simp
  | some ciphertext =>
    cases hexDecode nonceHex with
    | none => simp
    | some nonceBytes =>
      by_cases fits : nonceBytes.length = 12
      · simp [fits]
      · simp [fits]

theorem decryptData_plain {data : Json} (plain : isEnvelope data = false) :
    decryptData P aead repository data = some (.ok data) := by
  simp [decryptData, plain]

/-- An envelope made here is opened here. -/
theorem decryptData_encryptData (laws : AeadLaws aead) {key : Bytes32}
    (configured : repository.encryptionKey = some key) (nonce : Vector UInt8 12) {data : Json}
    (json : RoundTrips P data) :
    ∃ stored, encryptData P aead repository nonce data = .ok stored ∧
      decryptData P aead repository stored = some (.ok data) := by
  obtain ⟨ciphertext, sealed, opened⟩ := decrypt_encrypt (P := P) laws nonce (P.toVec data) key
  let envelope := Json.ofFields [("encrypted", .bool true), ("ciphertext", .string ciphertext),
    ("nonce", .string (hexEncode nonce.toList))]
  have marked : isEnvelope envelope = true := by
    simp [isEnvelope, envelope, Json.get_ofFields, List.lookup]
  have ciphertextField : envelope.getStr "ciphertext" = some ciphertext := by
    simp [envelope, Json.getStr, Json.get_ofFields, List.lookup, Json.asStr]
  have nonceField : envelope.getStr "nonce" = some (hexEncode nonce.toList) := by
    simp [envelope, Json.getStr, Json.get_ofFields, Json.asStr]
  refine ⟨envelope, ?_, ?_⟩
  · simp only [encryptData, configured, sealed]
    rfl
  · simp only [decryptData, marked, if_true, configured, ciphertextField, nonceField, opened,
      Option.map_some]
    show some (mapErr _ (P.fromSlice (P.toVec data))) = some (.ok data)
    rw [json.read]
    rfl

theorem decryptData_eq_none_iff (data : Json) :
    decryptData P aead repository data = none ↔
      repository.encryptionKey ≠ none ∧ isEnvelope data = true ∧ NonceMisfits data := by
  by_cases marked : isEnvelope data = true
  · simp only [decryptData, marked, if_true, true_and]
    cases repository.encryptionKey with
    | none => simp
    | some key =>
      cases ciphertextField : data.getStr "ciphertext" with
      | none => simp [NonceMisfits, ciphertextField]
      | some ciphertext =>
        cases nonceField : data.getStr "nonce" with
        | none => simp [NonceMisfits, nonceField]
        | some nonce =>
          rw [Option.map_eq_none_iff, decrypt_eq_none_iff]
          simp [NonceMisfits, ciphertextField, nonceField]
  · rw [decryptData_plain (Bool.eq_false_of_not_eq_true marked)]
    simp [marked]

/-- A value comes back unless it is stored bare with the marker on it; reading aborts on the
    envelopes whose nonce the cipher cannot take. -/
theorem decryptData_exact (P : Primitives) (aead : Aead) (laws : AeadLaws aead)
    (repository : CredentialRepository) :
    (∀ nonce data, RoundTrips P data →
      ((∃ stored, encryptData P aead repository nonce data = .ok stored ∧
          decryptData P aead repository stored = some (.ok data)) ↔
        repository.encryptionKey ≠ none ∨ isEnvelope data = false)) ∧
    (∀ data, decryptData P aead repository data ≠ none ↔
      ¬(repository.encryptionKey ≠ none ∧ isEnvelope data = true ∧ NonceMisfits data)) := by
  constructor
  · intro nonce data json
    cases configured : repository.encryptionKey with
    | some key =>
      have back := decryptData_encryptData laws configured nonce json
      simp [back]
    | none =>
      have bare : encryptData P aead repository nonce data = .ok data := by
        simp [encryptData, configured]
      by_cases marked : isEnvelope data = true
      · -- the marker sends a bare value to the branch that wants a key
        have refused : ∃ e, decryptData P aead repository data = some (.error e) := by
          simp [decryptData, marked, configured]
        obtain ⟨e, refused⟩ := refused
        simp [bare, refused, marked]
      · have plain := Bool.eq_false_of_not_eq_true marked
        simp [bare, decryptData_plain plain, plain]
  · intro data
    exact not_congr (decryptData_eq_none_iff data)

end

/-! ### A bare value with the marker, and an envelope with no nonce -/

/-- The ciphertext is the plaintext after the key and the nonce. -/
def sampleAead : Aead where
  seals key nonce plaintext := .ok (key.toList ++ nonce ++ plaintext)
  opens key nonce ciphertext :=
    if (key.toList ++ nonce).isPrefixOf ciphertext then
      .ok (ciphertext.drop (key.toList ++ nonce).length)
    else .error "aead::Error"

theorem sampleAead_laws : AeadLaws sampleAead where
  total _ _ _ _ := ⟨_, rfl⟩
  inverse key nonce plaintext ciphertext sealed := by
    cases sealed
    have front : (key.toList ++ nonce).isPrefixOf (key.toList ++ nonce ++ plaintext) = true :=
      List.isPrefixOf_iff_prefix.mpr (List.prefix_append _ _)
    show (if _ then _ else _) = _
    rw [if_pos front, List.drop_left]

def sampleMarked : Json := .ofFields [("encrypted", .bool true)]

def sampleCredentialData : Json := .ofFields [("email", .string "a@b.c")]

def sampleTornEnvelope : Json :=
  .ofFields [("encrypted", .bool true), ("ciphertext", .string ""), ("nonce", .string "00")]

def sampleKeyed : CredentialRepository := ⟨some (Vector.replicate 32 7)⟩

theorem decryptData_exact_at_sample :
    (∃ stored, encryptData (samplePrimitives [sampleCredentialData]) sampleAead sampleKeyed
        (Vector.replicate 12 1) sampleCredentialData = .ok stored ∧
      decryptData (samplePrimitives [sampleCredentialData]) sampleAead sampleKeyed stored =
        some (.ok sampleCredentialData)) ∧
    decryptData (samplePrimitives [sampleCredentialData]) sampleAead sampleKeyed sampleMarked ≠
      none :=
  have holds := decryptData_exact (samplePrimitives [sampleCredentialData]) sampleAead
    sampleAead_laws sampleKeyed
  ⟨(holds.1 _ _ (samplePrimitives_roundTrips (by decide) (by decide)
      (List.mem_singleton_self _))).mpr (.inl nofun),
    (holds.2 sampleMarked).mpr fun ⟨_, _, _, _, _, _, missing, _⟩ => nomatch missing⟩

/-- A bare value that is not read back, and a stored one that aborts. -/
theorem marked_value_lost :
    encryptData (samplePrimitives []) sampleAead ⟨none⟩ (Vector.replicate 12 1) sampleMarked =
      .ok sampleMarked ∧
    decryptData (samplePrimitives []) sampleAead ⟨none⟩ sampleMarked =
      some (.error (.invalidData
        "Credential data is encrypted but no ENCRYPTION_KEY configured")) ∧
    decryptData (samplePrimitives []) sampleAead sampleKeyed sampleTornEnvelope = none := by
  exact ⟨rfl, rfl, rfl⟩

end OwlId.Verification
