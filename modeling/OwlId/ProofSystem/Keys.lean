import Mathlib
import OwlId.Lib.Encodings
import OwlId.Lib.Results
import OwlId.ProofSystem.Json

/-! # Keys, signatures and the libraries behind them

`Primitives` collects what the credential code takes from other crates: the JSON
codec, the two signature schemes and the key decoders.  Keys are the values the
`signature` module wraps around them, a public key being its algorithm and its
exported bytes.
-/

namespace OwlId.ProofSystem

open OwlId.Lib

inductive SignatureAlgorithm where
  | ed25519
  | ecdsaP256
deriving DecidableEq

structure Primitives where
  /-- `serde_json::to_vec`. -/
  toVec : Json → Bytes
  /-- `serde_json::from_slice`, with the text of its error. -/
  fromSlice : Bytes → Except String Json
  /-- The text of a base64 decoding error. -/
  base64Error : String → String
  /-- The text of a hex decoding error. -/
  hexError : String → String
  /-- `VerifyingKey::from_bytes` on 32 bytes. -/
  ed25519Decode : Bytes → Except String Unit
  /-- `from_sec1_bytes`, giving the uncompressed point. -/
  p256Decode : Bytes → Except String Bytes
  /-- Whether the bytes are a signature of the message under the key. -/
  verifies : SignatureAlgorithm → Bytes → Bytes → Bytes → Bool
  /-- The public key of a secret key. -/
  publicBytes : SignatureAlgorithm → Bytes → Bytes
  sign : SignatureAlgorithm → Bytes → Bytes → Bytes

/-! ## Errors -/

inductive SignatureError where
  | invalidSignature
  | invalidPublicKey (message : String)
deriving DecidableEq

def SignatureError.display : SignatureError → String
  | .invalidSignature => "Invalid signature"
  | .invalidPublicKey message => "Invalid public key: " ++ message

inductive ProofSystemError where
  | signatureError (e : SignatureError)
  | invalidProof (message : String)
  | serializationError (message : String)
deriving DecidableEq

def ProofSystemError.display : ProofSystemError → String
  | .signatureError e => "Signature error: " ++ e.display
  | .invalidProof message => "Invalid proof: " ++ message
  | .serializationError message => "Serialization error: " ++ message

/-! ## Keys -/

structure PublicKey where
  algorithm : SignatureAlgorithm
  bytes : Bytes
deriving DecidableEq

structure KeyPair where
  algorithm : SignatureAlgorithm
  secret : Bytes

structure Signature where
  algorithm : SignatureAlgorithm
  bytes : Bytes

variable (P : Primitives)

def KeyPair.sign (kp : KeyPair) (message : Bytes) : Signature :=
  ⟨kp.algorithm, P.sign kp.algorithm kp.secret message⟩

def KeyPair.publicKey (kp : KeyPair) : PublicKey :=
  ⟨kp.algorithm, P.publicBytes kp.algorithm kp.secret⟩

def PublicKey.fromBytesWithAlgorithm (bytes : Bytes) :
    SignatureAlgorithm → Except SignatureError PublicKey
  | .ed25519 => do
    ensure (bytes.length = 32) (.invalidPublicKey "Invalid Ed25519 key length")
    mapErr .invalidPublicKey (P.ed25519Decode bytes)
    return ⟨.ed25519, bytes⟩
  | .ecdsaP256 => do
    let point ← mapErr (fun e => .invalidPublicKey ("Invalid P-256 key: " ++ e))
      (P.p256Decode bytes)
    return ⟨.ecdsaP256, point⟩

def PublicKey.fromBytes (bytes : Bytes) : Except SignatureError PublicKey :=
  PublicKey.fromBytesWithAlgorithm P bytes .ed25519

/-- The algorithm is read off the length of the key. -/
def PublicKey.fromHex (hexStr : String) : Except SignatureError PublicKey := do
  let bytes ← okOr (hexDecode hexStr) (.invalidPublicKey ("Invalid hex: " ++ P.hexError hexStr))
  match bytes.length with
  | 32 => PublicKey.fromBytesWithAlgorithm P bytes .ed25519
  | 33 | 65 => PublicKey.fromBytesWithAlgorithm P bytes .ecdsaP256
  | n => .error (.invalidPublicKey ("Unrecognized public key length: " ++ toString n ++
      " bytes (expected 32 for Ed25519, or 33/65 for P-256 SEC1)"))

def PublicKey.fromHexWithAlgorithm (hexStr : String) (algorithm : SignatureAlgorithm) :
    Except SignatureError PublicKey := do
  let bytes ← okOr (hexDecode hexStr) (.invalidPublicKey ("Invalid hex: " ++ P.hexError hexStr))
  PublicKey.fromBytesWithAlgorithm P bytes algorithm

def PublicKey.toHex (pk : PublicKey) : String := hexEncode pk.bytes

/-- An Ed25519 key is any 32 bytes. -/
def KeyPair.fromBytes (bytes : Bytes) : Option KeyPair :=
  if bytes.length = 32 then some ⟨.ed25519, bytes⟩ else none

def PublicKey.verify (pk : PublicKey) (message : Bytes) (signature : Signature) :
    Except SignatureError Unit := do
  ensure (pk.algorithm = signature.algorithm) .invalidSignature
  ensure (P.verifies pk.algorithm pk.bytes message signature.bytes = true) .invalidSignature

variable {P}

theorem PublicKey.verify_eq_ok {pk : PublicKey} {message : Bytes} {signature : Signature}
    {u : Unit} : pk.verify P message signature = .ok u ↔
      pk.algorithm = signature.algorithm ∧
        P.verifies pk.algorithm pk.bytes message signature.bytes = true := by
  simp [PublicKey.verify]

end OwlId.ProofSystem
