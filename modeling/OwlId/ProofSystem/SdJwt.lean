import Mathlib
import OwlId.ProofSystem.Attestation
import OwlId.ProofSystem.Keys

/-! # SD-JWT verifiable credentials

Issuance, presentation, parsing and verification of selectively disclosable
credentials.  A credential is an issuer-signed JWT that commits to the digests of
its disclosures, framed with `~`; a presentation drops some disclosures and may
append a key-binding JWT, signed by the holder over the bytes before it.
-/

namespace OwlId.ProofSystem

open OwlId.Lib

abbrev Result := Except ProofSystemError

def jwtTyp : String := "dc+sd-jwt"
def jwtTypLegacy : String := "vc+sd-jwt"
def kbTyp : String := "kb+jwt"
def sdAlg : String := "sha-256"
def alg : String := "EdDSA"
def es256 : String := "ES256"

def err (message : String) : ProofSystemError := .invalidProof message

structure StatusRef where
  idx : Nat
  uri : String
deriving DecidableEq

section

variable (P : Primitives)

def decode64 (s : String) : Result Bytes :=
  okOr (unb64 s) (err ("base64url: " ++ P.base64Error s))

/-- `serde_json::from_slice`, its error lifted. -/
def parseJson (bytes : Bytes) : Result Json := mapErr .serializationError (P.fromSlice bytes)

/-! ## JSON Web Keys -/

def ed25519Only (algorithm : SignatureAlgorithm) (what : String) : Result Unit :=
  match algorithm with
  | .ed25519 => .ok ()
  | .ecdsaP256 => .error (err (what ++ " must be Ed25519 (alg EdDSA)"))

def publicKeyJwk (pk : PublicKey) : Result Json :=
  match pk.algorithm with
  | .ed25519 => .ok (.ofFields
      [("kty", .string "OKP"), ("crv", .string "Ed25519"), ("x", .string (b64 pk.bytes))])
  | .ecdsaP256 =>
    let p := pk.bytes
    if p.length ≠ 65 ∨ p.headD 0 ≠ 0x04 then .error (err "P-256 key not SEC1 uncompressed")
    else .ok (.ofFields
      [("kty", .string "EC"), ("crv", .string "P-256"),
       ("x", .string (b64 ((p.drop 1).take 32))), ("y", .string (b64 ((p.drop 33).take 32)))])

def jwkToPubkey (jwk : Json) : Result PublicKey :=
  match jwk.getStr "kty", jwk.getStr "crv" with
  | some "OKP", some "Ed25519" => do
    let x ← okOr (jwk.getStr "x") (err "cnf jwk missing x")
    mapErr .signatureError (PublicKey.fromBytes P (← decode64 P x))
  | some "EC", some "P-256" => do
    let x ← okOr (jwk.getStr "x") (err "cnf jwk missing x")
    let y ← okOr (jwk.getStr "y") (err "cnf jwk missing y")
    let xBytes ← decode64 P x
    let yBytes ← decode64 P y
    mapErr .signatureError
      (PublicKey.fromBytesWithAlgorithm P (0x04 :: xBytes ++ yBytes) .ecdsaP256)
  | _, _ => .error (err "cnf jwk must be OKP/Ed25519 or EC/P-256")

/-! ## Signed tokens -/

def signingInput (header payload : String) : String := header ++ "." ++ payload

def jwsSign (header payload : Json) (kp : KeyPair) : Result String := do
  ed25519Only kp.algorithm "issuer/holder key"
  let input := signingInput (b64 (P.toVec header)) (b64 (P.toVec payload))
  let sig := kp.sign P (asBytes input)
  return input ++ "." ++ b64 sig.bytes

def joseAlg : SignatureAlgorithm → String
  | .ed25519 => alg
  | .ecdsaP256 => es256

def jwsVerifyWith (token : String) (pk : PublicKey) : Result (Json × Json) :=
  match splitChar '.' token with
  | [head, body, sig] => do
    let header ← parseJson P (← decode64 P head)
    let wantAlg := joseAlg pk.algorithm
    ensure (header.getStr "alg" = some wantAlg)
      (err ("JWS alg must be " ++ wantAlg ++ " for this key"))
    let signature : Signature := ⟨pk.algorithm, ← decode64 P sig⟩
    mapErr .signatureError (pk.verify P (asBytes (signingInput head body)) signature)
    let payload ← parseJson P (← decode64 P body)
    return (header, payload)
  | _ => .error (err "JWS must have 3 parts")

def jwsVerify (token : String) (pk : PublicKey) : Result (Json × Json) := do
  ed25519Only pk.algorithm "verification key"
  jwsVerifyWith P token pk

/-! ## Disclosures -/

def disclosureArray (salt name : String) (value : Json) : Json :=
  .array [.string salt, .string name, value]

def encodeDisclosure (salt name : String) (value : Json) : String :=
  b64 (P.toVec (disclosureArray salt name value))

/-- `(claim name, disclosure)`. -/
abbrev Disclosure := String × String

structure SdJwtVc where
  jwt : String
  disclosures : List Disclosure
deriving DecidableEq

end

section

variable (P : Primitives) (H : Hashes)

/-- The digest is over the encoded text. -/
def digest (disclosure : String) : String := b64 (H.sha256 (asBytes disclosure)).toList

/-! ## Issuance -/

/-- `BTreeMap<String, Value>`: names in order, each once. -/
structure ClaimMap where
  fields : List (String × Json)
  sorted : Json.SortedFields fields

structure IssueParams where
  issuer : KeyPair
  iss : String
  vct : String
  holder : PublicKey
  iat : Option Int
  exp : Option Int
  status : Option StatusRef

/-- One entry a claim, each with a fresh salt: `salts` is what the generator returned. -/
def issueEntries (claims : ClaimMap) (salts : String → String) : List ClaimEntry :=
  claims.fields.map fun claim => ⟨claim.1, salts claim.1, claim.2⟩

def entryDisclosure (entry : ClaimEntry) : Disclosure :=
  (entry.name, encodeDisclosure P entry.salt entry.name entry.value)

def statusJson (status : StatusRef) : Json :=
  .ofFields [("status_list", .ofFields
    [("idx", .number (.posInt status.idx)), ("uri", .string status.uri)])]

/-- The optional fields are inserted after the mandatory ones, in this order. -/
def issuePayload (p : IssueParams) (jwk : Json) (sd : List String) (owlRoot : Bytes32) : Json :=
  .ofFields
    ([("iss", Json.string p.iss), ("vct", Json.string p.vct), ("cnf", Json.ofFields [("jwk", jwk)]),
      ("_sd", Json.array (sd.map Json.string)), ("_sd_alg", Json.string sdAlg),
      ("owl_root", Json.string (hexEncode owlRoot.toList))] ++
     (p.iat.map fun iat => ("iat", Json.ofInt iat)).toList ++
     (p.exp.map fun exp => ("exp", Json.ofInt exp)).toList ++
     (p.status.map fun s => ("status", statusJson s)).toList)

def issuerHeader : Json := .ofFields [("typ", .string jwtTyp), ("alg", .string alg)]

/-- The root's assertion on the number of commitments would abort issuance. -/
def issue (claims : ClaimMap) (salts : String → String) (p : IssueParams) : Result SdJwtVc := do
  let entries := issueEntries claims salts
  let disclosures := entries.map (entryDisclosure P)
  let sd := (disclosures.map fun d => digest H d.2).insertionSort (· ≤ ·)
  let owlRoot ← okOr (owlRootForClaims H entries) (err "too many claim commitments")
  let jwk ← publicKeyJwk p.holder
  let jwt ← jwsSign P issuerHeader (issuePayload p jwk sd owlRoot) p.issuer
  return ⟨jwt, disclosures⟩

/-! ## Framing -/

/-- `JWT~D1~…~Dn~`. -/
def SdJwtVc.serialize (vc : SdJwtVc) : String :=
  joinSegments '~' (vc.jwt :: vc.disclosures.map Prod.snd) ""

def parseDisclosure (d : String) : Result Disclosure := do
  let arr ← parseJson P (← decode64 P d)
  let name ← okOr ((arr.getIdx 1).bind Json.asStr) (err "disclosure missing claim name")
  return (name, d)

/-- Empty segments between the JWT and the last segment are skipped. -/
def parse (s : String) : Result (SdJwtVc × Option String) :=
  match splitChar '~' s with
  | jwt :: second :: rest => do
    let last := (second :: rest).getLast (by simp)
    let kb := if last = "" then none else some last
    let middle := (second :: rest).dropLast
    let disclosures ← (middle.filter (· ≠ "")).mapM (parseDisclosure P)
    return (⟨jwt, disclosures⟩, kb)
  | _ => .error (err "not an SD-JWT (no ~)")

/-! ## Presentation -/

structure KbParams where
  holder : KeyPair
  aud : String
  nonce : String
  iat : Int

def kbHeader : Json := .ofFields [("typ", .string kbTyp), ("alg", .string alg)]

def kbPayload (kb : KbParams) (sdHash : String) : Json :=
  .ofFields [("iat", .ofInt kb.iat), ("aud", .string kb.aud), ("nonce", .string kb.nonce),
    ("sd_hash", .string sdHash)]

def findDisclosure (vc : SdJwtVc) (name : String) : Result String := do
  let d ← okOr (vc.disclosures.find? fun d => d.1 = name)
    (err ("no disclosure for '" ++ name ++ "'"))
  return d.2

def present (vc : SdJwtVc) (disclose : List String) (kb : Option KbParams) : Result String := do
  let ds ← disclose.mapM (findDisclosure vc)
  let s := joinSegments '~' (vc.jwt :: ds) ""
  match kb with
  | none => return s
  | some kb =>
    let sdHash := b64 (H.sha256 (asBytes s)).toList
    let token ← jwsSign P kbHeader (kbPayload kb sdHash) kb.holder
    return s ++ token

/-! ## Identifiers read without verification -/

/-- The text before the first `~`. -/
def issuerJwt (sdJwt : String) : String := (splitChar '~' sdJwt).headD sdJwt

def credentialId (sdJwt : String) : String := b64 (H.sha256 (asBytes (issuerJwt sdJwt))).toList

def isAsciiHexdigit (c : Char) : Bool := (hexVal c).isSome

def credentialIdHex (cid : String) : Result String :=
  if (asBytes cid).length = 64 ∧ cid.toList.all isAsciiHexdigit then .ok (toAsciiLowercase cid)
  else do
    let bytes ← decode64 P cid
    ensure (bytes.length = 32) (err ("credential id must be 32 bytes, got " ++ toString bytes.length))
    return hexEncode bytes

/-- The payload of a JWT, unverified. -/
def peekPayload (jwt : String) : Option Json :=
  match splitChar '.' jwt with
  | [_, body, _] => (unb64 body).bind fun bytes => (P.fromSlice bytes).toOption
  | _ => none

def owlRootHex (sdJwt : String) : Option String :=
  (peekPayload P (issuerJwt sdJwt)).bind fun payload => payload.getStr "owl_root"

def peekIss (sdJwt : String) : Result String :=
  match splitChar '.' (issuerJwt sdJwt) with
  | [_, body, _] => do
    let payload ← parseJson P (← decode64 P body)
    okOr (payload.getStr "iss") (err "iss missing")
  | _ => .error (err "issuer JWT must have 3 parts")

/-! ## Verification -/

structure Verified where
  iss : String
  vct : String
  claims : List (String × Json)
  cnfJwk : Json
  status : Option StatusRef
  keyBound : Bool
  owlRoot : Option String

structure VerifyParams where
  requireKb : Bool
  aud : Option String
  nonce : Option String

/-- One round of the disclosure loop, over the claims and the digests seen so far. -/
def verifyDisclosure (sdSet : List String) (acc : List (String × Json) × List String)
    (disclosure : Disclosure) : Result (List (String × Json) × List String) := do
  let dig := digest H disclosure.2
  ensure (dig ∈ sdSet) (err "disclosure digest not in _sd")
  ensure (dig ∉ acc.2) (err "duplicate disclosure")
  let arr ← parseJson P (← decode64 P disclosure.2)
  let name ← okOr ((arr.getIdx 1).bind Json.asStr) (err "disclosure missing name")
  let value ← okOr (arr.getIdx 2) (err "disclosure missing value")
  return (Json.insertField name value acc.1, dig :: acc.2)

/-- The strings of the signed `_sd` array. -/
def sdDigests (payload : Json) : Option (List String) :=
  ((payload.get "_sd").bind Json.asArray).map fun items => items.filterMap Json.asStr

def cnfJwk (payload : Json) : Option Json := (payload.get "cnf").bind fun cnf => cnf.get "jwk"

def statusRef (payload : Json) : Option StatusRef := do
  let status ← payload.get "status"
  let s ← status.get "status_list"
  let idx ← (← s.get "idx").asU64
  let uri ← s.getStr "uri"
  return ⟨idx, uri⟩

/-- A requested `aud` or `nonce` must be the token's; nothing is asked otherwise. -/
def checkRequested (want : Option String) (payload : Json) (field message : String) :
    Result Unit :=
  match want with
  | some text => ensure (payload.getStr field = some text) (err message)
  | none => .ok ()

def verifyKeyBinding (presentation kb : String) (jwk : Json) (vp : VerifyParams) :
    Result Unit := do
  let holder ← jwkToPubkey P jwk
  let (kbh, kbp) ← jwsVerifyWith P kb holder
  ensure (kbh.getStr "typ" = some kbTyp) (err "KB-JWT typ must be kb+jwt")
  checkRequested vp.aud kbp "aud" "KB-JWT aud mismatch"
  checkRequested vp.nonce kbp "nonce" "KB-JWT nonce mismatch"
  let pre := cutTail presentation kb
  ensure (kbp.getStr "sd_hash" = some (b64 (H.sha256 (asBytes pre)).toList))
    (err "KB-JWT sd_hash mismatch")

/-- Whether the presentation is key-bound. -/
def verifyKb (presentation : String) (kb : Option String) (jwk : Json) (vp : VerifyParams) :
    Result Bool :=
  match kb with
  | some kb => do
    verifyKeyBinding P H presentation kb jwk vp
    return true
  | none => do
    ensure (vp.requireKb = false) (err "Key Binding required but absent")
    return false

def verify (presentation : String) (issuer : PublicKey) (vp : VerifyParams) :
    Result Verified := do
  let (sd, kb) ← parse P presentation
  let (header, payload) ← jwsVerify P sd.jwt issuer
  ensure (header.getStr "typ" = some jwtTyp ∨ header.getStr "typ" = some jwtTypLegacy)
    (err "issuer JWT typ must be dc+sd-jwt")
  ensure (payload.getStr "_sd_alg" = some sdAlg) (err "_sd_alg must be sha-256")
  let sdSet ← okOr (sdDigests payload) (err "_sd missing")
  let (claims, _) ← sd.disclosures.foldlM (verifyDisclosure P H sdSet) ([], [])
  let iss ← okOr (payload.getStr "iss") (err "iss missing")
  let vct ← okOr (payload.getStr "vct") (err "vct missing")
  let jwk ← okOr (cnfJwk payload) (err "cnf.jwk missing")
  let status := statusRef payload
  let keyBound ← verifyKb P H presentation kb jwk vp
  return ⟨iss, vct, claims, jwk, status, keyBound, payload.getStr "owl_root"⟩

end

end OwlId.ProofSystem
