import Mathlib
import OwlId.Sdk.Orchestrator
import OwlId.Sdk.OwlRootParity
import OwlId.Sdk.RecoveryFile

/-! # SD-JWT credentials in the SDK

The wallet's own reader, presenter and verifier of credentials, written to match the issuer's
library byte for byte.  The two implementations meet in three places: the wallet reads what the
issuer framed, the service verifies what the wallet presents, and the wallet's verifier takes
what the service's does, except in the cases it does not implement.
-/

namespace OwlId.Sdk.SdJwt

open OwlId.Lib OwlId.ProofSystem

/-! ## The host -/

/-- The host's JSON functions with the text coding around them, and the Ed25519 package. -/
structure JsLibs where
  /-- `JSON.stringify` of an object with these properties, in this order. -/
  stringify : List (String × Json) → Bytes
  /-- `JSON.parse` of the decoded bytes; a number is rounded where it is read. -/
  parse : Bytes → Except String Json
  getPublicKey : Bytes → Bytes
  /-- The message comes before the seed. -/
  sign : Bytes → Bytes → Except String Bytes
  /-- The signature comes before the message and the key. -/
  verify : Bytes → Bytes → Bytes → Except String Bool

def hexDecode (hex : String) : Except String Bytes := do
  ensure (utf16Length hex % 2 = 0) "odd-length hex"
  return hexToBytes hex

def b64urlEncode (bytes : Bytes) : String := bufferToBase64url bytes

/-- The text is padded to whole groups before it is decoded. -/
def b64urlDecode (s : String) : Except String Bytes :=
  let pad := if utf16Length s % 4 = 0 then 0 else 4 - utf16Length s % 4
  okOr (atob (s.toList.map toStandard ++ List.replicate pad '='))
    "The string to be decoded is not correctly encoded."

/-! ## Keys -/

/-- A holder key; the constructor refuses a seed of another length. -/
structure KeyPair where
  seed : Bytes32

def KeyPair.fromHex (privateKeyHex : String) : Except String KeyPair := do
  let seed ← okOr (tryInto32 (← hexDecode privateKeyHex)) "Ed25519 seed must be 32 bytes"
  return ⟨seed⟩

def KeyPair.toHex (kp : KeyPair) : String := hexEncode kp.seed.toList

section

variable (L : JsLibs)

def KeyPair.publicKeyHex (kp : KeyPair) : String := hexEncode (L.getPublicKey kp.seed.toList)

/-! ## Tokens -/

def jwsSignEd25519 (header payload : List (String × Json)) (privSeedHex : String) :
    Except String String := do
  let input := signingInput (b64urlEncode (L.stringify header)) (b64urlEncode (L.stringify payload))
  let sig ← L.sign (asBytes input) (← hexDecode privSeedHex)
  return input ++ "." ++ b64urlEncode sig

/-- The algorithm the header names is not looked at. -/
def jwsVerifyEd25519 (token pubKeyHex : String) : Except String (Json × Json) :=
  match splitChar '.' token with
  | [head, body, sig] => do
    let ok ← L.verify (← b64urlDecode sig) (asBytes (signingInput head body))
      (← hexDecode pubKeyHex)
    ensure (ok = true) "JWS signature invalid"
    let header ← L.parse (← b64urlDecode head)
    let payload ← L.parse (← b64urlDecode body)
    return (header, payload)
  | _ => .error "JWS must have 3 parts"

/-! ## Credentials -/

/-- The issuer's token, and each disclosure with the claim it names. -/
structure SdJwtVc where
  jwt : String
  disclosures : List (String × String)

namespace SdJwtVc

def parseDisclosure (d : String) : Except String (String × String) := do
  let arr ← L.parse (← b64urlDecode d)
  let name ← okOr ((arr.getIdx 1).bind Json.asStr) "disclosure missing claim name"
  return (name, d)

/-- The last segment is not looked at, whatever it holds. -/
def parse (sdJwt : String) : Except String SdJwtVc :=
  match splitChar '~' sdJwt with
  | jwt :: second :: rest => do
    let middle := (second :: rest).dropLast
    let disclosures ← (middle.filter (· ≠ "")).mapM (parseDisclosure L)
    return ⟨jwt, disclosures⟩
  | _ => .error "not an SD-JWT (no ~)"

def serialize (vc : SdJwtVc) : String :=
  joinSegments '~' (vc.jwt :: vc.disclosures.map Prod.snd) ""

def credentialId (H : Hashes) (vc : SdJwtVc) : String :=
  b64urlEncode (H.sha256 (asBytes vc.jwt)).toList

def credentialIdHex (H : Hashes) (vc : SdJwtVc) : String :=
  hexEncode (H.sha256 (asBytes vc.jwt)).toList

def disclosedClaimNames (vc : SdJwtVc) : List String := vc.disclosures.map Prod.fst

/-- `none` where the claim is not disclosed, or is disclosed without a value. -/
def disclosedClaim (vc : SdJwtVc) (name : String) : Except String (Option Json) :=
  match vc.disclosures.find? fun d => d.1 = name with
  | none => .ok none
  | some d => do
    let arr ← L.parse (← b64urlDecode d.2)
    return arr.getIdx 2

/-- The payload of the issuer's token, unverified. -/
def payload (body : String) : Except String Json := do
  L.parse (← b64urlDecode body)

def owlRootHex (vc : SdJwtVc) : Except String (Option String) :=
  match splitChar '.' vc.jwt with
  | [_, body, _] => do
    match ← payload L body with
    | .null => .error "Cannot read properties of null (reading 'owl_root')"
    | payload => return payload.getStr "owl_root"
  | _ => .ok none

def peekIssuer (vc : SdJwtVc) : Except String String :=
  match splitChar '.' vc.jwt with
  | [_, body, _] => do
    match ← payload L body with
    | .null => .error "Cannot read properties of null (reading 'iss')"
    | payload => okOr (payload.getStr "iss") "iss missing"
  | _ => .error "issuer JWT must have 3 parts"

/-- A disclosure whose salt is not a string is left out.  A missing value is `undefined`, which
    the tree of commitments reads as it reads `null`. -/
def rawDisclosure (d : String × String) : Except String (Option ClaimEntry) := do
  let arr ← L.parse (← b64urlDecode d.2)
  return ((arr.getIdx 0).bind Json.asStr).map fun salt =>
    ⟨d.1, salt, (arr.getIdx 2).getD .null⟩

def disclosuresRaw (vc : SdJwtVc) : Except String (List ClaimEntry) := do
  return (← vc.disclosures.mapM (rawDisclosure L)).filterMap id

end SdJwtVc

/-! ## Presentation -/

structure KbInput where
  holderPrivateKeyHex : String
  aud : String
  nonce : String
  iat : Int

def kbHeader : List (String × Json) := [("typ", .string kbTyp), ("alg", .string "EdDSA")]

def kbPayload (kb : KbInput) (sdHash : String) : List (String × Json) :=
  [("iat", .ofInt kb.iat), ("aud", .string kb.aud), ("nonce", .string kb.nonce),
    ("sd_hash", .string sdHash)]

section

variable (H : Hashes)

def digest (d : String) : String := b64urlEncode (H.sha256 (asBytes d)).toList

def findDisclosure (vc : SdJwtVc) (name : String) : Except String String := do
  let entry ← okOr (vc.disclosures.find? fun d => d.1 = name) ("no disclosure for '" ++ name ++ "'")
  return entry.2

def SdJwtVc.present (vc : SdJwtVc) (disclose : List String) (kb : Option KbInput) :
    Except String String := do
  let ds ← disclose.mapM (findDisclosure vc)
  let s := joinSegments '~' (vc.jwt :: ds) ""
  match kb with
  | none => return s
  | some kb =>
    let token ← jwsSignEd25519 L kbHeader (kbPayload kb (digest H s)) kb.holderPrivateKeyHex
    return s ++ token

structure Binding where
  aud : String
  nonce : String
  iat : Option Int

/-- `now` is the clock in whole seconds. -/
def Binding.kbInput (binding : Binding) (holderKeyHex : String) (now : Int) : KbInput where
  holderPrivateKeyHex := holderKeyHex
  aud := binding.aud
  nonce := binding.nonce
  iat := binding.iat.getD now

def presentSdJwtVc (now : Int) (sdJwtVc holderKeyHex : String) (disclose : List String)
    (binding : Binding) : Except String String := do
  let vc ← SdJwtVc.parse L sdJwtVc
  vc.present L H disclose (some (binding.kbInput holderKeyHex now))

/-! ## Verification -/

/-- `claims` are the properties of the object whose text is returned. -/
structure VerificationResult where
  valid : Bool
  claims : Option (List (String × Json)) := none
  issuer : Option String := none
  credentialType : Option String := none
  keyBound : Bool
  error : Option String := none

/-- A property keeps the place where it was first set. -/
def setProperty (name : String) (value : Json) : List (String × Json) → List (String × Json)
  | [] => [(name, value)]
  | (other, old) :: rest =>
    if other = name then (name, value) :: rest else (other, old) :: setProperty name value rest

/-- Assigning to `__proto__` makes no property. -/
def assignClaim (name : String) (value : Json) (claims : List (String × Json)) :
    List (String × Json) :=
  if name = "__proto__" then claims else setProperty name value claims

def checkDisclosure (sdSet : List String) (claims : List (String × Json)) (d : String) :
    Except String (List (String × Json)) := do
  ensure (digest H d ∈ sdSet) "disclosure not in _sd"
  match ← L.parse (← b64urlDecode d) with
  | .array [_, .string name, value] => return assignClaim name value claims
  | _ => .error "bad disclosure shape"

/-- The values that count as false. -/
def isFalsy : Json → Bool
  | .null => true
  | .bool b => !b
  | .number n => jsNumber n == .integer 0
  | .string s => s == ""
  | _ => false

/-- The holder's key, in hex. -/
def holderPub (payload : Json) : Except String String := do
  let jwk ← okOr ((cnfJwk payload).filter fun jwk => !isFalsy jwk) "cnf.jwk missing"
  ensure (jwk.getStr "kty" = some "OKP" ∧ jwk.getStr "crv" = some "Ed25519")
    "TS verify only supports Ed25519 cnf"
  match jwk.get "x" with
  | some (.string x) => return hexEncode (← b64urlDecode x)
  | none => .error "Cannot read properties of undefined (reading 'length')"
  | some .null => .error "Cannot read properties of null (reading 'length')"
  | some _ => .error "s.replace is not a function"

/-- An empty `audience` or `nonce` asks for nothing. -/
def checkAsked (want : Option String) (payload : Json) (field message : String) :
    Except String Unit :=
  match want.filter (· ≠ "") with
  | some text => ensure (payload.getStr field = some text) message
  | none => .ok ()

/-- The token ends the presentation, so cutting off its code units leaves what is before it. -/
def verifyKb (presentation kb : String) (payload : Json) (audience nonce : Option String) :
    Except String Unit := do
  let (kh, kp) ← jwsVerifyEd25519 L kb (← holderPub payload)
  ensure (kh.getStr "typ" = some kbTyp) "KB-JWT typ must be kb+jwt"
  checkAsked audience kp "aud" "KB-JWT aud mismatch"
  checkAsked nonce kp "nonce" "KB-JWT nonce mismatch"
  ensure (kp.getStr "sd_hash" = some (digest H (cutTail presentation kb)))
    "KB-JWT sd_hash mismatch"

def checkBinding (presentation last : String) (payload : Json) (requireKb : Bool)
    (audience nonce : Option String) : Except String Unit :=
  if last = "" then ensure (requireKb = false) "Key Binding required but absent"
  else verifyKb L H presentation last payload audience nonce

/-- The `try` block. -/
def verifyParts (presentation issuerPublicKeyHex : String) (requireKb : Bool)
    (audience nonce : Option String) : Except String VerificationResult :=
  match splitChar '~' presentation with
  | jwt :: second :: rest => do
    let last := (second :: rest).getLastD ""
    let (header, payload) ← jwsVerifyEd25519 L jwt issuerPublicKeyHex
    ensure (header.getStr "typ" = some jwtTyp ∨ header.getStr "typ" = some jwtTypLegacy)
      "issuer JWT typ must be dc+sd-jwt"
    ensure (payload.getStr "_sd_alg" = some sdAlg) "_sd_alg must be sha-256"
    let claims ← ((second :: rest).dropLast.filter (· ≠ "")).foldlM
      (checkDisclosure L H ((sdDigests payload).getD [])) []
    checkBinding L H presentation last payload requireKb audience nonce
    return { valid := true, claims := some claims, issuer := payload.getStr "iss",
             credentialType := payload.getStr "vct", keyBound := decide (last ≠ "") }
  | _ => .error "not an SD-JWT (no ~)"

def verifySdJwt (presentation issuerPublicKeyHex : String) (requireKb : Bool)
    (audience nonce : Option String) : VerificationResult :=
  match verifyParts L H presentation issuerPublicKeyHex requireKb audience nonce with
  | .ok result => result
  | .error message => { valid := false, keyBound := false, error := some message }

end

end

/-! ## What the stricter decoders read -/

theorem hexDecode_of_decode {hex : String} {bs : Bytes}
    (decoded : OwlId.Lib.hexDecode hex = some bs) : hexDecode hex = .ok bs := by
  have ascii := (parseHexPairs_of_decode decoded).2
  have even : utf16Length hex % 2 = 0 := by
    rw [utf16Length_of_ascii ascii, hexDecodeChars_length decoded]
    omega
  simp only [hexDecode, bind_eq_ok, ensure_eq_ok, pure_eq_ok, exists_const]
  exact ⟨even, hexToBytes_of_decode decoded⟩

@[simp] theorem hexDecode_hexEncode (bs : Bytes) : hexDecode (hexEncode bs) = .ok bs :=
  hexDecode_of_decode (OwlId.Lib.hexDecode_hexEncode bs)

@[simp] theorem fromHex_toHex (kp : KeyPair) : KeyPair.fromHex kp.toHex = .ok kp := by
  simp only [KeyPair.fromHex, KeyPair.toHex, bind_eq_ok, okOr_eq_ok, pure_eq_ok]
  exact ⟨_, hexDecode_hexEncode _, kp.seed, tryInto32_toList _, rfl⟩

theorem fromHex_eq_ok {hex : String} {kp : KeyPair} :
    KeyPair.fromHex hex = .ok kp ↔ hexDecode hex = .ok kp.seed.toList := by
  simp only [KeyPair.fromHex, bind_eq_ok, okOr_eq_ok, pure_eq_ok, tryInto32_eq_some]
  constructor
  · rintro ⟨_, decoded, seed, rfl, rfl⟩
    exact decoded
  · intro decoded
    exact ⟨_, decoded, kp.seed, rfl, rfl⟩

@[simp] theorem b64urlEncode_eq (bs : Bytes) : b64urlEncode bs = b64 bs := bufferToBase64url_eq bs

theorem rtakeWhile_padded {cs : List Char} (noPad : '=' ∉ cs) (n : Nat) :
    (cs ++ List.replicate n '=').rtakeWhile (· = '=') = List.replicate n '=' := by
  have rest : cs.reverse.takeWhile (fun c => decide (c = '=')) = [] := by
    rw [List.takeWhile_eq_nil_iff]
    intro nonempty head
    apply noPad
    rw [← of_decide_eq_true head]
    exact List.mem_reverse.mp (List.getElem_mem nonempty)
  rw [List.rtakeWhile, List.reverse_append, List.reverse_replicate,
    List.takeWhile_append_of_pos (by simp), rest, List.append_nil, List.reverse_replicate]

/-- Whole groups with at most two characters of padding. -/
theorem atob_padded {cs : List Char} (noSpace : ∀ c ∈ cs, isAtobSpace c = false)
    (noPad : '=' ∉ cs) {pad : Nat} (whole : (cs.length + pad) % 4 = 0) (short : pad ≤ 2) :
    atob (cs ++ List.replicate pad '=') = atobChars cs := by
  have kept : (cs ++ List.replicate pad '=').filter (fun c => !isAtobSpace c) =
      cs ++ List.replicate pad '=' := by
    apply List.filter_eq_self.mpr
    intro c member
    cases List.mem_append.mp member with
    | inl inside => rw [noSpace c inside]; rfl
    | inr padding => rw [List.eq_of_mem_replicate padding]; rfl
  have length : (cs ++ List.replicate pad '=').length = cs.length + pad := by simp
  simp only [atob, kept, length, whole, if_true, rtakeWhile_padded noPad, List.length_replicate]
  rw [Nat.min_eq_right short, Nat.add_sub_cancel, List.take_left]

theorem b64urlDecode_of_unb64 {s : String} {bs : Bytes} (decoded : unb64 s = some bs) :
    b64urlDecode s = .ok bs := by
  have text : s = b64 bs := (b64_of_unb64 decoded).symm
  have digit : ∀ c ∈ (b64EncodeChars bs).map toStandard, isAtobSpace c = false ∧ c ≠ '=' := by
    intro c member
    obtain ⟨d, inside, rfl⟩ := List.mem_map.mp member
    exact forall_mem_b64EncodeChars
      (p := fun d => isAtobSpace (toStandard d) = false ∧ toStandard d ≠ '=') atob_digit inside
  have length : utf16Length s = (b64EncodeChars bs).length := by
    rw [text, utf16Length_of_ascii, b64_toList]
    rw [b64_toList]
    exact fun c => forall_mem_b64EncodeChars (p := fun c => c.toNat < 128) b64Char_ascii
  -- an encoding never leaves one digit over, so the padding is at most two
  have padding := padding_length bs
  rw [b64urlDecode, okOr_eq_ok, length, text, b64_toList, atob_padded]
  · exact atobChars_of_decode (b64DecodeChars_b64EncodeChars bs)
  · exact fun c member => (digit c member).1
  · exact fun member => (digit '=' member).2 rfl
  · rw [List.length_map]
    split <;> omega
  · split <;> omega

@[simp] theorem b64urlDecode_b64 (bs : Bytes) : b64urlDecode (b64 bs) = .ok bs :=
  b64urlDecode_of_unb64 (unb64_b64 bs)

/-! ## Reading what the issuer framed -/

variable {L : JsLibs} {P : Primitives} {H : Hashes}

@[simp] theorem digest_eq (d : String) : digest H d = ProofSystem.digest H d := b64urlEncode_eq _

theorem parse_eq_ok {s : String} {vc : SdJwtVc} :
    SdJwtVc.parse L s = .ok vc ↔ ∃ segments last, splitChar '~' s = vc.jwt :: segments ++ [last] ∧
      (segments.filter (· ≠ "")).mapM (SdJwtVc.parseDisclosure L) = .ok vc.disclosures := by
  unfold SdJwtVc.parse
  constructor
  · intro returns
    split at returns
    · rename_i jwt second rest parts
      simp only [bind_eq_ok, pure_eq_ok] at returns
      obtain ⟨disclosures, loop, rfl⟩ := returns
      refine ⟨(second :: rest).dropLast, (second :: rest).getLast (by simp), ?_, loop⟩
      rw [parts, List.cons_append, List.dropLast_append_getLast]
    · cases returns
  · rintro ⟨segments, last, parts, loop⟩
    rw [parts]
    cases segments with
    | nil =>
      simp only [List.cons_append, List.nil_append, bind_eq_ok, pure_eq_ok]
      exact ⟨vc.disclosures, loop, rfl⟩
    | cons second rest =>
      simp only [List.cons_append, bind_eq_ok, pure_eq_ok]
      refine ⟨vc.disclosures, ?_, rfl⟩
      rw [← List.cons_append, List.dropLast_concat]
      exact loop

/-- Whatever follows the last separator, the framed disclosures are read. -/
theorem parse_framed {vc : SdJwtVc} {last : String} (jwt : '~' ∉ vc.jwt.toList)
    (disclosures : ∀ d ∈ vc.disclosures,
      d.2 ≠ "" ∧ '~' ∉ d.2.toList ∧ SdJwtVc.parseDisclosure L d.2 = .ok d)
    (separate : '~' ∉ last.toList) :
    SdJwtVc.parse L (joinSegments '~' (vc.jwt :: vc.disclosures.map Prod.snd) last) = .ok vc := by
  refine parse_eq_ok.mpr ⟨vc.disclosures.map Prod.snd, last, ?_, ?_⟩
  · rw [splitChar_joinSegments _ separate]
    intro s member
    cases List.mem_cons.mp member with
    | inl here => exact here ▸ jwt
    | inr later =>
      obtain ⟨d, listed, rfl⟩ := List.mem_map.mp later
      exact (disclosures d listed).2.1
  · have kept : (vc.disclosures.map Prod.snd).filter (· ≠ "") = vc.disclosures.map Prod.snd := by
      rw [List.filter_eq_self]
      intro s member
      obtain ⟨d, listed, rfl⟩ := List.mem_map.mp member
      simpa using (disclosures d listed).1
    rw [kept, mapM_eq_ok, List.forall₂_map_left_iff, List.forall₂_same]
    exact fun d listed => (disclosures d listed).2.2

section

variable (L P H)

/-- The wallet reads the JSON that issuing this credential wrote. -/
def ReadsIssued (claims : ClaimMap) (salts : String → String) (p : IssueParams) : Prop :=
  ∀ value ∈ issuedValues P H claims salts p, L.parse (P.toVec value) = .ok value

end

section

variable {claims : ClaimMap} {salts : String → String} {p : IssueParams}

theorem tilde_notMem_signedToken {header payload : Json} {secret : Bytes} :
    '~' ∉ (signedToken P header payload secret).toList := tilde_notMem_compact _ _ _

/-- The bytes of an issued disclosure, read by the wallet. -/
theorem disclosure_reads (reads : ReadsIssued L P H claims salts p) {name : String}
    (member : name ∈ claims.fields.map Prod.fst) :
    (b64urlDecode (disclosureOf P claims salts name) >>= L.parse) =
      .ok (disclosureArray (salts name) name (claims.value name)) := by
  simp only [bind_eq_ok]
  exact ⟨_, b64urlDecode_b64 _, reads _ (mem_issuedValues member)⟩

theorem parseDisclosure_reads (reads : ReadsIssued L P H claims salts p) {name : String}
    (member : name ∈ claims.fields.map Prod.fst) :
    SdJwtVc.parseDisclosure L (disclosureOf P claims salts name) =
      .ok (name, disclosureOf P claims salts name) := by
  have arr := disclosure_reads reads member
  simp only [bind_eq_ok] at arr
  obtain ⟨bytes, decoded, parsed⟩ := arr
  simp only [SdJwtVc.parseDisclosure, bind_eq_ok, okOr_eq_ok, pure_eq_ok]
  exact ⟨bytes, decoded, _, parsed, name, rfl, rfl⟩

/-- The issued disclosures are those of the names, in their order. -/
theorem issuedDisclosures_eq (claims : ClaimMap) (salts : String → String) :
    (issueEntries claims salts).map (entryDisclosure P) =
      (claims.fields.map Prod.fst).map fun name => (name, disclosureOf P claims salts name) := by
  rw [issueEntries, List.map_map, List.map_map]
  apply List.map_congr_left
  intro claim member
  simp [entryDisclosure, disclosureOf, ClaimMap.value_of_mem member]

/-- The text that frames any of the issued disclosures is read back. -/
theorem parse_issued (faithful : Faithful P H claims salts p)
    (reads : ReadsIssued L P H claims salts p) {jwt last : String} (token : '~' ∉ jwt.toList)
    {names : List String} (subset : names ⊆ claims.fields.map Prod.fst)
    (separate : '~' ∉ last.toList) :
    SdJwtVc.parse L (joinSegments '~' (jwt :: names.map (disclosureOf P claims salts)) last) =
      .ok ⟨jwt, names.map fun name => (name, disclosureOf P claims salts name)⟩ := by
  have each : ∀ d ∈ names.map fun name => (name, disclosureOf P claims salts name),
      d.2 ≠ "" ∧ '~' ∉ d.2.toList ∧ SdJwtVc.parseDisclosure L d.2 = .ok d := by
    intro d listed
    obtain ⟨name, member, rfl⟩ := List.mem_map.mp listed
    have facts := disclosure_parses faithful (subset member)
    exact ⟨facts.1, facts.2.1, parseDisclosure_reads reads (subset member)⟩
  have framed := @parse_framed L ⟨jwt, names.map fun name =>
    (name, disclosureOf P claims salts name)⟩ last token each separate
  simpa only [List.map_map, Function.comp_def] using framed

theorem parse_serialized (faithful : Faithful P H claims salts p)
    (reads : ReadsIssued L P H claims salts p) {jwt : String} (token : '~' ∉ jwt.toList) :
    SdJwtVc.parse L
        (ProofSystem.SdJwtVc.serialize ⟨jwt, (issueEntries claims salts).map (entryDisclosure P)⟩) =
      .ok ⟨jwt, (claims.fields.map Prod.fst).map fun name =>
        (name, disclosureOf P claims salts name)⟩ := by
  have segments : ((issueEntries claims salts).map (entryDisclosure P)).map Prod.snd =
      (claims.fields.map Prod.fst).map (disclosureOf P claims salts) := by
    rw [issuedDisclosures_eq, List.map_map]
    rfl
  rw [ProofSystem.SdJwtVc.serialize, segments]
  exact parse_issued faithful reads token (List.Subset.refl _) (by simp)

end

end OwlId.Sdk.SdJwt
