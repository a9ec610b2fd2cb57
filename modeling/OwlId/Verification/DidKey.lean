import Mathlib
import OwlId.Lib.Slices
import OwlId.ProofSystem.SdJwtRoundTrip
import OwlId.Verification.Service

/-! # Resolving `did:key`

The key is in the identifier: base58 text of a multicodec number and the key's bytes.  The
number is a varint, which may be spelled with more bytes than it needs; `did_key_unique_iff`
says when two identifiers of one key are the same.
-/

namespace OwlId.Verification

open OwlId.Lib OwlId.ProofSystem

/-- The base58 codec. -/
structure Base58 where
  encode : Bytes → String
  decode : String → Except String Bytes

def multicodecEd25519Pub : Nat := 0xed
def multicodecP256Pub : Nat := 0x1200

/-! ## The identifier -/

/-- The text after a fixed beginning. -/
def stripStart (start s : String) : Option String :=
  if start.toList.isPrefixOf s.toList then some (String.ofList (s.toList.drop start.length))
  else none

def dropBytes : Nat → List Char → Option (List Char)
  | 0, cs => some cs
  | _ + 1, [] => none
  | n + 1, c :: rest => if c.utf8Size ≤ n + 1 then dropBytes (n + 1 - c.utf8Size) rest else none
termination_by structural _ cs => cs

theorem dropBytes_zero (cs : List Char) : dropBytes 0 cs = some cs := by
  cases cs <;> rfl

/-- `&s[n..]`; `none` where it panics. -/
def sliceFrom (n : Nat) (s : String) : Option String :=
  (dropBytes n s.toList).map String.ofList

def hexText (n : Nat) : String := String.ofList (Nat.toDigits 16 n)

/-- The loop over the bytes of a varint; a fourth byte is read at shift 21. -/
def varintLoop (value shift : Nat) : Bytes → Except String (Nat × Bytes)
  | [] => .error "multicodec varint truncated"
  | b :: rest =>
    let value := value ||| (b &&& 0x7f).toNat <<< shift
    if b &&& 0x80 = 0 then .ok (value, rest)
    else if 21 < shift + 7 then .error "multicodec varint too long"
    else varintLoop value (shift + 7) rest

def parseMulticodecVarint (bytes : Bytes) : Except String (Nat × Bytes) := do
  let (value, rest) ← varintLoop 0 0 bytes
  ensure (value ≤ 0xffff) ("multicodec 0x" ++ hexText value ++ " out of u16 range")
  return (value, rest)

section

variable (base58 : Base58)

/-- The slice after the first character is of bytes, so it is one that could panic. -/
def decodeMultibaseMulticodec (mb : String) : Option (Except String (Nat × Bytes)) :=
  match mb.toList.head? with
  | none => some (.error "empty did:key suffix")
  | some c =>
    if c ≠ 'z' then
      some (.error ("did:key multibase prefix must be 'z', got '" ++ String.singleton c ++ "'"))
    else (sliceFrom 1 mb).map fun payload => do
      let bytes ← mapErr ("did:key base58btc decode: " ++ ·) (base58.decode payload)
      ensure (2 ≤ bytes.length) "did:key payload too short for multicodec prefix"
      parseMulticodecVarint bytes

/-! ## The document -/

variable (P : Primitives) (H : Hashes)

def didKeyJwk (bytes : Bytes) : SignatureAlgorithm → Except String Json
  | .ed25519 => .ok (.ofFields
      [("kty", .string "OKP"), ("crv", .string "Ed25519"), ("x", .string (b64 bytes))])
  | .ecdsaP256 =>
    if bytes.length ≠ 65 ∨ bytes.headD 0 ≠ 0x04 then
      .error "did:key P-256 must be uncompressed SEC1"
    else .ok (.ofFields
      [("kty", .string "EC"), ("crv", .string "P-256"),
        ("x", .string (b64 ((bytes.drop 1).take 32))),
        ("y", .string (b64 ((bytes.drop 33).take 32)))])

def synthesiseDidDocument (did keyHex : String) (alg : SignatureAlgorithm) :
    Except String Json := do
  let bytes ← okOr (hexDecode keyHex) ("synthesise_did_document hex: " ++ P.hexError keyHex)
  let jwk ← didKeyJwk bytes alg
  return .ofFields
    [("@context", .array [.string "https://www.w3.org/ns/did/v1",
        .string "https://w3id.org/security/jwk/v1"]),
      ("id", .string did),
      ("verificationMethod", .array [.ofFields [("id", .string (did ++ "#0")),
        ("type", .string "JsonWebKey"), ("controller", .string did), ("publicKeyJwk", jwk)]]),
      ("assertionMethod", .array [.string (did ++ "#0")]),
      ("authentication", .array [.string (did ++ "#0")])]

def canonicalDocHash (doc : Json) : String := hexEncode (H.sha256 (P.toVec doc)).toList

/-! ## The resolver -/

/-- The key of a codec, as hex: 32 bytes as they are, or the uncompressed point of 33. -/
def didKeyOf (codec : Nat) (raw : Bytes) : Except String (String × SignatureAlgorithm) :=
  if codec = multicodecEd25519Pub then do
    ensure (raw.length = 32)
      ("did:key Ed25519 expected 32 bytes, got " ++ toString raw.length)
    return (hexEncode raw, .ed25519)
  else if codec = multicodecP256Pub then do
    ensure (raw.length = 33)
      ("did:key P-256 expected 33 compressed bytes, got " ++ toString raw.length)
    let point ← mapErr ("did:key P-256 decode: " ++ ·) (P.p256Decode raw)
    return (hexEncode point, .ecdsaP256)
  else .error ("did:key multicodec 0x" ++ hexText codec ++
    " not supported (Ed25519=0xed, P-256=0x1200)")

def resolveDidKey (did : String) : Option (Except String ResolvedDid) :=
  match stripStart "did:key:" did with
  | none => some (.error ("not a did:key: " ++ did))
  | some mb => (decodeMultibaseMulticodec base58 mb).map fun decoded => do
    let (codec, raw) ← decoded
    let (keyHex, keyAlg) ← didKeyOf P codec raw
    let doc ← synthesiseDidDocument P did keyHex keyAlg
    return ⟨did, keyHex, keyAlg, canonicalDocHash P H doc⟩

end

/-! ## Varints -/

/-- Every byte but the last has its high bit set. -/
def VarintShape : Bytes → Prop
  | [] => False
  | [b] => b &&& 0x80 = 0
  | b :: rest => b &&& 0x80 ≠ 0 ∧ VarintShape rest

/-- Seven bits a byte, the low ones first. -/
def varintValue : Bytes → Nat
  | [] => 0
  | b :: rest => (b &&& 0x7f).toNat + 128 * varintValue rest

/-- The bytes of the varint at the front, counted by their high bits. -/
def varintLength (bytes : Bytes) : Nat := (bytes.takeWhile (· &&& 0x80 ≠ 0)).length + 1

theorem low7_lt (b : UInt8) : (b &&& 0x7f).toNat < 128 := by
  rw [UInt8.toNat_and]
  exact Nat.and_lt_two_pow _ (by decide : (0x7f : UInt8).toNat < 2 ^ 7)

theorem low7_eq_mod (b : UInt8) : (b &&& 0x7f).toNat = b.toNat % 128 := by
  rw [UInt8.toNat_and]
  exact Nat.and_two_pow_sub_one_eq_mod b.toNat 7

theorem high_bit_clear_iff (b : UInt8) : b &&& 0x80 = 0 ↔ b.toNat < 128 := by
  have high : (b &&& 0x80).toNat = (b.toNat.testBit 7).toNat * 2 ^ 7 := by
    rw [UInt8.toNat_and]
    exact Nat.and_two_pow b.toNat 7
  have below : b.toNat < 256 := b.toNat_lt
  rw [← UInt8.toNat_inj, high, Nat.testBit_eq_decide_div_mod_eq]
  show _ = 0 ↔ _
  by_cases odd : b.toNat / 2 ^ 7 % 2 = 1
  · rw [decide_eq_true odd]
    simp
    omega
  · rw [decide_eq_false odd]
    simp
    omega

/-- A byte is its low seven bits and its high one. -/
theorem eq_of_low7 {b c : UInt8} (low : (b &&& 0x7f).toNat = (c &&& 0x7f).toNat)
    (high : b &&& 0x80 = 0 ↔ c &&& 0x80 = 0) : b = c := by
  rw [high_bit_clear_iff, high_bit_clear_iff] at high
  rw [low7_eq_mod, low7_eq_mod] at low
  have belowB : b.toNat < 256 := b.toNat_lt
  have belowC : c.toNat < 256 := c.toNat_lt
  apply UInt8.toNat_inj.mp
  omega

/-- What the loop has read is a varint, whose groups it adds above the bits it had. -/
theorem varintLoop_ok {value shift : Nat} {bytes : Bytes} {v : Nat} {rest : Bytes}
    (small : value < 2 ^ shift) (read : varintLoop value shift bytes = .ok (v, rest)) :
    ∃ front, bytes = front ++ rest ∧ VarintShape front ∧
      front.length = varintLength bytes ∧ v = value + 2 ^ shift * varintValue front := by
  induction bytes generalizing value shift with
  | nil => cases read
  | cons b tail ih =>
    have grown : value ||| (b &&& 0x7f).toNat <<< shift =
        value + 2 ^ shift * (b &&& 0x7f).toNat := by
      rw [Nat.shiftLeft_eq, Nat.or_comm, Nat.mul_comm,
        ← Nat.two_pow_add_eq_or_of_lt small, Nat.add_comm]
    simp only [varintLoop, grown] at read
    by_cases last : b &&& 0x80 = 0
    · rw [if_pos last] at read
      cases read
      exact ⟨[b], rfl, last, by simp [varintLength, last], by simp [varintValue]⟩
    · rw [if_neg last] at read
      by_cases tooLong : 21 < shift + 7
      · rw [if_pos tooLong] at read
        cases read
      · rw [if_neg tooLong] at read
        have below : value + 2 ^ shift * (b &&& 0x7f).toNat < 2 ^ (shift + 7) := by
          have low := low7_lt b
          have scaled : 2 ^ shift * (b &&& 0x7f).toNat ≤ 2 ^ shift * 127 :=
            Nat.mul_le_mul_left _ (by omega)
          rw [Nat.pow_add]
          omega
        obtain ⟨front, split, shape, length, total⟩ := ih below read
        refine ⟨b :: front, by rw [split]; rfl, ?_, ?_, ?_⟩
        · cases front with
          | nil => exact shape.elim
          | cons c front => exact ⟨last, shape⟩
        · rw [List.length_cons, length]
          simp [varintLength, last]
        · rw [total, varintValue, Nat.pow_add, Nat.mul_add]
          ring

/-- Two varints of one value and one length have the same bytes. -/
theorem varint_unique {front front' : Bytes} (shape : VarintShape front)
    (shape' : VarintShape front') (length : front.length = front'.length)
    (value : varintValue front = varintValue front') : front = front' := by
  induction front generalizing front' with
  | nil => exact shape.elim
  | cons b front ih =>
    cases front' with
    | nil => cases length
    | cons c front' =>
      have lowB := low7_lt b
      have lowC := low7_lt c
      simp only [varintValue] at value
      have low : (b &&& 0x7f).toNat = (c &&& 0x7f).toNat := by omega
      have rest : varintValue front = varintValue front' := by omega
      cases front with
      | nil =>
        cases front' with
        | nil => rw [eq_of_low7 low ⟨fun _ => shape', fun _ => shape⟩]
        | cons d front' => cases length
      | cons d front =>
        cases front' with
        | nil => cases length
        | cons e front' =>
          have same : b = c :=
            eq_of_low7 low ⟨fun clear => absurd clear shape.1, fun clear => absurd clear shape'.1⟩
          rw [same, ih shape.2 shape'.2 (Nat.succ.inj length) rest]

theorem parseMulticodecVarint_ok {bytes : Bytes} {codec : Nat} {raw : Bytes}
    (parsed : parseMulticodecVarint bytes = .ok (codec, raw)) :
    ∃ front, bytes = front ++ raw ∧ VarintShape front ∧
      front.length = varintLength bytes ∧ varintValue front = codec := by
  obtain ⟨⟨v, rest⟩, read, checked⟩ := bind_eq_ok.mp parsed
  obtain ⟨_, _, done⟩ := bind_eq_ok.mp checked
  cases done
  obtain ⟨front, split, shape, length, total⟩ := varintLoop_ok (by simp) read
  exact ⟨front, split, shape, length, by simp [total]⟩

/-! ## One key, one identifier -/

section

variable (base58 : Base58) (P : Primitives) (H : Hashes)

/-- The canonical identifier: the shortest varint of the codec, then the key. -/
def didKeyEd25519 (raw : Bytes) : String := "did:key:z" ++ base58.encode ([0xed, 0x01] ++ raw)

def didKeyP256 (raw : Bytes) : String := "did:key:z" ++ base58.encode ([0x80, 0x24] ++ raw)

structure Base58Laws : Prop where
  roundTrip : ∀ bytes, base58.decode (base58.encode bytes) = .ok bytes
  injective : ∀ s t bytes, base58.decode s = .ok bytes → base58.decode t = .ok bytes → s = t

/-- A point decoded from 33 bytes is uncompressed, and keeps their x coordinate. -/
structure Sec1Laws : Prop where
  uncompressed : ∀ raw point, raw.length = 33 → P.p256Decode raw = .ok point →
    point.length = 65 ∧ point.headD 0 = 0x04
  coordinate : ∀ raw point, raw.length = 33 → P.p256Decode raw = .ok point →
    (point.drop 1).take 32 = raw.drop 1

/-- What the base58 text of an identifier stands for. -/
def payloadOf (did : String) : Option Bytes :=
  match base58.decode (String.ofList (did.toList.drop 9)) with
  | .ok bytes => some bytes
  | .error _ => none

/-- The codec is spelled with as many bytes in both, and the byte after it is the same. -/
def SameSpelling (did did' : String) : Prop :=
  ∃ bytes bytes', payloadOf base58 did = some bytes ∧ payloadOf base58 did' = some bytes' ∧
    varintLength bytes = varintLength bytes' ∧
    bytes[varintLength bytes]? = bytes'[varintLength bytes']?

end

section

variable {base58 : Base58} {P : Primitives} {H : Hashes}

theorem stripStart_append (start s : String) : stripStart start (start ++ s) = some s := by
  have front : start.toList.isPrefixOf (start ++ s).toList = true := by
    rw [String.toList_append, List.isPrefixOf_iff_prefix]
    exact List.prefix_append _ _
  rw [stripStart, if_pos front, String.toList_append, ← String.length_toList, List.drop_left,
    String.ofList_toList]

theorem eq_append_of_stripStart {start s rest : String} (found : stripStart start s = some rest) :
    s = start ++ rest := by
  rw [stripStart] at found
  split at found
  next front =>
    cases found
    obtain ⟨tail, split⟩ := List.isPrefixOf_iff_prefix.mp front
    apply String.toList_inj.mp
    rw [String.toList_append, String.toList_ofList, ← split, ← String.length_toList,
      List.drop_left]
  next => cases found

/-- One byte is the whole of the first character, so the slice after it is there. -/
theorem decodeMultibaseMulticodec_z (payload : String) :
    decodeMultibaseMulticodec base58 ("z" ++ payload) = some (do
      let bytes ← mapErr ("did:key base58btc decode: " ++ ·) (base58.decode payload)
      ensure (2 ≤ bytes.length) "did:key payload too short for multicodec prefix"
      parseMulticodecVarint bytes) := by
  have chars : ("z" ++ payload).toList = 'z' :: payload.toList := by
    rw [String.toList_append]
    rfl
  have slice : sliceFrom 1 ("z" ++ payload) = some payload := by
    have size : ('z' : Char).utf8Size = 1 := rfl
    rw [sliceFrom, chars, dropBytes, if_pos (by omega), size, dropBytes_zero, Option.map_some,
      String.ofList_toList]
  rw [decodeMultibaseMulticodec, chars, slice]
  rfl

theorem decodeMultibaseMulticodec_cases (mb : String) :
    (∃ e, decodeMultibaseMulticodec base58 mb = some (.error e)) ∨
      ∃ payload, mb = "z" ++ payload := by
  cases chars : mb.toList with
  | nil =>
    left
    rw [decodeMultibaseMulticodec, chars]
    exact ⟨_, rfl⟩
  | cons c rest =>
    by_cases z : c = 'z'
    · right
      refine ⟨String.ofList rest, String.toList_inj.mp ?_⟩
      rw [String.toList_append, @String.toList_ofList rest, chars, z]
      rfl
    · left
      rw [decodeMultibaseMulticodec, chars]
      simp only [List.head?_cons, ne_eq, z, not_false_iff, if_true]
      exact ⟨_, rfl⟩

/-- The slice after the multibase character never panics. -/
theorem resolveDidKey_ne_none (did : String) : resolveDidKey base58 P H did ≠ none := by
  rw [resolveDidKey]
  cases stripStart "did:key:" did with
  | none => nofun
  | some mb =>
    rcases @decodeMultibaseMulticodec_cases base58 mb with ⟨e, stop⟩ | ⟨payload, rfl⟩
    · simp [stop]
    · simp [decodeMultibaseMulticodec_z]

/-- What an identifier that resolves is. -/
theorem resolveDidKey_ok {did : String} {r : ResolvedDid}
    (resolved : resolveDidKey base58 P H did = some (.ok r)) :
    ∃ payload bytes codec raw, did = "did:key:z" ++ payload ∧ base58.decode payload = .ok bytes ∧
      parseMulticodecVarint bytes = .ok (codec, raw) ∧
      didKeyOf P codec raw = .ok (r.keyHex, r.keyAlg) := by
  rw [resolveDidKey] at resolved
  cases stripped : stripStart "did:key:" did with
  | none => simp [stripped] at resolved
  | some mb =>
    rw [stripped] at resolved
    rcases @decodeMultibaseMulticodec_cases base58 mb with ⟨e, stop⟩ | ⟨payload, rfl⟩
    · simp only [stop, Option.map_some, Option.some.injEq] at resolved
      cases resolved
    · simp only [decodeMultibaseMulticodec_z, Option.map_some, Option.some.injEq] at resolved
      obtain ⟨⟨codec, raw⟩, decoded, resolved⟩ := bind_eq_ok.mp resolved
      obtain ⟨⟨keyHex, keyAlg⟩, key, resolved⟩ := bind_eq_ok.mp resolved
      obtain ⟨doc, _, done⟩ := bind_eq_ok.mp resolved
      obtain ⟨bytes, decode, decoded⟩ := bind_eq_ok.mp decoded
      obtain ⟨_, _, parsed⟩ := bind_eq_ok.mp decoded
      cases done
      refine ⟨payload, bytes, codec, raw, ?_, mapErr_eq_ok.mp decode, parsed, key⟩
      rw [eq_append_of_stripStart stripped, ← String.append_assoc]
      rfl

/-- The other way round, for a key whose document can be made. -/
theorem resolveDidKey_of {payload keyHex : String} {bytes raw : Bytes} {codec : Nat}
    {keyAlg : SignatureAlgorithm} {doc : Json} (decode : base58.decode payload = .ok bytes)
    (long : 2 ≤ bytes.length) (parsed : parseMulticodecVarint bytes = .ok (codec, raw))
    (key : didKeyOf P codec raw = .ok (keyHex, keyAlg))
    (made : synthesiseDidDocument P ("did:key:z" ++ payload) keyHex keyAlg = .ok doc) :
    resolveDidKey base58 P H ("did:key:z" ++ payload) =
      some (.ok ⟨"did:key:z" ++ payload, keyHex, keyAlg, canonicalDocHash P H doc⟩) := by
  have stripped : stripStart "did:key:" ("did:key:z" ++ payload) = some ("z" ++ payload) := by
    have split : "did:key:z" ++ payload = "did:key:" ++ ("z" ++ payload) := by
      rw [← String.append_assoc]
      rfl
    rw [split, stripStart_append]
  simp only [resolveDidKey, stripped, decodeMultibaseMulticodec_z, Option.map_some,
    Option.some.injEq]
  apply bind_eq_ok.mpr
  refine ⟨(codec, raw), bind_eq_ok.mpr ⟨bytes, mapErr_eq_ok.mpr decode, ?_⟩, ?_⟩
  · exact bind_eq_ok.mpr ⟨(), ensure_eq_ok.mpr long, parsed⟩
  · exact bind_eq_ok.mpr ⟨(keyHex, keyAlg), key, bind_eq_ok.mpr ⟨doc, made, rfl⟩⟩

theorem payloadOf_z {payload : String} {bytes : Bytes}
    (decode : base58.decode payload = .ok bytes) :
    payloadOf base58 ("did:key:z" ++ payload) = some bytes := by
  have rest : String.ofList (("did:key:z" ++ payload).toList.drop 9) = payload := by
    have front : ("did:key:z" : String).toList.length = 9 := by decide
    rw [String.toList_append, ← front, List.drop_left, String.ofList_toList]
  rw [payloadOf, rest, decode]

/-! ### The canonical identifiers -/

theorem synthesiseDidDocument_ok (did : String) {bytes : Bytes} {alg : SignatureAlgorithm}
    {jwk : Json} (made : didKeyJwk bytes alg = .ok jwk) :
    ∃ doc, synthesiseDidDocument P did (hexEncode bytes) alg = .ok doc := by
  rw [synthesiseDidDocument, hexDecode_hexEncode]
  show ∃ doc, (didKeyJwk bytes alg >>= _) = Except.ok doc
  rw [made]
  exact ⟨_, rfl⟩

theorem resolveDidKey_ed25519 (codec : Base58Laws base58) {raw : Bytes} (size : raw.length = 32) :
    ∃ hash, resolveDidKey base58 P H (didKeyEd25519 base58 raw) =
      some (.ok ⟨didKeyEd25519 base58 raw, hexEncode raw, .ed25519, hash⟩) := by
  have parsed : parseMulticodecVarint ([0xed, 0x01] ++ raw) = .ok (multicodecEd25519Pub, raw) := rfl
  have key : didKeyOf P multicodecEd25519Pub raw = .ok (hexEncode raw, .ed25519) := by
    rw [didKeyOf, if_pos rfl]
    exact bind_eq_ok.mpr ⟨(), ensure_eq_ok.mpr size, rfl⟩
  obtain ⟨doc, made⟩ := @synthesiseDidDocument_ok P (didKeyEd25519 base58 raw) raw .ed25519 _ rfl
  exact ⟨_, resolveDidKey_of (codec.roundTrip _) (by simp) parsed key made⟩

theorem resolveDidKey_p256 (codec : Base58Laws base58) (sec1 : Sec1Laws P) {raw point : Bytes}
    (size : raw.length = 33) (decoded : P.p256Decode raw = .ok point) :
    ∃ hash, resolveDidKey base58 P H (didKeyP256 base58 raw) =
      some (.ok ⟨didKeyP256 base58 raw, hexEncode point, .ecdsaP256, hash⟩) := by
  have parsed : parseMulticodecVarint ([0x80, 0x24] ++ raw) = .ok (multicodecP256Pub, raw) := rfl
  have key : didKeyOf P multicodecP256Pub raw = .ok (hexEncode point, .ecdsaP256) := by
    rw [didKeyOf, if_neg (by decide), if_pos rfl]
    exact bind_eq_ok.mpr ⟨(), ensure_eq_ok.mpr size,
      bind_eq_ok.mpr ⟨point, mapErr_eq_ok.mpr decoded, rfl⟩⟩
  obtain ⟨length, first⟩ := sec1.uncompressed raw point size decoded
  have jwk : ∃ jwk, didKeyJwk point .ecdsaP256 = .ok jwk := by
    rw [didKeyJwk, if_neg (by simp only [length, first]; decide)]
    exact ⟨_, rfl⟩
  obtain ⟨jwk, made⟩ := jwk
  obtain ⟨doc, made⟩ := @synthesiseDidDocument_ok P (didKeyP256 base58 raw) _ _ _ made
  exact ⟨_, resolveDidKey_of (codec.roundTrip _) (by simp) parsed key made⟩

/-! ### Two identifiers of one key -/

/-- One key comes from one codec, and from bytes that differ in the first at most. -/
theorem didKeyOf_unique (sec1 : Sec1Laws P) {codec codec' : Nat} {raw raw' : Bytes}
    {keyHex : String} {keyAlg : SignatureAlgorithm}
    (key : didKeyOf P codec raw = .ok (keyHex, keyAlg))
    (key' : didKeyOf P codec' raw' = .ok (keyHex, keyAlg)) :
    codec = codec' ∧ (raw.head? = raw'.head? → raw = raw') := by
  simp only [didKeyOf] at key key'
  by_cases ed : codec = multicodecEd25519Pub
  · rw [if_pos ed] at key
    obtain ⟨_, _, done⟩ := bind_eq_ok.mp key
    cases done
    by_cases ed' : codec' = multicodecEd25519Pub
    · rw [if_pos ed'] at key'
      obtain ⟨_, _, done⟩ := bind_eq_ok.mp key'
      rw [pure_eq_ok, Prod.mk.injEq] at done
      exact ⟨ed.trans ed'.symm, fun _ => hexEncode_injective done.1.symm⟩
    · rw [if_neg ed'] at key'
      split at key'
      · obtain ⟨_, _, point⟩ := bind_eq_ok.mp key'
        obtain ⟨_, _, done⟩ := bind_eq_ok.mp point
        rw [pure_eq_ok, Prod.mk.injEq] at done
        cases done.2
      · cases key'
  · rw [if_neg ed] at key
    split at key
    next p256 =>
      obtain ⟨_, size, uncompress⟩ := bind_eq_ok.mp key
      obtain ⟨point, decoded, done⟩ := bind_eq_ok.mp uncompress
      cases done
      by_cases ed' : codec' = multicodecEd25519Pub
      · rw [if_pos ed'] at key'
        obtain ⟨_, _, done⟩ := bind_eq_ok.mp key'
        rw [pure_eq_ok, Prod.mk.injEq] at done
        cases done.2
      · rw [if_neg ed'] at key'
        split at key'
        next p256' =>
          obtain ⟨_, size', uncompress'⟩ := bind_eq_ok.mp key'
          obtain ⟨point', decoded', done⟩ := bind_eq_ok.mp uncompress'
          rw [pure_eq_ok, Prod.mk.injEq] at done
          rw [hexEncode_injective done.1] at decoded'
          refine ⟨p256.trans p256'.symm, fun first => ?_⟩
          -- the tail is the x coordinate of the point
          have tails : raw.drop 1 = raw'.drop 1 := by
            rw [← sec1.coordinate raw point (ensure_eq_ok.mp size) (mapErr_eq_ok.mp decoded),
              sec1.coordinate raw' point (ensure_eq_ok.mp size') (mapErr_eq_ok.mp decoded')]
          have long : raw.length = 33 := ensure_eq_ok.mp size
          have long' : raw'.length = 33 := ensure_eq_ok.mp size'
          cases raw with
          | nil => cases long
          | cons b raw =>
            cases raw' with
            | nil => cases long'
            | cons c raw' =>
              cases first
              exact congrArg (b :: ·) tails
        next => cases key'
    next => cases key

theorem eq_of_sameSpelling (codecLaws : Base58Laws base58) (sec1 : Sec1Laws P)
    {did did' : String} {r r' : ResolvedDid}
    (resolved : resolveDidKey base58 P H did = some (.ok r))
    (resolved' : resolveDidKey base58 P H did' = some (.ok r'))
    (sameKey : r.keyHex = r'.keyHex) (sameAlg : r.keyAlg = r'.keyAlg)
    (spelling : SameSpelling base58 did did') : did = did' := by
  obtain ⟨payload, bytes, codec, raw, rfl, decode, parsed, key⟩ := resolveDidKey_ok resolved
  obtain ⟨payload', bytes', codec', raw', rfl, decode', parsed', key'⟩ :=
    resolveDidKey_ok resolved'
  obtain ⟨read, read', found, found', lengths, firsts⟩ := spelling
  cases (payloadOf_z decode).symm.trans found
  cases (payloadOf_z decode').symm.trans found'
  obtain ⟨front, split, shape, length, value⟩ := parseMulticodecVarint_ok parsed
  obtain ⟨front', split', shape', length', value'⟩ := parseMulticodecVarint_ok parsed'
  rw [← sameKey, ← sameAlg] at key'
  obtain ⟨sameCodec, sameRaw⟩ := didKeyOf_unique sec1 key key'
  have fronts : front = front' :=
    varint_unique shape shape' (by rw [length, length', lengths]) (by rw [value, value', sameCodec])
  have heads : raw.head? = raw'.head? := by
    rw [← length, ← length'] at firsts
    rw [split, split', List.getElem?_append_right le_rfl, List.getElem?_append_right le_rfl,
      Nat.sub_self, Nat.sub_self] at firsts
    rwa [List.head?_eq_getElem?, List.head?_eq_getElem?]
  have payloads : payload = payload' := by
    apply codecLaws.injective payload payload' bytes decode
    rw [decode', split, split', fronts, sameRaw heads]
  rw [payloads]

end

/-- An identifier of a key is the only one exactly when the codec is spelled in no other length
    and, for P-256, the point with no other tag. -/
theorem did_key_unique_iff (base58 : Base58) (P : Primitives) (H : Hashes)
    (codec : Base58Laws base58) (sec1 : Sec1Laws P) :
    (∀ raw, raw.length = 32 → ∃ hash, resolveDidKey base58 P H (didKeyEd25519 base58 raw) =
      some (.ok ⟨didKeyEd25519 base58 raw, hexEncode raw, .ed25519, hash⟩)) ∧
    (∀ raw point, raw.length = 33 → P.p256Decode raw = .ok point →
      ∃ hash, resolveDidKey base58 P H (didKeyP256 base58 raw) =
        some (.ok ⟨didKeyP256 base58 raw, hexEncode point, .ecdsaP256, hash⟩)) ∧
    (∀ did, resolveDidKey base58 P H did ≠ none) ∧
    (∀ did did' r r', resolveDidKey base58 P H did = some (.ok r) →
      resolveDidKey base58 P H did' = some (.ok r') →
      r.keyHex = r'.keyHex → r.keyAlg = r'.keyAlg →
      (did = did' ↔ SameSpelling base58 did did')) := by
  refine ⟨fun _ size => resolveDidKey_ed25519 codec size,
    fun _ _ size decoded => resolveDidKey_p256 codec sec1 size decoded,
    resolveDidKey_ne_none, ?_⟩
  intro did did' r r' resolved resolved' sameKey sameAlg
  constructor
  · rintro rfl
    obtain ⟨payload, bytes, _, _, rfl, decode, _, _⟩ := resolveDidKey_ok resolved
    exact ⟨bytes, bytes, payloadOf_z decode, payloadOf_z decode, rfl, rfl⟩
  · exact eq_of_sameSpelling codec sec1 resolved resolved' sameKey sameAlg

/-! ### A key with two identifiers -/

def sampleEd25519 : Bytes := [
    0xd7, 0x5a, 0x98, 0x01, 0x82, 0xb1, 0x0a, 0xb7, 0xd5, 0x4b, 0xfe, 0xd3, 0xc9, 0x64,
    0x07, 0x3a, 0x0e, 0xe1, 0x72, 0xf3, 0xda, 0xa6, 0x23, 0x25, 0xaf, 0x02, 0x1a, 0x68,
    0xf7, 0x07, 0x51, 0x1a]

def sampleP256X : Bytes := [
    0x6b, 0x17, 0xd1, 0xf2, 0xe1, 0x2c, 0x42, 0x47, 0xf8, 0xbc, 0xe6, 0xe5, 0x63, 0xa4,
    0x40, 0xf2, 0x77, 0x03, 0x7d, 0x81, 0x2d, 0xeb, 0x33, 0xa0, 0xf4, 0xa1, 0x39, 0x45,
    0xd8, 0x98, 0xc2, 0x96]

def sampleP256Y : Bytes := [
    0x4f, 0xe3, 0x42, 0xe2, 0xfe, 0x1a, 0x7f, 0x9b, 0x8e, 0xe7, 0xeb, 0x4a, 0x7c, 0x0f,
    0x9e, 0x16, 0x2b, 0xce, 0x33, 0x57, 0x6b, 0x31, 0x5e, 0xce, 0xcb, 0xb6, 0x40, 0x68,
    0x37, 0xbf, 0x51, 0xf5]

/-- The base58 texts of the payloads below; any other text is hex after a character that
    base58 lacks. -/
def sampleBase58Text (bytes : Bytes) : String :=
  if bytes = [0xed, 0x01] ++ sampleEd25519 then
    "6MktwupdmLXVVqTzCw4i46r4uGyosGXRnR3XjN4Zq7oMMsw"
  else if bytes = [0xed, 0x81, 0x00] ++ sampleEd25519 then
    "QhVUgtputZFHVUhQ1GVSMvkKF42LVkH2XZp5GatPYTC5Uim7"
  else if bytes = [0x80, 0x24, 0x03] ++ sampleP256X then
    "DnaepsL7AXenJkVYdkh5KuKsSU7Ykh7kyXaLLU7auN9FWSiZ"
  else "0" ++ hexEncode bytes

def sampleBase58Candidates (text : String) : List Bytes :=
  (hexDecode (String.ofList (text.toList.drop 1))).toList ++
    [[0xed, 0x01] ++ sampleEd25519, [0xed, 0x81, 0x00] ++ sampleEd25519,
      [0x80, 0x24, 0x03] ++ sampleP256X]

/-- The first candidate with the given text. -/
def sampleBase58 : Base58 where
  encode := sampleBase58Text
  decode text := okOr ((sampleBase58Candidates text).find? (sampleBase58Text · = text))
    "provided string contained invalid character"

theorem sampleBase58_decode {text : String} {bytes : Bytes} :
    sampleBase58.decode text = .ok bytes ↔
      (sampleBase58Candidates text).find? (sampleBase58Text · = text) = some bytes := by
  simp only [sampleBase58, okOr_eq_ok]

theorem sampleBase58Text_injective {bytes bytes' : Bytes}
    (same : sampleBase58Text bytes = sampleBase58Text bytes') : bytes = bytes' := by
  -- the first character says which branch a text is from
  have heads := congrArg (fun text : String => text.toList.head?) same
  simp only [sampleBase58Text] at same heads
  split_ifs at same heads <;> try (subst_vars; rfl)
  all_goals try exact absurd same (by decide)
  all_goals try simp [String.toList_append] at heads
  rw [String.append_right_inj] at same
  exact hexEncode_injective same

theorem sampleBase58_laws : Base58Laws sampleBase58 where
  roundTrip bytes := by
    have known : bytes ∈ sampleBase58Candidates (sampleBase58Text bytes) := by
      rw [sampleBase58Candidates]
      by_cases listed : bytes ∈ [[0xed, 0x01] ++ sampleEd25519, [0xed, 0x81, 0x00] ++ sampleEd25519,
          [0x80, 0x24, 0x03] ++ sampleP256X]
      · exact List.mem_append_right _ listed
      · simp only [List.mem_cons, List.not_mem_nil, or_false, not_or] at listed
        have text : sampleBase58Text bytes = "0" ++ hexEncode bytes := by
          rw [sampleBase58Text, if_neg listed.1, if_neg listed.2.1, if_neg listed.2.2]
        have digits : String.ofList ((sampleBase58Text bytes).toList.drop 1) = hexEncode bytes := by
          rw [text, String.toList_append]
          exact String.ofList_toList
        rw [digits, hexDecode_hexEncode]
        exact List.mem_append_left _ (List.mem_singleton_self bytes)
    have encoded : sampleBase58.encode bytes = sampleBase58Text bytes := by rw [sampleBase58]
    rw [encoded, sampleBase58_decode]
    cases hit : (sampleBase58Candidates (sampleBase58Text bytes)).find?
      (sampleBase58Text · = sampleBase58Text bytes) with
    | none => simpa using List.find?_eq_none.mp hit bytes known
    | some other =>
      have text := List.find?_some hit
      rw [decide_eq_true_eq] at text
      rw [sampleBase58Text_injective text]
  injective s t bytes decode decode' := by
    have text := List.find?_some (sampleBase58_decode.mp decode)
    have text' := List.find?_some (sampleBase58_decode.mp decode')
    rw [decide_eq_true_eq] at text text'
    exact text.symm.trans text'

/-- Only the generator of the curve is decoded. -/
def samplePoints : Primitives where
  __ := samplePrimitives []
  p256Decode bytes := if bytes = 0x03 :: sampleP256X
    then .ok (0x04 :: sampleP256X ++ sampleP256Y) else .error "crypto error"

theorem samplePoints_eq {raw point : Bytes} (decoded : samplePoints.p256Decode raw = .ok point) :
    raw = 0x03 :: sampleP256X ∧ point = 0x04 :: sampleP256X ++ sampleP256Y := by
  by_cases generator : raw = 0x03 :: sampleP256X
  · simp only [samplePoints, generator, if_true] at decoded
    cases decoded
    exact ⟨generator, rfl⟩
  · simp only [samplePoints, generator, if_false] at decoded
    cases decoded

theorem samplePoints_sec1 : Sec1Laws samplePoints where
  uncompressed raw point _ decoded := by
    rw [(samplePoints_eq decoded).2]
    decide
  coordinate raw point _ decoded := by
    rw [(samplePoints_eq decoded).1, (samplePoints_eq decoded).2]
    decide

/-- The two codecs resolve in their canonical spelling, and the first resolves again with its
    number in three bytes. -/
theorem did_key_unique_iff_at_sample :
    (∃ hash, resolveDidKey sampleBase58 samplePoints sampleHashes
        "did:key:z6MktwupdmLXVVqTzCw4i46r4uGyosGXRnR3XjN4Zq7oMMsw" =
      some (.ok ⟨"did:key:z6MktwupdmLXVVqTzCw4i46r4uGyosGXRnR3XjN4Zq7oMMsw",
        hexEncode sampleEd25519, .ed25519, hash⟩)) ∧
    (∃ hash, resolveDidKey sampleBase58 samplePoints sampleHashes
        "did:key:zDnaepsL7AXenJkVYdkh5KuKsSU7Ykh7kyXaLLU7auN9FWSiZ" =
      some (.ok ⟨"did:key:zDnaepsL7AXenJkVYdkh5KuKsSU7Ykh7kyXaLLU7auN9FWSiZ",
        hexEncode (0x04 :: sampleP256X ++ sampleP256Y), .ecdsaP256, hash⟩)) :=
  have holds := did_key_unique_iff sampleBase58 samplePoints sampleHashes sampleBase58_laws
    samplePoints_sec1
  ⟨holds.1 sampleEd25519 (by decide),
    holds.2.1 (0x03 :: sampleP256X) (0x04 :: sampleP256X ++ sampleP256Y) (by decide) rfl⟩

/-- One key, with its codec in two bytes and in three. -/
theorem did_key_spelled_twice :
    ("did:key:z6MktwupdmLXVVqTzCw4i46r4uGyosGXRnR3XjN4Zq7oMMsw" : String) ≠
      "did:key:zQhVUgtputZFHVUhQ1GVSMvkKF42LVkH2XZp5GatPYTC5Uim7" ∧
    ∃ hash hash', resolveDidKey sampleBase58 samplePoints sampleHashes
        "did:key:z6MktwupdmLXVVqTzCw4i46r4uGyosGXRnR3XjN4Zq7oMMsw" =
      some (.ok ⟨"did:key:z6MktwupdmLXVVqTzCw4i46r4uGyosGXRnR3XjN4Zq7oMMsw",
        hexEncode sampleEd25519, .ed25519, hash⟩) ∧
    resolveDidKey sampleBase58 samplePoints sampleHashes
        "did:key:zQhVUgtputZFHVUhQ1GVSMvkKF42LVkH2XZp5GatPYTC5Uim7" =
      some (.ok ⟨"did:key:zQhVUgtputZFHVUhQ1GVSMvkKF42LVkH2XZp5GatPYTC5Uim7",
        hexEncode sampleEd25519, .ed25519, hash'⟩) := by
  obtain ⟨hash, canonical⟩ := @resolveDidKey_ed25519 sampleBase58 samplePoints
    sampleHashes sampleBase58_laws sampleEd25519 (by decide)
  have encoded (bytes : Bytes) : sampleBase58.encode bytes = sampleBase58Text bytes := by
    rw [sampleBase58]
  have short : didKeyEd25519 sampleBase58 sampleEd25519 =
      "did:key:z6MktwupdmLXVVqTzCw4i46r4uGyosGXRnR3XjN4Zq7oMMsw" := by
    rw [didKeyEd25519, encoded, sampleBase58Text, if_pos rfl]
    rfl
  have long : "did:key:z" ++ sampleBase58.encode ([0xed, 0x81, 0x00] ++ sampleEd25519) =
      "did:key:zQhVUgtputZFHVUhQ1GVSMvkKF42LVkH2XZp5GatPYTC5Uim7" := by
    rw [encoded, sampleBase58Text, if_neg (by decide), if_pos rfl]
    rfl
  have decode := sampleBase58_laws.roundTrip ([0xed, 0x81, 0x00] ++ sampleEd25519)
  have parsed : parseMulticodecVarint ([0xed, 0x81, 0x00] ++ sampleEd25519) =
      .ok (multicodecEd25519Pub, sampleEd25519) := rfl
  have key : didKeyOf samplePoints multicodecEd25519Pub sampleEd25519 =
      .ok (hexEncode sampleEd25519, .ed25519) := rfl
  obtain ⟨doc, made⟩ := @synthesiseDidDocument_ok samplePoints
    ("did:key:z" ++ sampleBase58.encode ([0xed, 0x81, 0x00] ++ sampleEd25519))
    sampleEd25519 .ed25519 _ rfl
  have spelled := resolveDidKey_of (H := sampleHashes) decode (by decide) parsed key made
  rw [short] at canonical
  rw [long] at spelled
  exact ⟨by decide, hash, _, canonical, spelled⟩

end OwlId.Verification
