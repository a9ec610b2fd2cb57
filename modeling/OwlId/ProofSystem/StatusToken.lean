import Mathlib
import OwlId.ProofSystem.SdJwtRoundTrip
import OwlId.ProofSystem.StatusList

/-! # Signed status lists

A status list travels as a compact token: a header, a payload that carries the compressed
bits, and the issuer's signature over both.  The key's signing log says which texts it
has signed; `status_token_exact` reads a list back bit for bit from the token issued for
it, and from no token whose signed part is not in the log.
-/

namespace OwlId.ProofSystem

open OwlId.Lib

/-- The token type; the algorithm is `alg`. -/
def statusListTyp : String := "statuslist+jwt"

/-- The zlib encoder and decoder, with the texts of their errors. -/
structure Zlib where
  deflate : Bytes → Except String Bytes
  inflate : Bytes → Except String Bytes

def eddsaOnly : SignatureAlgorithm → Result Unit
  | .ed25519 => .ok ()
  | .ecdsaP256 => .error (err "Status List Token must be EdDSA")

section

variable (P : Primitives) (Z : Zlib)

def StatusList.compress (list : StatusList) : Result String := do
  return b64 (← mapErr err (Z.deflate list.bits))

def StatusList.decompress (lst : String) : Result StatusList := do
  let raw ← decode64 P lst
  return ⟨← mapErr err (Z.inflate raw)⟩

/-! ## Issuance -/

def statusListHeader : Json := .ofFields [("typ", .string statusListTyp), ("alg", .string alg)]

/-- `exp` is inserted after the others, when there is one. -/
def statusListPayload (uri : String) (iat : Int) (exp : Option Int) (lst : String) : Json :=
  .ofFields
    ([("sub", .string uri), ("iat", .ofInt iat),
      ("status_list", .ofFields [("bits", .number (.posInt 1)), ("lst", .string lst)])] ++
     (exp.map fun exp => ("exp", Json.ofInt exp)).toList)

/-- The text that is signed. -/
def statusListInput (uri : String) (iat : Int) (exp : Option Int) (lst : String) : String :=
  signingInput (b64 (P.toVec statusListHeader)) (b64 (P.toVec (statusListPayload uri iat exp lst)))

def issueStatusListJwt (list : StatusList) (signer : KeyPair) (uri : String) (iat : Int)
    (exp : Option Int) : Result String := do
  eddsaOnly signer.algorithm
  let lst ← list.compress Z
  let input := statusListInput P uri iat exp lst
  let sig := signer.sign P (asBytes input)
  return input ++ "." ++ b64 sig.bytes

/-! ## Verification -/

/-- The value at `/status_list/name`. -/
def statusListField (payload : Json) (name : String) : Option Json :=
  (payload.get "status_list").bind (·.get name)

def verifyStatusListJwt (token : String) (issuer : PublicKey) : Result StatusList := do
  eddsaOnly issuer.algorithm
  match splitChar '.' token with
  | [head, body, sig] =>
    let signature : Signature := ⟨.ed25519, ← decode64 P sig⟩
    mapErr .signatureError (issuer.verify P (asBytes (signingInput head body)) signature)
    let header ← parseJson P (← decode64 P head)
    ensure (header.getStr "typ" = some statusListTyp) (err "typ must be statuslist+jwt")
    let payload ← parseJson P (← decode64 P body)
    ensure ((statusListField payload "bits").bind Json.asU64 = some 1)
      (err "only bits:1 status lists supported")
    let lst ← okOr ((statusListField payload "lst").bind Json.asStr)
      (err "status_list.lst missing")
    StatusList.decompress P Z lst
  | _ => .error (err "status list JWT must have 3 parts")

/-- The part of a token that its signature is over. -/
def signedPart (token : String) : Option String :=
  match splitChar '.' token with
  | [head, body, _] => some (signingInput head body)
  | _ => none

/-! ## What is assumed of the libraries -/

/-- The decoder undoes the encoder. -/
structure Zlib.Lossless (Z : Zlib) : Prop where
  inflates : ∀ bits, ∃ packed, Z.deflate bits = .ok packed ∧ Z.inflate packed = .ok bits

/-- The texts in the log are what the key has signed: its signatures on them verify, and
nothing verifies on another text. -/
structure SigningLog (P : Primitives) (signer : KeyPair) (signed : Set String) : Prop where
  accepts : ∀ input ∈ signed, P.verifies .ed25519 (signer.publicKey P).bytes (asBytes input)
    (signer.sign P (asBytes input)).bytes = true
  rejects : ∀ input sig, P.verifies .ed25519 (signer.publicKey P).bytes (asBytes input) sig = true →
    input ∈ signed

/-- What issuing a list under these parameters relies on: the two documents survive
serialisation and the key has signed them. -/
structure Issuable (P : Primitives) (Z : Zlib) (list : StatusList) (uri : String) (iat : Int)
    (exp : Option Int) (signed : Set String) : Prop where
  header : RoundTrips P statusListHeader
  payload : ∀ lst, list.compress Z = .ok lst → RoundTrips P (statusListPayload uri iat exp lst)
  logged : ∀ lst, list.compress Z = .ok lst → statusListInput P uri iat exp lst ∈ signed

end

/-! ## What a token gives back -/

variable {P : Primitives} {Z : Zlib} {list : StatusList} {signer : KeyPair} {uri lst : String}
  {iat : Int} {exp : Option Int} {signed : Set String}

@[simp] theorem eddsaOnly_eq_ok {algorithm : SignatureAlgorithm} {u : Unit} :
    eddsaOnly algorithm = .ok u ↔ algorithm = .ed25519 := by
  cases algorithm <;> simp [eddsaOnly]

theorem compress_lossless (lossless : Z.Lossless) (list : StatusList) :
    ∃ lst, list.compress Z = .ok lst ∧ StatusList.decompress P Z lst = .ok list := by
  obtain ⟨packed, deflated, inflated⟩ := lossless.inflates list.bits
  refine ⟨b64 packed, ?_, ?_⟩
  · simp [StatusList.compress, deflated, mapErr]
  · show (do
      let raw ← decode64 P (b64 packed)
      return ⟨← mapErr err (Z.inflate raw)⟩) = Except.ok list
    rw [decode64_eq_ok.mpr (unb64_b64 packed)]
    show (do return ⟨← mapErr err (Z.inflate packed)⟩) = Except.ok list
    rw [inflated]
    rfl

theorem statusListHeader_typ : statusListHeader.getStr "typ" = some statusListTyp := rfl

theorem statusListPayload_field (name : String) :
    statusListField (statusListPayload uri iat exp lst) name =
      (Json.ofFields [("bits", .number (.posInt 1)), ("lst", .string lst)]).get name := by
  have inner : (statusListPayload uri iat exp lst).get "status_list" =
      some (.ofFields [("bits", .number (.posInt 1)), ("lst", .string lst)]) := by
    -- The optional expiry has another name, so it does not hide the list.
    rw [statusListPayload, Json.get_ofFields_append]
    · simp [Json.get_ofFields]
    · cases exp <;> simp
  rw [statusListField, inner, Option.bind_some]

theorem statusListPayload_bits :
    (statusListField (statusListPayload uri iat exp lst) "bits").bind Json.asU64 = some 1 := by
  rw [statusListPayload_field, Json.get_ofFields]
  simp [Json.lookup_cons_ite, Json.asU64]

theorem statusListPayload_lst :
    (statusListField (statusListPayload uri iat exp lst) "lst").bind Json.asStr = some lst := by
  rw [statusListPayload_field, Json.get_ofFields]
  simp [Json.asStr]

/-- The checks an accepted token has passed. -/
structure StatusTokenValid (P : Primitives) (Z : Zlib) (token : String) (issuer : PublicKey)
    (list : StatusList) : Prop where
  eddsa : issuer.algorithm = .ed25519
  read : ∃ head body sig headBytes bodyBytes sigBytes header payload lst,
    splitChar '.' token = [head, body, sig] ∧ unb64 sig = some sigBytes ∧
    P.verifies .ed25519 issuer.bytes (asBytes (signingInput head body)) sigBytes = true ∧
    unb64 head = some headBytes ∧ P.fromSlice headBytes = .ok header ∧
    header.getStr "typ" = some statusListTyp ∧
    unb64 body = some bodyBytes ∧ P.fromSlice bodyBytes = .ok payload ∧
    (statusListField payload "bits").bind Json.asU64 = some 1 ∧
    (statusListField payload "lst").bind Json.asStr = some lst ∧
    StatusList.decompress P Z lst = .ok list

theorem verifyStatusListJwt_eq_ok {token : String} {issuer : PublicKey} :
    verifyStatusListJwt P Z token issuer = .ok list ↔ StatusTokenValid P Z token issuer list := by
  constructor
  · intro returned
    simp only [verifyStatusListJwt, bind_eq_ok, eddsaOnly_eq_ok, exists_const] at returned
    obtain ⟨eddsa, checks⟩ := returned
    refine ⟨eddsa, ?_⟩
    split at checks
    · rename_i head body sig parts
      simp only [bind_eq_ok, decode64_eq_ok, parseJson_eq_ok, ensure_eq_ok, mapErr_eq_ok,
        okOr_eq_ok, PublicKey.verify_eq_ok, exists_const] at checks
      obtain ⟨sigBytes, hsig, ⟨_, verified⟩, headBytes, hhead, header, hheader, typ, bodyBytes,
        hbody, payload, hpayload, bits, lst, hlst, unpacked⟩ := checks
      rw [eddsa] at verified
      exact ⟨head, body, sig, headBytes, bodyBytes, sigBytes, header, payload, lst, parts, hsig,
        verified, hhead, hheader, typ, hbody, hpayload, bits, hlst, unpacked⟩
    · cases checks
  · rintro ⟨eddsa, head, body, sig, headBytes, bodyBytes, sigBytes, header, payload, lst, parts,
      hsig, verified, hhead, hheader, typ, hbody, hpayload, bits, hlst, unpacked⟩
    simp only [verifyStatusListJwt, parts, bind_eq_ok, eddsaOnly_eq_ok, exists_const,
      decode64_eq_ok, parseJson_eq_ok, ensure_eq_ok, mapErr_eq_ok, okOr_eq_ok,
      PublicKey.verify_eq_ok]
    exact ⟨eddsa, sigBytes, hsig, ⟨eddsa, eddsa ▸ verified⟩, headBytes, hhead, header, hheader,
      typ, bodyBytes, hbody, payload, hpayload, bits, lst, hlst, unpacked⟩

/-- The segments of a token can be read back from its signed part. -/
theorem signingInput_inj {token token' head head' body body' sig sig' : String}
    (parts : splitChar '.' token = [head, body, sig])
    (parts' : splitChar '.' token' = [head', body', sig'])
    (same : signingInput head body = signingInput head' body') : head = head' ∧ body = body' := by
  have noDot : ∀ segment ∈ [head, body, sig], '.' ∉ segment.toList := fun segment member =>
    notMem_of_mem_splitChar (parts ▸ member)
  have noDot' : ∀ segment ∈ [head', body', sig'], '.' ∉ segment.toList := fun segment member =>
    notMem_of_mem_splitChar (parts' ▸ member)
  have joined : joinSegments '.' [head] body = joinSegments '.' [head'] body' := by
    apply String.toList_inj.mp
    simpa [joinSegments, signingInput] using congrArg String.toList same
  obtain ⟨heads, bodies⟩ := joinSegments_injective (by simpa using noDot head (by simp))
    (noDot body (by simp)) (by simpa using noDot' head' (by simp)) (noDot' body' (by simp)) joined
  exact ⟨List.head_eq_of_cons_eq heads, bodies⟩

/-- The list is the payload's: two accepted tokens with one signed part carry one list. -/
theorem StatusTokenValid.list_unique {token token' : String} {issuer issuer' : PublicKey}
    {list list' : StatusList} (valid : StatusTokenValid P Z token issuer list)
    (valid' : StatusTokenValid P Z token' issuer' list')
    (same : signedPart token' = signedPart token) : list' = list := by
  obtain ⟨_, head, body, sig, headBytes, bodyBytes, _, _, payload, lst, parts, _, _, hhead, _, _,
    hbody, hpayload, _, hlst, unpacked⟩ := valid
  obtain ⟨_, head', body', sig', headBytes', bodyBytes', _, _, payload', lst', parts', _, _,
    hhead', _, _, hbody', hpayload', _, hlst', unpacked'⟩ := valid'
  simp only [signedPart, parts, parts', Option.some.injEq] at same
  obtain ⟨_, rfl⟩ := signingInput_inj parts' parts same
  obtain rfl := Option.some.inj (hbody.symm.trans hbody')
  obtain rfl := Except.ok.inj (hpayload.symm.trans hpayload')
  obtain rfl := Option.some.inj (hlst.symm.trans hlst')
  exact Except.ok.inj (unpacked'.symm.trans unpacked)

theorem StatusTokenValid.logged {token : String} {list : StatusList}
    (valid : StatusTokenValid P Z token (signer.publicKey P) list)
    (log : SigningLog P signer signed) :
    ∃ input, signedPart token = some input ∧ input ∈ signed := by
  obtain ⟨_, head, body, sig, _, _, sigBytes, _, _, _, parts, _, verified, _⟩ := valid
  exact ⟨signingInput head body, by rw [signedPart, parts], log.rejects _ _ verified⟩

/-! ## Issued tokens -/

theorem issued_token_valid (ed : signer.algorithm = .ed25519) (log : SigningLog P signer signed)
    (lossless : Z.Lossless) (issuable : Issuable P Z list uri iat exp signed) :
    ∃ token, issueStatusListJwt P Z list signer uri iat exp = .ok token ∧
      StatusTokenValid P Z token (signer.publicKey P) list := by
  obtain ⟨lst, packed, unpacked⟩ := compress_lossless lossless list
  have readPayload := issuable.payload lst packed
  have verified := log.accepts _ (issuable.logged lst packed)
  refine ⟨compact (P.toVec statusListHeader) (P.toVec (statusListPayload uri iat exp lst))
    (signer.sign P (asBytes (statusListInput P uri iat exp lst))).bytes, ?_, ?_⟩
  · simp only [issueStatusListJwt, bind_eq_ok, eddsaOnly_eq_ok, exists_const]
    exact ⟨ed, lst, packed, rfl⟩
  · exact ⟨ed, _, _, _, _, _, _, _, _, lst, splitChar_compact _ _ _, unb64_b64 _, verified,
      unb64_b64 _, issuable.header.read, statusListHeader_typ, unb64_b64 _, readPayload.read,
      statusListPayload_bits, statusListPayload_lst, unpacked⟩

/-! ## Main result -/

/-- A list is exactly the set it was built from, setting an index adds that index and makes room
for it, and a list is read back from the tokens its issuer has signed for it and from no other. -/
theorem status_token_exact (P : Primitives) (Z : Zlib) (lossless : Z.Lossless) :
    (∀ revoked i, (StatusList.fromRevoked revoked).isRevoked i = true ↔ i ∈ revoked) ∧
    (∀ (list : StatusList) j i,
      (list.setRevoked j).isRevoked i = true ↔ i = j ∨ list.isRevoked i = true) ∧
    (∀ (list : StatusList) j,
      (list.setRevoked j).bits.length = max list.bits.length (j / 8 + 1)) ∧
    ∀ (signer : KeyPair) (signed : Set String), signer.algorithm = .ed25519 →
      SigningLog P signer signed →
      (∀ list uri iat exp, Issuable P Z list uri iat exp signed →
        ∃ token got, issueStatusListJwt P Z list signer uri iat exp = .ok token ∧
          verifyStatusListJwt P Z token (signer.publicKey P) = .ok got ∧
          (∀ i, got.isRevoked i = list.isRevoked i) ∧
          ∀ token' got', signedPart token' = signedPart token →
            verifyStatusListJwt P Z token' (signer.publicKey P) = .ok got' → got' = got) ∧
      ∀ token, (∀ input ∈ signed, signedPart token ≠ some input) →
        ∀ got, verifyStatusListJwt P Z token (signer.publicKey P) ≠ .ok got := by
  refine ⟨?_, ?_, StatusList.length_setRevoked, ?_⟩
  · intro revoked i
    rw [StatusList.isRevoked_fromRevoked, decide_eq_true_eq]
  · intro list j i
    rw [StatusList.isRevoked_setRevoked, Bool.or_eq_true, decide_eq_true_eq]
  intro signer signed ed log
  constructor
  · intro list uri iat exp issuable
    obtain ⟨token, issued, valid⟩ := issued_token_valid ed log lossless issuable
    refine ⟨token, list, issued, verifyStatusListJwt_eq_ok.mpr valid, fun _ => rfl, ?_⟩
    intro token' got' same accepted
    exact valid.list_unique (verifyStatusListJwt_eq_ok.mp accepted) same
  · intro token unsigned got accepted
    obtain ⟨input, part, logged⟩ := (verifyStatusListJwt_eq_ok.mp accepted).logged log
    exact unsigned input logged part

/-! ## Two revoked credentials -/

def sampleBits : Bytes := [8, 2]

/-- What the encoder makes of `sampleBits` at its best level. -/
def samplePacked : Bytes := [0x78, 0xda, 0xe3, 0x60, 0x02, 0x00, 0x00, 0x14, 0x00, 0x0b]

/-- An encoder with that result, which marks any other input with a zero byte. -/
def sampleZlib : Zlib where
  deflate bits := .ok (if bits = sampleBits then samplePacked else 0 :: bits)
  inflate packed :=
    if packed = samplePacked then .ok sampleBits
    else match packed with
      | 0 :: bits => .ok bits
      | _ => .error "corrupt deflate stream"

theorem sampleZlib_lossless : sampleZlib.Lossless where
  inflates bits := by
    refine ⟨_, rfl, ?_⟩
    by_cases sample : bits = sampleBits
    · simp [sampleZlib, sample]
    · simp [sampleZlib, sample, samplePacked]

def sampleStatusUri : String := "https://issuer.example/status/1"

def sampleStatusPayload : Json :=
  statusListPayload sampleStatusUri 1700000000 none (b64 samplePacked)

def sampleStatusInput : String :=
  statusListInput (samplePrimitives []) sampleStatusUri 1700000000 none (b64 samplePacked)

/-- Libraries under which the sample key has signed the sample text and nothing else. -/
def sampleLogPrimitives : Primitives :=
  { samplePrimitives [statusListHeader, sampleStatusPayload] with
    verifies := fun _ key message signature =>
      decide (message = asBytes sampleStatusInput ∧ signature = key ++ message) }

theorem sampleLog (signer : KeyPair) :
    SigningLog sampleLogPrimitives signer {sampleStatusInput} where
  accepts := by
    rintro input rfl
    simp [sampleLogPrimitives, samplePrimitives, KeyPair.publicKey, KeyPair.sign]
  rejects input sig verified := by
    simp only [sampleLogPrimitives, decide_eq_true_eq] at verified
    exact asBytes_inj.mp verified.1

theorem sample_documents {value : Json} (member : value ∈ [statusListHeader, sampleStatusPayload]) :
    RoundTrips sampleLogPrimitives value := by
  have reads := samplePrimitives_roundTrips (by decide) (by decide) member
  exact ⟨reads.read, reads.nonempty⟩

theorem sample_issuable : Issuable sampleLogPrimitives sampleZlib
    (StatusList.fromRevoked [3, 9]) sampleStatusUri 1700000000 none {sampleStatusInput} where
  header := sample_documents (by simp)
  payload lst packed := by
    obtain rfl : b64 samplePacked = lst := Except.ok.inj packed
    exact sample_documents (by simp [sampleStatusPayload])
  logged lst packed := by
    obtain rfl : b64 samplePacked = lst := Except.ok.inj packed
    rfl

theorem status_token_exact_at_sample :
    ∃ token got, issueStatusListJwt sampleLogPrimitives sampleZlib (StatusList.fromRevoked [3, 9])
        sampleIssue.issuer sampleStatusUri 1700000000 none = .ok token ∧
      verifyStatusListJwt sampleLogPrimitives sampleZlib token
        (sampleIssue.issuer.publicKey sampleLogPrimitives) = .ok got ∧
      got.isRevoked 9 = true ∧ got.isRevoked 10 = false := by
  obtain ⟨token, got, issued, verified, same, _⟩ :=
    (((status_token_exact sampleLogPrimitives sampleZlib sampleZlib_lossless).2.2.2
      sampleIssue.issuer {sampleStatusInput} rfl (sampleLog _)).1 _ _ _ _ sample_issuable)
  exact ⟨token, got, issued, verified, by rw [same]; rfl, by rw [same]; rfl⟩

end OwlId.ProofSystem
