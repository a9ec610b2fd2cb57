import Mathlib
import OwlId.ProofSystem.SdJwt

/-! # What an accepted presentation guarantees

`verify` is inverted once, into `Accepted`: the segments of the presentation, the
signed header and payload, and every check that passed.  From it follow that each
returned claim was committed to by the issuer, and that a key-bound presentation
admits no other framing of the same key-binding token.
-/

namespace OwlId.ProofSystem

open OwlId.Lib

variable {P : Primitives} {H : Hashes}

/-! ## Tokens -/

/-- The token is a JWS under the key, with this header and payload. -/
structure JwsValid (P : Primitives) (pk : PublicKey) (token : String) (header payload : Json) :
    Prop where
  signed : ∃ head body sig headBytes bodyBytes sigBytes,
    splitChar '.' token = [head, body, sig] ∧
    unb64 head = some headBytes ∧ P.fromSlice headBytes = .ok header ∧
    unb64 body = some bodyBytes ∧ P.fromSlice bodyBytes = .ok payload ∧
    unb64 sig = some sigBytes ∧
    P.verifies pk.algorithm pk.bytes (asBytes (signingInput head body)) sigBytes = true
  alg : header.getStr "alg" = some (joseAlg pk.algorithm)

@[simp] theorem decode64_eq_ok {s : String} {bytes : Bytes} :
    decode64 P s = .ok bytes ↔ unb64 s = some bytes := by
  simp [decode64]

@[simp] theorem parseJson_eq_ok {bytes : Bytes} {value : Json} :
    parseJson P bytes = .ok value ↔ P.fromSlice bytes = .ok value := by
  simp [parseJson]

theorem jwsVerifyWith_eq_ok {token : String} {pk : PublicKey} {header payload : Json} :
    jwsVerifyWith P token pk = .ok (header, payload) ↔ JwsValid P pk token header payload := by
  unfold jwsVerifyWith
  constructor
  · intro returns
    split at returns
    · rename_i head body sig parts
      simp only [bind_eq_ok, decode64_eq_ok, parseJson_eq_ok, ensure_eq_ok, mapErr_eq_ok,
        PublicKey.verify_eq_ok, pure_eq_ok, exists_const, true_and, Prod.mk.injEq] at returns
      obtain ⟨headBytes, hhead, _, hheader, halg, sigBytes, hsig, verified, bodyBytes, hbody, _,
        hpayload, rfl, rfl⟩ := returns
      exact ⟨⟨head, body, sig, headBytes, bodyBytes, sigBytes, parts, hhead, hheader, hbody,
        hpayload, hsig, verified⟩, halg⟩
    · cases returns
  · rintro ⟨⟨head, body, sig, headBytes, bodyBytes, sigBytes, parts, hhead, hheader, hbody,
      hpayload, hsig, verified⟩, halg⟩
    rw [parts]
    simp only [bind_eq_ok, decode64_eq_ok, parseJson_eq_ok, ensure_eq_ok, mapErr_eq_ok,
      PublicKey.verify_eq_ok, pure_eq_ok, exists_const, true_and, Prod.mk.injEq]
    exact ⟨headBytes, hhead, header, hheader, halg, sigBytes, hsig, verified, bodyBytes, hbody,
      payload, hpayload, rfl, rfl⟩

theorem ed25519Only_eq_ok {algorithm : SignatureAlgorithm} {what : String} {u : Unit} :
    ed25519Only algorithm what = .ok u ↔ algorithm = .ed25519 := by
  cases algorithm <;> simp [ed25519Only]

/-- The payload of a valid token does not depend on the key it is valid under. -/
theorem JwsValid.payload_unique {pk pk' : PublicKey} {token : String}
    {header header' payload payload' : Json} (valid : JwsValid P pk token header payload)
    (valid' : JwsValid P pk' token header' payload') : payload = payload' := by
  obtain ⟨⟨head, body, sig, _, bodyBytes, _, parts, _, _, hbody, hpayload, _⟩, _⟩ := valid
  obtain ⟨⟨head', body', sig', _, bodyBytes', _, parts', _, _, hbody', hpayload', _⟩, _⟩ := valid'
  rw [parts] at parts'
  simp only [List.cons.injEq, and_true] at parts'
  obtain ⟨_, rfl, _⟩ := parts'
  rw [hbody] at hbody'
  obtain rfl := Option.some.inj hbody'
  rw [hpayload] at hpayload'
  exact Except.ok.inj hpayload'

/-! ## Framing -/

theorem parse_eq_ok {s : String} {vc : SdJwtVc} {kb : Option String} :
    parse P s = .ok (vc, kb) ↔ ∃ segments last,
      splitChar '~' s = vc.jwt :: segments ++ [last] ∧
      kb = (if last = "" then none else some last) ∧
      (segments.filter (· ≠ "")).mapM (parseDisclosure P) = .ok vc.disclosures := by
  unfold parse
  constructor
  · intro returns
    split at returns
    · rename_i jwt second rest parts
      simp only [bind_eq_ok, pure_eq_ok, Prod.mk.injEq] at returns
      obtain ⟨disclosures, loop, rfl, rfl⟩ := returns
      refine ⟨(second :: rest).dropLast, (second :: rest).getLast (by simp), ?_, rfl, loop⟩
      rw [parts, List.cons_append, List.dropLast_append_getLast]
    · cases returns
  · rintro ⟨segments, last, parts, rfl, loop⟩
    rw [parts]
    cases segments with
    | nil =>
      simp only [List.cons_append, List.nil_append, bind_eq_ok, pure_eq_ok, Prod.mk.injEq]
      exact ⟨vc.disclosures, loop, rfl, rfl⟩
    | cons second rest =>
      simp only [List.cons_append, bind_eq_ok, pure_eq_ok, Prod.mk.injEq]
      refine ⟨vc.disclosures, ?_, rfl, ?_⟩
      · rw [← List.cons_append, List.dropLast_concat]
        exact loop
      · simp

theorem parseDisclosure_snd {d : String} {disclosure : Disclosure}
    (returns : parseDisclosure P d = .ok disclosure) : disclosure.2 = d := by
  simp only [parseDisclosure, bind_eq_ok, pure_eq_ok] at returns
  obtain ⟨_, _, _, _, _, _, rfl⟩ := returns
  rfl

theorem mem_segments_of_parsed {segments : List String} {disclosures : List Disclosure}
    (loop : (segments.filter (· ≠ "")).mapM (parseDisclosure P) = .ok disclosures)
    {disclosure : Disclosure} (member : disclosure ∈ disclosures) : disclosure.2 ∈ segments := by
  obtain ⟨i, bound, rfl⟩ := List.mem_iff_getElem.mp member
  have rounds := mapM_eq_ok.mp loop
  have length := rounds.length_eq
  have parsed := List.Forall₂.get rounds (by omega) bound
  simp only [List.get_eq_getElem] at parsed
  rw [parseDisclosure_snd parsed]
  exact List.mem_of_mem_filter (List.getElem_mem _)

/-! ## Disclosures -/

/-- The disclosure is a JSON array with this name and value. -/
def Discloses (P : Primitives) (d name : String) (value : Json) : Prop :=
  ∃ bytes arr, unb64 d = some bytes ∧ P.fromSlice bytes = .ok arr ∧
    (arr.getIdx 1).bind Json.asStr = some name ∧ arr.getIdx 2 = some value

theorem verifyDisclosure_eq_ok {sdSet : List String} {acc acc' : List (String × Json) × List String}
    {disclosure : Disclosure} :
    verifyDisclosure P H sdSet acc disclosure = .ok acc' ↔
      digest H disclosure.2 ∈ sdSet ∧ digest H disclosure.2 ∉ acc.2 ∧
      ∃ name value, Discloses P disclosure.2 name value ∧
        acc' = (Json.insertField name value acc.1, digest H disclosure.2 :: acc.2) := by
  simp only [verifyDisclosure, bind_eq_ok, decode64_eq_ok, parseJson_eq_ok, ensure_eq_ok,
    okOr_eq_ok, pure_eq_ok, exists_const, Discloses]
  constructor
  · rintro ⟨listed, fresh, bytes, hbytes, arr, harr, name, hname, value, hvalue, rfl⟩
    exact ⟨listed, fresh, name, value, ⟨bytes, arr, hbytes, harr, hname, hvalue⟩, rfl⟩
  · rintro ⟨listed, fresh, name, value, ⟨bytes, arr, hbytes, harr, hname, hvalue⟩, rfl⟩
    exact ⟨listed, fresh, bytes, hbytes, arr, harr, name, hname, value, hvalue, rfl⟩

/-- Every claim the loop collects comes from a disclosure listed in `_sd`. -/
theorem claims_disclosed {sdSet : List String} {disclosures : List Disclosure}
    {claims : List (String × Json)} {seen : List String}
    (loop : disclosures.foldlM (verifyDisclosure P H sdSet) ([], []) = .ok (claims, seen)) :
    ∀ claim ∈ claims, ∃ disclosure ∈ disclosures, digest H disclosure.2 ∈ sdSet ∧
      Discloses P disclosure.2 claim.1 claim.2 := by
  refine foldlM_invariant
    (fun done acc => ∀ claim ∈ acc.1, ∃ disclosure ∈ done,
      digest H disclosure.2 ∈ sdSet ∧ Discloses P disclosure.2 claim.1 claim.2) ?_ ?_ loop
  · simp
  · rintro done acc disclosure acc' round inv claim member
    obtain ⟨listed, _, name, value, discloses, rfl⟩ := verifyDisclosure_eq_ok.mp round
    rcases Json.mem_insertField member with rfl | old
    · exact ⟨disclosure, by simp, listed, discloses⟩
    · obtain ⟨earlier, past, facts⟩ := inv claim old
      exact ⟨earlier, by simp [past], facts⟩

/-! ## Key binding -/

theorem checkRequested_eq_ok {want : Option String} {payload : Json} {field message : String}
    {u : Unit} : checkRequested want payload field message = .ok u ↔
      ∀ text, want = some text → payload.getStr field = some text := by
  cases want <;> simp [checkRequested]

/-- The token binds a holder to the bytes `pre`. -/
structure KeyBinding (P : Primitives) (H : Hashes) (vp : VerifyParams) (jwk : Json)
    (pre kb : String) (payload : Json) : Prop where
  signed : ∃ holder header, jwkToPubkey P jwk = .ok holder ∧ JwsValid P holder kb header payload ∧
    header.getStr "typ" = some kbTyp
  aud : ∀ text, vp.aud = some text → payload.getStr "aud" = some text
  nonce : ∀ text, vp.nonce = some text → payload.getStr "nonce" = some text
  sdHash : payload.getStr "sd_hash" = some (b64 (H.sha256 (asBytes pre)).toList)

theorem verifyKeyBinding_eq_ok {pre kb : String} {jwk : Json} {vp : VerifyParams} {u : Unit} :
    verifyKeyBinding P H (pre ++ kb) kb jwk vp = .ok u ↔
      ∃ payload, KeyBinding P H vp jwk pre kb payload := by
  simp only [verifyKeyBinding, bind_eq_ok, ensure_eq_ok, checkRequested_eq_ok, cutTail_append,
    exists_const]
  constructor
  · rintro ⟨holder, key, ⟨header, payload⟩, token, typ, aud, nonce, sdHash⟩
    exact ⟨payload, ⟨holder, header, key, jwsVerifyWith_eq_ok.mp token, typ⟩, aud, nonce, sdHash⟩
  · rintro ⟨payload, ⟨holder, header, key, token, typ⟩, aud, nonce, sdHash⟩
    exact ⟨holder, key, (header, payload), jwsVerifyWith_eq_ok.mpr token, typ, aud, nonce, sdHash⟩

/-! ## Accepted presentations -/

/-- Every check of `verify`, on the parts of the presentation. -/
structure Accepted (P : Primitives) (H : Hashes) (presentation : String) (issuer : PublicKey)
    (vp : VerifyParams) (v : Verified) (jwt : String) (segments : List String) (last : String)
    (header payload : Json) : Prop where
  framed : splitChar '~' presentation = jwt :: segments ++ [last]
  issuerKey : issuer.algorithm = .ed25519
  signed : JwsValid P issuer jwt header payload
  typ : header.getStr "typ" = some jwtTyp ∨ header.getStr "typ" = some jwtTypLegacy
  sdAlg : payload.getStr "_sd_alg" = some sdAlg
  disclosed : ∃ sdSet disclosures seen, sdDigests payload = some sdSet ∧
    (segments.filter (· ≠ "")).mapM (parseDisclosure P) = .ok disclosures ∧
    disclosures.foldlM (verifyDisclosure P H sdSet) ([], []) = .ok (v.claims, seen)
  iss : payload.getStr "iss" = some v.iss
  vct : payload.getStr "vct" = some v.vct
  cnf : cnfJwk payload = some v.cnfJwk
  status : v.status = statusRef payload
  owlRoot : v.owlRoot = payload.getStr "owl_root"
  keyBound : v.keyBound = true ↔ last ≠ ""
  required : vp.requireKb = true → v.keyBound = true
  bound : v.keyBound = true → ∃ kbPayload,
    KeyBinding P H vp v.cnfJwk (joinSegments '~' (jwt :: segments) "") last kbPayload

theorem presentation_eq {presentation jwt last : String} {segments : List String}
    (framed : splitChar '~' presentation = jwt :: segments ++ [last]) :
    presentation = joinSegments '~' (jwt :: segments) "" ++ last := by
  rw [← joinSegments_of_splitChar framed, ← joinSegments_eq_append]

theorem verify_returns {presentation : String} {issuer : PublicKey} {vp : VerifyParams}
    {v : Verified} (returns : verify P H presentation issuer vp = .ok v) :
    ∃ jwt segments last header payload,
      Accepted P H presentation issuer vp v jwt segments last header payload := by
  simp only [verify, bind_eq_ok, ensure_eq_ok, okOr_eq_ok, pure_eq_ok, exists_const] at returns
  obtain ⟨⟨vc, kb⟩, parsed, ⟨header, payload⟩, token, typ, sdAlg, sdSet, hsd, ⟨claims, seen⟩, loop,
    iss, hiss, vct, hvct, jwk, hjwk, keyBound, binding, rfl⟩ := returns
  obtain ⟨segments, last, framed, hkb, disclosures⟩ := parse_eq_ok.mp parsed
  simp only [jwsVerify, bind_eq_ok, ed25519Only_eq_ok, exists_const] at token
  obtain ⟨issuerKey, token⟩ := token
  refine ⟨vc.jwt, segments, last, header, payload, ?_⟩
  have bindingFacts : (keyBound = true ↔ last ≠ "") ∧
      (vp.requireKb = true → keyBound = true) ∧
      (keyBound = true → ∃ kbPayload,
        KeyBinding P H vp jwk (joinSegments '~' (vc.jwt :: segments) "") last kbPayload) := by
    by_cases absent : last = ""
    · simp only [absent, if_true] at hkb
      subst hkb
      simp only [verifyKb, bind_eq_ok, ensure_eq_ok, pure_eq_ok, exists_const] at binding
      obtain ⟨notRequired, rfl⟩ := binding
      exact ⟨by simp [absent], by simp [notRequired], by simp⟩
    · simp only [absent, if_false] at hkb
      subst hkb
      simp only [verifyKb, bind_eq_ok, pure_eq_ok] at binding
      obtain ⟨_, checked, rfl⟩ := binding
      rw [presentation_eq framed, verifyKeyBinding_eq_ok] at checked
      exact ⟨by simp [absent], by simp, fun _ => checked⟩
  obtain ⟨bound, required, kbFacts⟩ := bindingFacts
  exact ⟨framed, issuerKey, jwsVerifyWith_eq_ok.mp token, typ, sdAlg,
    ⟨sdSet, vc.disclosures, seen, hsd, disclosures, loop⟩, hiss, hvct, hjwk, rfl, rfl, bound,
    required, kbFacts⟩

/-- The checks are also enough. -/
theorem verify_of_accepted {presentation : String} {issuer : PublicKey} {vp : VerifyParams}
    {v : Verified} {jwt last : String} {segments : List String} {header payload : Json}
    (accepted : Accepted P H presentation issuer vp v jwt segments last header payload) :
    verify P H presentation issuer vp = .ok v := by
  obtain ⟨sdSet, disclosures, seen, hsd, parsed, loop⟩ := accepted.disclosed
  simp only [verify, bind_eq_ok, ensure_eq_ok, okOr_eq_ok, pure_eq_ok, exists_const]
  refine ⟨(⟨jwt, disclosures⟩, if last = "" then none else some last),
    parse_eq_ok.mpr ⟨segments, last, accepted.framed, rfl, parsed⟩, (header, payload), ?_,
    accepted.typ, accepted.sdAlg, sdSet, hsd, (v.claims, seen), loop, v.iss, accepted.iss, v.vct,
    accepted.vct, v.cnfJwk, accepted.cnf, v.keyBound, ?_, ?_⟩
  · simp only [jwsVerify, bind_eq_ok, ed25519Only_eq_ok, exists_const]
    exact ⟨accepted.issuerKey, jwsVerifyWith_eq_ok.mpr accepted.signed⟩
  · by_cases absent : last = ""
    · have unbound : v.keyBound = false := by
        have := accepted.keyBound
        simpa [absent] using this
      simp only [absent, if_true, verifyKb, bind_eq_ok, ensure_eq_ok, pure_eq_ok, exists_const]
      refine ⟨?_, unbound.symm⟩
      have := accepted.required
      simpa [unbound] using this
    · have isBound : v.keyBound = true := accepted.keyBound.mpr absent
      simp only [absent, if_false, verifyKb, bind_eq_ok, pure_eq_ok]
      refine ⟨(), ?_, isBound.symm⟩
      rw [presentation_eq accepted.framed, verifyKeyBinding_eq_ok]
      exact accepted.bound isBound
  · rw [← accepted.status, ← accepted.owlRoot]

/-! ## What is read before verification -/

section

variable {presentation : String} {issuer : PublicKey} {vp : VerifyParams} {v : Verified}
  {jwt last : String} {segments : List String} {header payload : Json}

theorem Accepted.issuerJwt_eq
    (accepted : Accepted P H presentation issuer vp v jwt segments last header payload) :
    issuerJwt presentation = jwt := by
  simp [issuerJwt, accepted.framed]

/-- The payload read without verification is the signed one. -/
theorem Accepted.peekPayload_eq
    (accepted : Accepted P H presentation issuer vp v jwt segments last header payload) :
    peekPayload P (issuerJwt presentation) = some payload := by
  obtain ⟨⟨head, body, sig, _, bodyBytes, _, parts, _, _, hbody, hpayload, _⟩, _⟩ :=
    accepted.signed
  simp [peekPayload, accepted.issuerJwt_eq, parts, hbody, hpayload, Except.toOption]

theorem Accepted.owlRootHex_eq
    (accepted : Accepted P H presentation issuer vp v jwt segments last header payload) :
    owlRootHex P presentation = v.owlRoot := by
  simp [owlRootHex, accepted.peekPayload_eq, accepted.owlRoot]

theorem Accepted.peekIss_eq
    (accepted : Accepted P H presentation issuer vp v jwt segments last header payload) :
    peekIss P presentation = .ok v.iss := by
  obtain ⟨⟨head, body, sig, _, bodyBytes, _, parts, _, _, hbody, hpayload, _⟩, _⟩ :=
    accepted.signed
  simp only [peekIss, accepted.issuerJwt_eq, parts, bind_eq_ok, okOr_eq_ok, decode64_eq_ok,
    parseJson_eq_ok]
  exact ⟨bodyBytes, hbody, payload, hpayload, accepted.iss⟩

/-- A base64url id is never taken for hex. -/
theorem credentialIdHex_b64 (digest : Bytes32) :
    credentialIdHex P (b64 digest.toList) = .ok (hexEncode digest.toList) := by
  have ascii (bs : Bytes) : ∀ c ∈ b64EncodeChars bs, c.toNat < 128 := fun c =>
    forall_mem_b64EncodeChars (p := fun c => c.toNat < 128) b64Char_ascii
  have length : (asBytes (b64 digest.toList)).length = 43 := by
    rw [b64, asBytes_length_of_ascii (ascii _), b64EncodeChars_length]
    simp
  rw [credentialIdHex, if_neg (by omega)]
  simp only [bind_eq_ok, decode64_eq_ok, ensure_eq_ok, pure_eq_ok, exists_const, unb64_b64]
  exact ⟨_, rfl, by simp, rfl⟩

/-- The id of a credential decodes to its hash. -/
theorem credentialIdHex_credentialId (sdJwt : String) :
    credentialIdHex P (credentialId H sdJwt) =
      .ok (hexEncode (H.sha256 (asBytes (issuerJwt sdJwt))).toList) := by
  rw [credentialId, credentialIdHex_b64]

end

/-! ## Main result -/

/-- Any other framing of the same key-binding token is rejected, whatever the issuer key
    and the verification parameters, unless its bytes collide with the accepted ones. -/
theorem reframing_rejected {presentation : String} {issuer : PublicKey} {vp : VerifyParams}
    {v : Verified} {jwt last : String} {segments : List String} {header payload : Json}
    (accepted : Accepted P H presentation issuer vp v jwt segments last header payload)
    (isBound : v.keyBound = true) {lead : List String} (separate : ∀ s ∈ lead, '~' ∉ s.toList)
    (different : lead ≠ jwt :: segments)
    (free : H.sha256 (asBytes (joinSegments '~' lead "")) =
        H.sha256 (asBytes (joinSegments '~' (jwt :: segments) "")) →
      joinSegments '~' lead "" = joinSegments '~' (jwt :: segments) "")
    (issuer' : PublicKey) (vp' : VerifyParams) :
    ∃ error, verify P H (joinSegments '~' lead last) issuer' vp' = .error error := by
  have lastSeparate : '~' ∉ last.toList := by
    apply notMem_of_mem_splitChar (s := presentation)
    simp [accepted.framed]
  cases outcome : verify P H (joinSegments '~' lead last) issuer' vp' with
  | error e => exact ⟨e, rfl⟩
  | ok v' =>
    exfalso
    obtain ⟨jwt', segments', last', header', payload', accepted'⟩ := verify_returns outcome
    have frames := accepted'.framed
    rw [splitChar_joinSegments separate lastSeparate] at frames
    obtain ⟨rfl, lastEq⟩ := List.append_inj' frames rfl
    obtain rfl : last = last' := by simpa using lastEq
    have isBound' : v'.keyBound = true := accepted'.keyBound.mpr (accepted.keyBound.mp isBound)
    obtain ⟨kbPayload, ⟨holder, kbHeader, _, token, _⟩, _, _, sdHash⟩ := accepted.bound isBound
    obtain ⟨kbPayload', ⟨holder', kbHeader', _, token', _⟩, _, _, sdHash'⟩ :=
      accepted'.bound isBound'
    -- Both framings verify the same token, so its signed `sd_hash` covers both.
    obtain rfl := token.payload_unique token'
    rw [sdHash, Option.some.injEq, b64_inj, Vector.toList_inj] at sdHash'
    have pre := free sdHash'.symm
    have original : ∀ s ∈ jwt :: segments, '~' ∉ s.toList := by
      intro s member
      apply notMem_of_mem_splitChar (s := presentation)
      rw [accepted.framed]
      exact List.mem_append_left _ member
    exact different (joinSegments_injective separate (by simp) original (by simp) pre).1

/-- Soundness of `verify`, for every presentation, issuer key and parameters. -/
theorem sd_jwt_verify_sound (P : Primitives) (H : Hashes) {presentation : String}
    {issuer : PublicKey} {vp : VerifyParams} {v : Verified}
    (returns : verify P H presentation issuer vp = .ok v) :
    ∃ jwt segments last header payload,
      splitChar '~' presentation = jwt :: segments ++ [last] ∧
      -- The issuer JWS is valid under the issuer key.
      issuer.algorithm = .ed25519 ∧ JwsValid P issuer jwt header payload ∧
      -- Every claim is a presented disclosure whose digest the issuer signed.
      (∃ sdSet, sdDigests payload = some sdSet ∧ ∀ claim ∈ v.claims, ∃ d ∈ segments,
        digest H d ∈ sdSet ∧ Discloses P d claim.1 claim.2) ∧
      (vp.requireKb = true → v.keyBound = true) ∧
      (v.keyBound = true →
        -- The last segment is signed by the signed `cnf` key over all bytes before it.
        (∃ jwk holder kbHeader kbPayload, cnfJwk payload = some jwk ∧
          jwkToPubkey P jwk = .ok holder ∧ JwsValid P holder last kbHeader kbPayload ∧
          presentation = joinSegments '~' (jwt :: segments) "" ++ last ∧
          kbPayload.getStr "sd_hash" =
            some (b64 (H.sha256 (asBytes (joinSegments '~' (jwt :: segments) ""))).toList) ∧
          (∀ aud, vp.aud = some aud → kbPayload.getStr "aud" = some aud) ∧
          (∀ nonce, vp.nonce = some nonce → kbPayload.getStr "nonce" = some nonce)) ∧
        -- No other list of segments is accepted before the same last segment.
        ∀ lead, (∀ s ∈ lead, '~' ∉ s.toList) → lead ≠ jwt :: segments →
          (H.sha256 (asBytes (joinSegments '~' lead "")) =
              H.sha256 (asBytes (joinSegments '~' (jwt :: segments) "")) →
            joinSegments '~' lead "" = joinSegments '~' (jwt :: segments) "") →
          ∀ issuer' vp', ∃ error,
            verify P H (joinSegments '~' lead last) issuer' vp' = .error error) := by
  obtain ⟨jwt, segments, last, header, payload, accepted⟩ := verify_returns returns
  refine ⟨jwt, segments, last, header, payload, accepted.framed, accepted.issuerKey,
    accepted.signed, ?_, accepted.required, ?_⟩
  · obtain ⟨sdSet, disclosures, seen, hsd, parsed, loop⟩ := accepted.disclosed
    refine ⟨sdSet, hsd, fun claim member => ?_⟩
    obtain ⟨disclosure, listed, facts⟩ := claims_disclosed loop claim member
    exact ⟨disclosure.2, mem_segments_of_parsed parsed listed, facts⟩
  · intro isBound
    refine ⟨?_, fun lead separate different free =>
      reframing_rejected accepted isBound separate different free⟩
    obtain ⟨kbPayload, ⟨holder, kbHeader, key, token, _⟩, aud, nonce, sdHash⟩ :=
      accepted.bound isBound
    exact ⟨v.cnfJwk, holder, kbHeader, kbPayload, accepted.cnf, key, token,
      presentation_eq accepted.framed, sdHash, aud, nonce⟩

end OwlId.ProofSystem
