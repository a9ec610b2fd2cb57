import Mathlib
import OwlId.ProofSystem.SdJwtRoundTrip

/-! # Credential identifiers

A credential is revoked by its identifier, the hash of its issuer JWT.  The
identifier does not depend on what a presentation discloses, has one hex spelling,
and cannot be changed by respelling the JWT: the segments of an accepted JWT are
decoded by a canonical decoder, so a second JWT with the same signing input could
only differ in the bytes of its signature.
-/

namespace OwlId.ProofSystem

open OwlId.Lib

variable {P : Primitives} {H : Hashes}

/-! ## Presentations keep the identifier -/

/-- Framing a JWT with any segments leaves the text before the first `~` alone. -/
theorem issuerJwt_joinSegments (jwt : String) (segments : List String) (last : String) :
    issuerJwt (joinSegments '~' (jwt :: segments) last) = issuerJwt (jwt.push '~') := by
  have head : ∀ tail : List Char,
      ((jwt.toList ++ '~' :: tail).splitOn '~').head? = ((jwt.toList ++ ['~']).splitOn '~').head? := by
    intro tail
    induction jwt.toList with
    | nil => simp [List.splitOn_cons_eq_if_modifyHead]
    | cons c rest ih =>
      by_cases tilde : c = '~'
      · simp [List.splitOn_cons_eq_if_modifyHead, tilde]
      · simp [List.splitOn_cons_eq_if_modifyHead, tilde, ih]
  have list : (joinSegments '~' (jwt :: segments) last).toList =
      jwt.toList ++ '~' :: (joinSegments '~' segments last).toList := by
    simp [joinSegments]
  have short : (jwt.push '~').toList = jwt.toList ++ ['~'] := by simp
  simp only [issuerJwt, splitChar, list, short, List.headD_eq_head?_getD, List.head?_map, head]
  have nonempty := List.splitOn_ne_nil '~' (jwt.toList ++ ['~'])
  cases parts : (jwt.toList ++ ['~']).splitOn '~' with
  | nil => exact absurd parts nonempty
  | cons first others => rfl

theorem credentialId_serialize (vc : SdJwtVc) :
    credentialId H vc.serialize = credentialId H (vc.jwt.push '~') := by
  rw [credentialId, credentialId, SdJwtVc.serialize, issuerJwt_joinSegments]

/-- A presentation is the credential's JWT, framed with some of its disclosures. -/
theorem present_framed {vc : SdJwtVc} {disclose : List String} {kb : Option KbParams} {s : String}
    (returns : present P H vc disclose kb = .ok s) :
    ∃ segments last, s = joinSegments '~' (vc.jwt :: segments) last := by
  simp only [present, bind_eq_ok] at returns
  obtain ⟨segments, _, framed⟩ := returns
  cases kb with
  | none =>
    simp only [pure_eq_ok] at framed
    exact ⟨segments, "", framed.symm⟩
  | some kb =>
    simp only [bind_eq_ok, pure_eq_ok] at framed
    obtain ⟨token, _, rfl⟩ := framed
    exact ⟨segments, token, (joinSegments_eq_append _ _ _).symm⟩

theorem credentialId_present {vc : SdJwtVc} {disclose : List String} {kb : Option KbParams}
    {s : String} (returns : present P H vc disclose kb = .ok s) :
    credentialId H s = credentialId H vc.serialize := by
  obtain ⟨segments, last, rfl⟩ := present_framed returns
  rw [credentialId_serialize, credentialId, credentialId, issuerJwt_joinSegments]

/-! ## One hex spelling -/

/-- Decoding and encoding again lowers the letters. -/
theorem hexEncodeChars_of_decode {cs : List Char} {bs : Bytes}
    (decoded : hexDecodeChars cs = some bs) : hexEncodeChars bs = cs.map asciiLower := by
  induction cs using hexDecodeChars.induct generalizing bs with
  | case1 => simp_all [hexDecodeChars, hexEncodeChars]
  | case2 c => simp [hexDecodeChars] at decoded
  | case3 a b rest ih =>
    simp only [hexDecodeChars, Option.bind_eq_bind, Option.bind_eq_some_iff] at decoded
    obtain ⟨x, hx, y, hy, tail, htail, last⟩ := decoded
    obtain rfl := Option.some.inj last
    obtain ⟨_, smallX⟩ := hexVal_bounds hx
    obtain ⟨_, smallY⟩ := hexVal_bounds hy
    have high : (16 * x + y) % 256 / 16 = x := by omega
    have low : (16 * x + y) % 256 % 16 = y := by omega
    simp only [hexEncodeChars, UInt8.toNat_ofNat', List.map_cons, ← hexDigit_hexVal hx,
      ← hexDigit_hexVal hy, ih htail,
      Nat.reducePow, high, low]

theorem isAsciiHexdigit_of_decode {cs : List Char} {bs : Bytes}
    (decoded : hexDecodeChars cs = some bs) : cs.all isAsciiHexdigit = true := by
  induction cs using hexDecodeChars.induct generalizing bs with
  | case1 => rfl
  | case2 c => simp [hexDecodeChars] at decoded
  | case3 a b rest ih =>
    simp only [hexDecodeChars, Option.bind_eq_bind, Option.bind_eq_some_iff] at decoded
    obtain ⟨x, hx, y, hy, tail, htail, _⟩ := decoded
    simp [isAsciiHexdigit, hx, hy, ih htail]

theorem hexdigit_ascii {c : Char} (digit : isAsciiHexdigit c = true) : c.toNat < 128 := by
  obtain ⟨n, value⟩ := Option.isSome_iff_exists.mp digit
  exact (hexVal_bounds value).1

/-- An even number of hex digits decodes. -/
theorem exists_hexDecodeChars {cs : List Char} {n : Nat} (even : cs.length = 2 * n)
    (digits : cs.all isAsciiHexdigit = true) : ∃ bs, hexDecodeChars cs = some bs := by
  induction cs using hexDecodeChars.induct generalizing n with
  | case1 => exact ⟨[], rfl⟩
  | case2 c =>
    simp only [List.length_singleton] at even
    omega
  | case3 a b rest ih =>
    simp only [List.all_cons, Bool.and_eq_true, isAsciiHexdigit, Option.isSome_iff_exists] at digits
    obtain ⟨⟨x, hx⟩, ⟨y, hy⟩, others⟩ := digits
    simp only [List.length_cons] at even
    obtain ⟨tail, htail⟩ := @ih (n - 1) (by omega) others
    exact ⟨_, by simp [hexDecodeChars, hx, hy, htail]; rfl⟩

/-- A hex id, in any case, is normalised to the encoder's spelling. -/
theorem credentialIdHex_of_hex {cid : String} {digest : Bytes32}
    (decoded : hexDecode cid = some digest.toList) :
    credentialIdHex P cid = .ok (hexEncode digest.toList) := by
  have digits := isAsciiHexdigit_of_decode decoded
  have length : (asBytes cid).length = 64 := by
    have ascii : ∀ c ∈ cid.toList, c.toNat < 128 := fun c member =>
      hexdigit_ascii (List.all_eq_true.mp digits c member)
    have bytes := asBytes_length_of_ascii ascii
    rw [String.ofList_toList, hexDecodeChars_length decoded] at bytes
    simpa using bytes
  rw [credentialIdHex, if_pos ⟨length, digits⟩, toAsciiLowercase, hexEncode,
    hexEncodeChars_of_decode decoded]

/-- Every normalised id is the encoder's spelling of some digest. -/
theorem credentialIdHex_returns {cid hex : String} (returns : credentialIdHex P cid = .ok hex) :
    ∃ digest : Bytes32, hex = hexEncode digest.toList := by
  unfold credentialIdHex at returns
  split at returns
  · rename_i spelled
    obtain ⟨length, digits⟩ := spelled
    have ascii : ∀ c ∈ cid.toList, c.toNat < 128 := fun c member =>
      hexdigit_ascii (List.all_eq_true.mp digits c member)
    have chars := asBytes_length_of_ascii ascii
    rw [String.ofList_toList, length] at chars
    obtain ⟨bytes, decoded⟩ := exists_hexDecodeChars (n := 32) (by omega) digits
    have count := hexDecodeChars_length decoded
    refine ⟨⟨bytes.toArray, by simp; omega⟩, ?_⟩
    obtain rfl := Except.ok.inj returns
    simp [toAsciiLowercase, hexEncode, hexEncodeChars_of_decode decoded, Vector.toList]
  · simp only [bind_eq_ok, ensure_eq_ok, pure_eq_ok, exists_const] at returns
    obtain ⟨bytes, _, count, rfl⟩ := returns
    exact ⟨⟨bytes.toArray, by simpa using count⟩, by simp [Vector.toList]⟩

theorem credentialIdHex_idempotent {cid hex : String} (returns : credentialIdHex P cid = .ok hex) :
    credentialIdHex P hex = .ok hex := by
  obtain ⟨digest, rfl⟩ := credentialIdHex_returns returns
  exact credentialIdHex_of_hex (hexDecode_hexEncode _)

/-! ## No second spelling of an accepted credential -/

/-- The text the signature of an issuer JWT covers. -/
def issuerSigningInput (sdJwt : String) : Option String :=
  match splitChar '.' (issuerJwt sdJwt) with
  | [head, body, _] => some (signingInput head body)
  | _ => none

/-- An accepted issuer JWT is its signing input and the canonical text of its signature. -/
theorem accepted_jwt_eq {presentation : String} {issuer : PublicKey} {vp : VerifyParams}
    {v : Verified} (returns : verify P H presentation issuer vp = .ok v) :
    ∃ input sig, issuerSigningInput presentation = some input ∧
      issuer.verify P (asBytes input) ⟨issuer.algorithm, sig⟩ = .ok () ∧
      issuerJwt presentation = input ++ "." ++ b64 sig := by
  obtain ⟨jwt, segments, last, header, payload, accepted⟩ := verify_returns returns
  obtain ⟨⟨head, body, sig, _, _, sigBytes, parts, _, _, _, _, hsig, verified⟩, _⟩ := accepted.signed
  refine ⟨signingInput head body, sigBytes, ?_, ?_, ?_⟩
  · simp [issuerSigningInput, accepted.issuerJwt_eq, parts]
  · exact PublicKey.verify_eq_ok.mpr ⟨rfl, verified⟩
  · have framed : joinSegments '.' [head, body] sig = jwt := joinSegments_of_splitChar parts
    rw [accepted.issuerJwt_eq, ← framed, b64_of_unb64 hsig]
    apply String.toList_inj.mp
    simp [joinSegments, signingInput]

/-- The issuer key signs this text in one way only: the signatures it accepts on it are
    the one its holder makes. -/
def StronglyUnforgeable (P : Primitives) (issuer : PublicKey) (input : String) : Prop :=
  ∃ kp : KeyPair, kp.publicKey P = issuer ∧
    ∀ sig, issuer.verify P (asBytes input) sig = .ok () → sig = kp.sign P (asBytes input)

theorem credentialId_eq_of_signingInput {s s' input : String} {issuer : PublicKey}
    {vp vp' : VerifyParams} {v v' : Verified} (returns : verify P H s issuer vp = .ok v)
    (returns' : verify P H s' issuer vp' = .ok v') (signed : issuerSigningInput s = some input)
    (signed' : issuerSigningInput s' = some input)
    (unforgeable : StronglyUnforgeable P issuer input) : credentialId H s = credentialId H s' := by
  obtain ⟨_, sig, hinput, verified, jwt⟩ := accepted_jwt_eq returns
  obtain ⟨_, sig', hinput', verified', jwt'⟩ := accepted_jwt_eq returns'
  obtain rfl := Option.some.inj (signed.symm.trans hinput)
  obtain rfl := Option.some.inj (signed'.symm.trans hinput')
  obtain ⟨kp, _, only⟩ := unforgeable
  have same := (only _ verified).trans (only _ verified').symm
  have bytes : sig = sig' := congrArg Signature.bytes same
  rw [credentialId, credentialId, jwt, jwt', bytes]

/-! ## Main result -/

/-- The identifier survives presentation, has one normal form, and an accepted
    credential has no second one. -/
theorem credential_id_non_malleable (P : Primitives) (H : Hashes) :
    (∀ claims salts p vc disclose kb s, issue P H claims salts p = .ok vc →
      present P H vc disclose kb = .ok s →
      credentialId H vc.serialize = credentialId H s) ∧
    (∀ cid hex, credentialIdHex P cid = .ok hex → credentialIdHex P hex = .ok hex) ∧
    (∀ (digest : Bytes32) (hex : String), hexDecode hex = some digest.toList →
      credentialIdHex P (b64 digest.toList) = .ok (hexEncode digest.toList) ∧
      credentialIdHex P hex = .ok (hexEncode digest.toList)) ∧
    (∀ s s' input issuer vp vp' v v', verify P H s issuer vp = .ok v →
      verify P H s' issuer vp' = .ok v' → issuerSigningInput s = some input →
      issuerSigningInput s' = some input → StronglyUnforgeable P issuer input →
      credentialId H s = credentialId H s') := by
  refine ⟨?_, ?_, ?_, ?_⟩
  · intro claims salts p vc disclose kb s _ presented
    exact (credentialId_present presented).symm
  · intro cid hex returns
    exact credentialIdHex_idempotent returns
  · intro digest hex decoded
    exact ⟨credentialIdHex_b64 digest, credentialIdHex_of_hex decoded⟩
  · intro s s' input issuer vp vp' v v' returns returns' signed signed' unforgeable
    exact credentialId_eq_of_signingInput returns returns' signed signed' unforgeable

theorem samplePrimitives_unforgeable (known : List Json) (input : String) :
    StronglyUnforgeable (samplePrimitives known)
      (sampleIssue.issuer.publicKey (samplePrimitives known)) input := by
  refine ⟨sampleIssue.issuer, rfl, ?_⟩
  intro sig verified
  obtain ⟨algorithm, bytes⟩ := PublicKey.verify_eq_ok.mp verified
  obtain ⟨sigAlgorithm, sigBytes⟩ := sig
  simp only [samplePrimitives, decide_eq_true_eq] at bytes
  simp only [KeyPair.sign, samplePrimitives, Signature.mk.injEq]
  exact ⟨algorithm.symm, bytes⟩

/-- Presenting nothing and presenting a name, with and without key binding. -/
theorem credential_id_non_malleable_at_sample :
    ∃ vc s s' v v', issue (samplePrimitives sampleKnown) sampleHashes sampleClaims sampleSalts
        sampleIssue = .ok vc ∧
      present (samplePrimitives sampleKnown) sampleHashes vc [] none = .ok s ∧
      present (samplePrimitives sampleKnown) sampleHashes vc ["given_name"] (some sampleKb) =
        .ok s' ∧
      verify (samplePrimitives sampleKnown) sampleHashes s
        (sampleIssue.issuer.publicKey (samplePrimitives sampleKnown)) ⟨false, none, none⟩ = .ok v ∧
      verify (samplePrimitives sampleKnown) sampleHashes s'
        (sampleIssue.issuer.publicKey (samplePrimitives sampleKnown))
        ⟨true, some sampleKb.aud, some sampleKb.nonce⟩ = .ok v' ∧
      credentialId sampleHashes vc.serialize = credentialId sampleHashes s ∧
      credentialId sampleHashes s = credentialId sampleHashes s' ∧
      credentialIdHex (samplePrimitives sampleKnown)
        "ABCDEF0123456789ABCDEF0123456789ABCDEF0123456789ABCDEF0123456789" =
        .ok "abcdef0123456789abcdef0123456789abcdef0123456789abcdef0123456789" := by
  obtain ⟨owlRoot, jwk, _, root, _, decoded, rfl, payload, issued⟩ :=
    issue_returns (samplePrimitives sampleKnown) sampleHashes sampleClaims sampleSalts
      (p := sampleIssue) rfl sampleHolder_valid
  obtain ⟨s', v', _, _, shown', accepted', _⟩ :=
    presented_kb_accepted (samplePrimitives_scheme _) rfl sample_faithful decoded payload
      (List.nodup_singleton "given_name") sampleNames_subset rfl sampleKb rfl rfl
      sampleKb_headerRoundTrips (sampleKnown_roundTrips (sample_kbPayload payload)) true
  obtain ⟨s, v, shown, verified, _⟩ :=
    presented_verifies (samplePrimitives_scheme _) rfl sample_faithful decoded payload
      List.nodup_nil (List.nil_subset _) rfl none none
  have verified' := verify_of_accepted accepted'
  obtain ⟨input, _, signed, _⟩ := accepted_jwt_eq verified
  have signed' : issuerSigningInput s' = some input := by
    obtain ⟨_, _, rfl⟩ := present_framed shown
    obtain ⟨_, _, rfl⟩ := present_framed shown'
    rw [issuerSigningInput, issuerJwt_joinSegments] at signed ⊢
    exact signed
  obtain ⟨same, _, normal, only⟩ :=
    credential_id_non_malleable (samplePrimitives sampleKnown) sampleHashes
  refine ⟨_, s, s', v, v', issued, shown, shown', verified, verified',
    same _ _ _ _ _ _ _ issued shown,
    only _ _ input _ _ _ _ _ verified verified' signed signed' (samplePrimitives_unforgeable _ _),
    ?_⟩
  have hex := (normal (Vector.ofFn fun i => #[0xab, 0xcd, 0xef, 0x01, 0x23, 0x45, 0x67, 0x89].getD
    (i.val % 8) 0) "ABCDEF0123456789ABCDEF0123456789ABCDEF0123456789ABCDEF0123456789"
    (by decide)).2
  rw [hex]
  decide

end OwlId.ProofSystem
