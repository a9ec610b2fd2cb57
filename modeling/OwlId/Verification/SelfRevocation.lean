import Mathlib
import OwlId.Lib.UnicodeCase
import OwlId.Verification.RevocationMirror

/-! # Self-revocation

A holder revokes its own credential by presenting it with a key-binding token over
a fresh challenge and the self-revoke audience.  A presentation that is rejected
counts as already revoked when the text of the rejection contains "revoked"; that
text is the answer of a revocation check, or one of many others, some of which
quote the issuer's identifier or an answer from outside.
`self_revocation_truthful_iff` says when the endpoint tells the truth all the same.
-/

namespace OwlId.Verification

open OwlId.Lib OwlId.ProofSystem

/-! ## The endpoint -/

def selfRevokeAudience : String := "owlid:revocation:self"

structure RevokeOwnCredentialRequest where
  presentation : String
  challenge : String
  reason : Option String

structure RevokeOwnCredentialResponse where
  revoked : Bool
  credentialId : String
  alreadyRevoked : Bool

/-- `err.to_lowercase().contains("revoked")`. -/
@[irreducible] def mentionsRevoked (err : String) : Bool :=
  decide ("revoked".toList <:+: (toLowerCase err).toList)

section

variable (W : World)

/-- What follows a valid proof of possession: the chain first, then the mirror. -/
def revokeVerified (mirrors : Mirrors) (request : RevokeOwnCredentialRequest)
    (outcome : PresentationOutcome) : Except ApiError RevokeOwnCredentialResponse × Mirrors :=
  match outcome.credentialId, outcome.issuerPublicKey with
  | none, _ => (.error (.internal "verified presentation missing credential_id"), mirrors)
  | some _, none => (.error (.internal "verified presentation missing issuer key"), mirrors)
  | some credId, some issuerHex =>
    let reason := request.reason.getD "holder self-revocation"
    match sidecarWrite W credId (.revoke · issuerHex reason) with
    | .error e => (.error (.internal ("Chain revoke failed: " ++ e)), mirrors)
    | .ok () =>
      (.ok ⟨true, credId, false⟩,
        { mirrors with
          revocations := mirrors.revocations.revoke credId issuerHex (some reason) none })

def revokePresented (mirrors : Mirrors) (request : RevokeOwnCredentialRequest) :
    Except ApiError RevokeOwnCredentialResponse × Mirrors :=
  match verifyOnePresentation W mirrors request.challenge (some selfRevokeAudience)
      request.presentation with
  | (.error e, mirrors) => (.error e, mirrors)
  | (.ok outcome, mirrors) =>
    if outcome.response.valid then revokeVerified W mirrors request outcome
    else
      let err := outcome.response.error.getD "rejected"
      -- already revoked is an idempotent success
      if mentionsRevoked err then
        (.ok ⟨true, credentialId W.hashes request.presentation, true⟩, mirrors)
      else (.error (.invalidInput ("Self-revocation proof rejected: " ++ err)), mirrors)

def revokeOwnCredential (svc : Service) (request : RevokeOwnCredentialRequest) :
    Except ApiError RevokeOwnCredentialResponse × Service :=
  match W.challengeQuery with
  | .error e => (.error (.database e), svc)
  | .ok () =>
    match svc.challenges.validateServerChallenge W.now request.challenge with
    | (_, false) =>
      (.error (.invalidInput
        "Invalid or expired challenge. Get a fresh one from GET /verify/challenge."), svc)
    | (challenges, true) =>
      let (answer, mirrors) := revokePresented W svc.mirrors request
      (answer, { svc with challenges := challenges, mirrors := mirrors })

/-! ## What a truthful answer is -/

/-- Whether the status list the credential refers to, read under the key its issuer resolves to,
    has it revoked or suspended. -/
def listedRevoked (presentation : String) : Bool :=
  match peekIss W.primitives presentation with
  | .error _ => false
  | .ok iss =>
    match W.resolve iss with
    | .error _ => false
    | .ok resolved =>
      match PublicKey.fromHex W.primitives resolved.keyHex with
      | .error _ => false
      | .ok issuerPk =>
        statusRevoked W issuerPk
          ((peekPayload W.primitives (issuerJwt presentation)).bind statusRef)

/-- The credential is recorded as revoked or suspended: in the cache, on chain or in its status
    list. -/
def Recorded (mirrors : Mirrors) (presentation : String) : Prop :=
  mirrors.revocations.cache.isRevoked (credentialId W.hashes presentation) = true ∨
    isCredentialRevoked W (credentialId W.hashes presentation) = .ok true ∨
    listedRevoked W presentation = true

/-- The presentation ends in a token over the challenge and the self-revoke audience, signed by
    the `cnf` key of the issuer-signed credential. -/
structure ProvesPossession (challenge presentation : String) : Prop where
  proof : ∃ issuer jwt segments last header payload jwk kbPayload,
    splitChar '~' presentation = jwt :: segments ++ [last] ∧
    JwsValid W.primitives issuer jwt header payload ∧ cnfJwk payload = some jwk ∧
    KeyBinding W.primitives W.hashes ⟨true, some selfRevokeAudience, some challenge⟩ jwk
      (joinSegments '~' (jwt :: segments) "") last kbPayload

/-- Every answer `revoked` names the presented credential, which is recorded then, and was
    before unless the caller proved possession of it. -/
def Truthful (svc : Service) (request : RevokeOwnCredentialRequest) : Prop :=
  ∀ response svc', revokeOwnCredential W svc request = (.ok response, svc') →
    response.revoked = true →
      response.credentialId = credentialId W.hashes request.presentation ∧
      Recorded W svc'.mirrors request.presentation ∧
      (¬ Recorded W svc.mirrors request.presentation →
        ProvesPossession W request.challenge request.presentation)

/-! ## Texts that mention a revocation -/

/-- The texts from outside that the trust check quotes, none when it passes. -/
def trustTexts (iss issuerHex : String) (issuers : List String) : List String :=
  if issuers.any (eqIgnoreAsciiCase · issuerHex) then []
  else match W.isIssuerTrusted issuerHex with
    | .ok true => []
    | .ok false => [iss]
    | .error e => [iss, e]

/-- The texts from outside that the rejection of the issuer quotes, none when it is accepted. -/
def quotedTexts (presentation : String) : List String :=
  match peekIss W.primitives presentation with
  | .error _ => []
  | .ok iss =>
    match W.resolve iss with
    | .error e => [e]
    | .ok resolved =>
      if resolved.keyAlg = .ed25519 then
        match anchorCheck W resolved with
        | .error _ =>
          -- the two hashes of the mismatch
          match W.getCommitment (didWebDidHash W resolved.did) with
          | .ok (some c) => [c, resolved.docHashHex]
          | _ => []
        | .ok () =>
          match W.trustedIssuers with
          | .error _ => []
          | .ok issuers => trustTexts W iss resolved.keyHex issuers
      else [iss]

end

/-- Nothing in the text speaks of a revocation. -/
def Quiet (text : String) : Prop := mentionsRevoked text = false

/-- An ASCII text that lacks a letter of "revoked". -/
def lacksLetter (text : String) : Bool :=
  text.toList.all (fun c => decide (c.toNat < 128)) &&
    "revoked".toList.any fun c => !(text.toList.map asciiLower).contains c

theorem mentionsRevoked_iff {text : String} :
    mentionsRevoked text = true ↔ "revoked".toList <:+: (toLowerCase text).toList := by
  unfold mentionsRevoked
  generalize toLowerCase text = lowered
  exact decide_eq_true_iff

/-- A text that has the word after a blank. -/
theorem mentions_credential_revoked (rest : String) :
    mentionsRevoked ("Credential revoked" ++ rest) = true := by
  have ascii : ∀ c ∈ "Credential revoked".toList, c.toNat < 128 := by simp
  rw [mentionsRevoked_iff, toLowerCase_append, String.toList_append, toLowerCase_ascii ascii]
  exact List.IsInfix.trans (by decide) (List.infix_append_left ..)

theorem quiet_of_missing {text : String} {c : Char} (ascii : ∀ d ∈ text.toList, d.toNat < 128)
    (needed : c ∈ "revoked".toList) (missing : c ∉ text.toList.map asciiLower) : Quiet text := by
  have lowered : (toLowerCase text).toList = text.toList.map asciiLower := by
    rw [toLowerCase_ascii ascii, toAsciiLowercase, String.toList_ofList]
  rw [Quiet, ← Bool.not_eq_true, mentionsRevoked_iff, lowered]
  intro occurs
  exact missing (occurs.subset needed)

theorem quiet_of_lacksLetter {text : String} (lacks : lacksLetter text = true) : Quiet text := by
  rw [lacksLetter, Bool.and_eq_true, List.all_eq_true, List.any_eq_true] at lacks
  obtain ⟨ascii, c, needed, missing⟩ := lacks
  exact quiet_of_missing (by simpa using ascii) needed (by simpa using missing)

theorem quiet_toString (n : Nat) : Quiet (toString n) := by
  have digits : ∀ c ∈ (toString n).toList, c.toNat < 58 := by
    intro c member
    rw [Nat.toString_eq_ofList_toDigits, String.toList_ofList] at member
    have digit := Nat.isDigit_of_mem_toDigits (by decide) (by decide) member
    rw [Char.isDigit, Bool.and_eq_true, decide_eq_true_eq, decide_eq_true_eq] at digit
    have bound : c.val.toNat ≤ 57 := digit.2
    exact Nat.lt_succ_of_le bound
  refine quiet_of_missing (c := 'v') (fun c member => by have := digits c member; omega)
    (by decide) ?_
  rintro member
  obtain ⟨d, here, lowered⟩ := List.mem_map.mp member
  have small := digits d here
  have value := congrArg Char.toNat lowered
  rw [asciiLower_toNat] at value
  simp only [Char.reduceToNat] at value
  split at value <;> omega

/-- An ASCII character that is not a letter never lies inside the word. -/
theorem mentionsRevoked_separated (sep : Char) (ascii : sep.toNat < 128)
    (same : asciiLower sep = sep) (absent : sep ∉ "revoked".toList) (left right : String) :
    mentionsRevoked (left ++ String.singleton sep ++ right) =
      (mentionsRevoked left || mentionsRevoked right) := by
  have lowered : (toLowerCase (String.singleton sep)).toList = [sep] := by
    rw [toLowerCase_ascii (by simpa using ascii), toAsciiLowercase, String.toList_ofList]
    simp [same]
  rw [Bool.eq_iff_iff, Bool.or_eq_true, mentionsRevoked_iff, mentionsRevoked_iff,
    mentionsRevoked_iff, toLowerCase_append, toLowerCase_append, String.toList_append,
    String.toList_append, lowered, List.append_assoc, List.singleton_append]
  exact infix_append_cons absent (by decide)

theorem mentionsRevoked_append_blank (left right : String) :
    mentionsRevoked (left ++ " " ++ right) = (mentionsRevoked left || mentionsRevoked right) :=
  mentionsRevoked_separated ' ' (by decide) (by decide) (by decide) left right

/-- A quiet text that ends in a blank. -/
def isLabel (text : String) : Bool :=
  decide (text.toList.getLast? = some ' ') && lacksLetter text

/-- What follows a label decides. -/
theorem mentionsRevoked_label {label text : String} (labels : isLabel label = true) :
    mentionsRevoked (label ++ text) = mentionsRevoked text := by
  rw [isLabel, Bool.and_eq_true, decide_eq_true_eq] at labels
  obtain ⟨last, lacks⟩ := labels
  obtain ⟨body, split⟩ := List.getLast?_eq_some_iff.mp last
  have parts : label = String.ofList body ++ " " := by
    rw [← String.toList_inj, String.toList_append, String.toList_ofList, split]
    simp
  have quiet := quiet_of_lacksLetter lacks
  have body' := mentionsRevoked_append_blank (String.ofList body) ""
  rw [String.append_empty, ← parts, quiet, eq_comm, Bool.or_eq_false_iff] at body'
  rw [parts, mentionsRevoked_append_blank, body'.1, Bool.false_or]

theorem quiet_label {label text : String} (labels : isLabel label = true) (quiet : Quiet text) :
    Quiet (label ++ text) :=
  (mentionsRevoked_label labels).trans quiet

/-! ## The verification chain is quiet -/

/-- The error texts of the codecs name a position and the key decoders' are fixed: none speaks of
    a revocation. -/
structure QuietLibraries (P : Primitives) : Prop where
  fromSlice : ∀ bytes e, P.fromSlice bytes = .error e → Quiet e
  base64 : ∀ s, Quiet (P.base64Error s)
  hex : ∀ s, Quiet (P.hexError s)
  ed25519 : ∀ bytes e, P.ed25519Decode bytes = .error e → Quiet e
  p256 : ∀ bytes e, P.p256Decode bytes = .error e → Quiet e

def QuietError (e : ProofSystemError) : Prop := Quiet e.display

theorem quiet_err {message : String} (quiet : Quiet message) : QuietError (err message) :=
  quiet_label (by decide) quiet

theorem quiet_fixed {message : String} (lacks : lacksLetter message = true) :
    QuietError (err message) :=
  quiet_err (quiet_of_lacksLetter lacks)

theorem quiet_invalidPublicKey {message : String} (quiet : Quiet message) :
    Quiet (SignatureError.invalidPublicKey message).display :=
  quiet_label (by decide) quiet

theorem quiet_signatureError {e : SignatureError} (quiet : Quiet e.display) :
    QuietError (.signatureError e) :=
  quiet_label (by decide) quiet

theorem checkRequested_quiet (want : Option String) (payload : Json) (field : String)
    {message : String} (lacks : lacksLetter message = true) :
    FailsWithin QuietError (checkRequested want payload field message) := by
  cases want with
  | none => exact failsWithin_ok ()
  | some text => exact failsWithin_ensure (quiet_fixed lacks)

/-- The one text with every letter of the word. -/
theorem ed25519Only_quiet (algorithm : SignatureAlgorithm) :
    FailsWithin QuietError (ed25519Only algorithm "verification key") := by
  cases algorithm with
  | ed25519 => exact failsWithin_ok ()
  | ecdsaP256 =>
    have parts : "verification key" ++ " must be Ed25519 (alg EdDSA)" =
        "verification" ++ " " ++ "key must be Ed25519 (alg EdDSA)" := by decide
    refine failsWithin_error (quiet_err ?_)
    rw [Quiet, parts, mentionsRevoked_append_blank, quiet_of_lacksLetter (by decide),
      quiet_of_lacksLetter (by decide), Bool.or_false]

section

variable {P : Primitives} {H : Hashes} (libraries : QuietLibraries P)

include libraries

theorem decode64_quiet (s : String) : FailsWithin QuietError (decode64 P s) :=
  failsWithin_okOr (quiet_err (quiet_label (by decide) (libraries.base64 s)))

theorem parseJson_quiet (bytes : Bytes) : FailsWithin QuietError (parseJson P bytes) :=
  .mapErr fun e fails => quiet_label (by decide) (libraries.fromSlice bytes e fails)

theorem fromBytesWithAlgorithm_quiet (bytes : Bytes) (algorithm : SignatureAlgorithm) :
    FailsWithin (fun e : SignatureError => Quiet e.display)
      (PublicKey.fromBytesWithAlgorithm P bytes algorithm) := by
  cases algorithm with
  | ed25519 =>
    refine .bind (failsWithin_ensure ?_) fun _ _ => .bind (.mapErr ?_) fun _ _ => failsWithin_ok _
    · exact quiet_invalidPublicKey (quiet_of_lacksLetter (by decide))
    · exact fun e fails => quiet_invalidPublicKey (libraries.ed25519 bytes e fails)
  | ecdsaP256 =>
    refine .bind (.mapErr fun e fails => ?_) fun _ _ => failsWithin_ok _
    exact quiet_invalidPublicKey (quiet_label (by decide) (libraries.p256 bytes e fails))

theorem jwkToPubkey_quiet (jwk : Json) : FailsWithin QuietError (jwkToPubkey P jwk) := by
  unfold jwkToPubkey
  split
  · refine .bind (failsWithin_okOr (quiet_fixed (by decide))) fun x _ =>
      .bind (decode64_quiet libraries x) fun bytes _ => .mapErr fun e fails => ?_
    exact quiet_signatureError (fromBytesWithAlgorithm_quiet libraries bytes .ed25519 e fails)
  · refine .bind (failsWithin_okOr (quiet_fixed (by decide))) fun x _ =>
      .bind (failsWithin_okOr (quiet_fixed (by decide))) fun y _ =>
      .bind (decode64_quiet libraries x) fun xBytes _ =>
      .bind (decode64_quiet libraries y) fun yBytes _ => .mapErr fun e fails => ?_
    exact quiet_signatureError (fromBytesWithAlgorithm_quiet libraries _ .ecdsaP256 e fails)
  · exact failsWithin_error (quiet_fixed (by decide))

theorem jwsVerifyWith_quiet (token : String) (pk : PublicKey) :
    FailsWithin QuietError (jwsVerifyWith P token pk) := by
  unfold jwsVerifyWith
  split
  · rename_i head body sig _
    have wrongAlg : QuietError (err ("JWS alg must be " ++ joseAlg pk.algorithm ++
        " for this key")) := by
      cases pk.algorithm <;> exact quiet_fixed (by decide)
    have invalid : Quiet SignatureError.invalidSignature.display :=
      quiet_of_lacksLetter (by decide)
    refine .bind (decode64_quiet libraries head) fun headBytes _ =>
      .bind (parseJson_quiet libraries headBytes) fun header _ =>
      .bind (failsWithin_ensure wrongAlg) fun _ _ =>
      .bind (decode64_quiet libraries sig) fun sigBytes _ => .bind (.mapErr ?_) fun _ _ =>
      .bind (decode64_quiet libraries body) fun bodyBytes _ =>
      .bind (parseJson_quiet libraries bodyBytes) fun payload _ => failsWithin_ok _
    exact .bind (failsWithin_ensure (quiet_signatureError invalid)) fun _ _ =>
      failsWithin_ensure (quiet_signatureError invalid)
  · exact failsWithin_error (quiet_fixed (by decide))

theorem parse_quiet (s : String) : FailsWithin QuietError (parse P s) := by
  have disclosure (d : String) : FailsWithin QuietError (parseDisclosure P d) :=
    .bind (decode64_quiet libraries d) fun bytes _ =>
      .bind (parseJson_quiet libraries bytes) fun arr _ =>
      .bind (failsWithin_okOr (quiet_fixed (by decide))) fun name _ => failsWithin_ok _
  unfold parse
  split
  · exact .bind (.mapM disclosure _) fun disclosures _ => failsWithin_ok _
  · exact failsWithin_error (quiet_fixed (by decide))

theorem verifyDisclosure_quiet (sdSet : List String) (acc : List (String × Json) × List String)
    (disclosure : Disclosure) : FailsWithin QuietError (verifyDisclosure P H sdSet acc disclosure) :=
  .bind (failsWithin_ensure (quiet_fixed (by decide))) fun _ _ =>
    .bind (failsWithin_ensure (quiet_fixed (by decide))) fun _ _ =>
    .bind (decode64_quiet libraries _) fun bytes _ =>
    .bind (parseJson_quiet libraries bytes) fun arr _ =>
    .bind (failsWithin_okOr (quiet_fixed (by decide))) fun name _ =>
    .bind (failsWithin_okOr (quiet_fixed (by decide))) fun value _ => failsWithin_ok _

theorem verifyKb_quiet (presentation : String) (kb : Option String) (jwk : Json)
    (vp : VerifyParams) : FailsWithin QuietError (verifyKb P H presentation kb jwk vp) := by
  cases kb with
  | none => exact .bind (failsWithin_ensure (quiet_fixed (by decide))) fun _ _ => failsWithin_ok _
  | some kb =>
    refine .bind ?_ fun _ _ => failsWithin_ok _
    exact .bind (jwkToPubkey_quiet libraries jwk) fun holder _ =>
      .bind (jwsVerifyWith_quiet libraries kb holder) fun token _ =>
      .bind (failsWithin_ensure (quiet_fixed (by decide))) fun _ _ =>
      .bind (checkRequested_quiet vp.aud _ _ (by decide)) fun _ _ =>
      .bind (checkRequested_quiet vp.nonce _ _ (by decide)) fun _ _ =>
      failsWithin_ensure (quiet_fixed (by decide))

theorem verify_quiet (presentation : String) (issuer : PublicKey) (vp : VerifyParams) :
    FailsWithin QuietError (verify P H presentation issuer vp) :=
  .bind (parse_quiet libraries presentation) fun sd _ =>
    .bind (.bind (ed25519Only_quiet issuer.algorithm) fun _ _ =>
      jwsVerifyWith_quiet libraries _ issuer) fun token _ =>
    .bind (failsWithin_ensure (quiet_fixed (by decide))) fun _ _ =>
    .bind (failsWithin_ensure (quiet_fixed (by decide))) fun _ _ =>
    .bind (failsWithin_okOr (quiet_fixed (by decide))) fun sdSet _ =>
    .bind (.foldlM (verifyDisclosure_quiet libraries sdSet) _ _) fun claims _ =>
    .bind (failsWithin_okOr (quiet_fixed (by decide))) fun iss _ =>
    .bind (failsWithin_okOr (quiet_fixed (by decide))) fun vct _ =>
    .bind (failsWithin_okOr (quiet_fixed (by decide))) fun jwk _ =>
    .bind (verifyKb_quiet libraries presentation sd.2 jwk vp) fun keyBound _ => failsWithin_ok _

end

theorem fromHex_quiet {P : Primitives} (libraries : QuietLibraries P) (hexStr : String) :
    FailsWithin (fun e : SignatureError => Quiet e.display) (PublicKey.fromHex P hexStr) := by
  refine .bind (failsWithin_okOr ?_) fun bytes _ => ?_
  · exact quiet_invalidPublicKey (quiet_label (by decide) (libraries.hex hexStr))
  · split
    · exact fromBytesWithAlgorithm_quiet libraries bytes .ed25519
    · exact fromBytesWithAlgorithm_quiet libraries bytes .ecdsaP256
    · exact fromBytesWithAlgorithm_quiet libraries bytes .ecdsaP256
    · rename_i n _ _ _
      have parts : " bytes (expected 32 for Ed25519, or 33/65 for P-256 SEC1)" =
          " " ++ "bytes (expected 32 for Ed25519, or 33/65 for P-256 SEC1)" := by decide
      refine failsWithin_error (quiet_invalidPublicKey ?_)
      rw [Quiet, parts, ← String.append_assoc, mentionsRevoked_append_blank,
        mentionsRevoked_label (by decide), quiet_toString, quiet_of_lacksLetter (by decide),
        Bool.or_false]

theorem peekIss_quiet {P : Primitives} (libraries : QuietLibraries P) (presentation : String) :
    FailsWithin QuietError (peekIss P presentation) := by
  unfold peekIss
  split
  · rename_i body _ _
    exact .bind (decode64_quiet libraries body) fun bytes _ =>
      .bind (parseJson_quiet libraries bytes) fun payload _ =>
      failsWithin_okOr (quiet_fixed (by decide))
  · exact failsWithin_error (quiet_fixed (by decide))

/-! ## Rejections of the issuer -/

theorem lowerChar_length_le (c : Char) : (lowerChar c).length ≤ 2 := by
  rcases mapCase_cases lowerRanges lowerExceptions c with
    ⟨_, _, _, mapped⟩ | ⟨entry, listed, _, mapped⟩ | mapped
  · rw [lowerChar, mapped, List.length_singleton]
    omega
  · rw [lowerExceptions, List.mem_singleton] at listed
    rw [lowerChar, mapped, listed, List.length_map]
    exact le_refl 2
  · rw [lowerChar, mapped, List.length_singleton]
    omega

/-- One character is too short. -/
theorem quiet_singleton (c : Char) : Quiet (String.singleton c) := by
  rw [Quiet, ← Bool.not_eq_true, mentionsRevoked_iff]
  intro inside
  have bound := inside.length_le
  have lowered : (toLowerCase (String.singleton c)).toList = lowerChar c := by
    simp [toLowerCase]
  have letters : "revoked".toList.length = 7 := by simp
  have short := lowerChar_length_le c
  rw [lowered, letters] at bound
  omega

theorem mentions_nonEd25519 (iss : String) :
    mentionsRevoked ("Issuer DID " ++ iss ++
      " resolved to non-Ed25519 key — issuer JWS must be EdDSA") = mentionsRevoked iss := by
  have parts : " resolved to non-Ed25519 key — issuer JWS must be EdDSA" =
      " " ++ ("resolved" ++ " " ++ ("to non-Ed25519 key" ++ " " ++ ("—" ++ " " ++
        "issuer JWS must be EdDSA"))) := by decide
  have dash : Quiet "—" := quiet_singleton '—'
  have resolved : Quiet "resolved" := quiet_of_lacksLetter (by decide)
  have key : Quiet "to non-Ed25519 key" := quiet_of_lacksLetter (by decide)
  have must : Quiet "issuer JWS must be EdDSA" := quiet_of_lacksLetter (by decide)
  rw [parts, ← String.append_assoc, mentionsRevoked_append_blank, mentionsRevoked_append_blank,
    mentionsRevoked_append_blank, mentionsRevoked_append_blank,
    mentionsRevoked_label (by decide), resolved, key, dash, must]
  simp

theorem mentions_mismatch (onChain fetched : String) :
    mentionsRevoked ("did:web doc-hash anchor mismatch: on-chain " ++ onChain ++ ", fetched " ++
      fetched) = (mentionsRevoked onChain || mentionsRevoked fetched) := by
  have comma (left right : String) : mentionsRevoked (left ++ "," ++ right) =
      (mentionsRevoked left || mentionsRevoked right) :=
    mentionsRevoked_separated ',' (by decide) (by decide) (by decide) left right
  have middle : ", fetched " = "," ++ " fetched " := by decide
  have parts (left : String) :
      left ++ ", fetched " ++ fetched = left ++ "," ++ (" fetched " ++ fetched) := by
    simp only [middle, String.append_assoc]
  rw [parts, comma, mentionsRevoked_label (by decide), mentionsRevoked_label (by decide)]

theorem mentions_trustFailed (iss e : String) :
    mentionsRevoked ("Chain trust check failed for " ++ iss ++ ": " ++ e) =
      (mentionsRevoked iss || mentionsRevoked e) := by
  have colon (left right : String) : mentionsRevoked (left ++ ":" ++ right) =
      (mentionsRevoked left || mentionsRevoked right) :=
    mentionsRevoked_separated ':' (by decide) (by decide) (by decide) left right
  have middle : ": " = ":" ++ " " := by decide
  have parts (left : String) : left ++ ": " ++ e = left ++ ":" ++ (" " ++ e) := by
    simp only [middle, String.append_assoc]
  rw [parts, colon, mentionsRevoked_label (by decide), mentionsRevoked_label (by decide)]

theorem anchorCheck_mentions {W : World} {resolved : ResolvedDid} {message : String}
    (mismatch : anchorCheck W resolved = .error message) :
    ∃ c, W.getCommitment (didWebDidHash W resolved.did) = .ok (some c) ∧
      mentionsRevoked message = (mentionsRevoked c || mentionsRevoked resolved.docHashHex) := by
  unfold anchorCheck at mismatch
  split at mismatch
  · split at mismatch
    · rename_i c anchored
      refine ⟨c, anchored, ?_⟩
      unfold ensure at mismatch
      split at mismatch
      · cases mismatch
      · rw [← Except.error.inj mismatch]
        exact mentions_mismatch c resolved.docHashHex
    · cases mismatch
    · cases mismatch
  · cases mismatch

theorem issuerTrust_mentions (W : World) (iss issuerHex : String) (issuers : List String) :
    match issuerTrust W iss issuerHex issuers with
    | .ok () => trustTexts W iss issuerHex issuers = []
    | .error (.rejected message) =>
      mentionsRevoked message = (trustTexts W iss issuerHex issuers).any mentionsRevoked
    | .error (.aborted _) => False := by
  unfold issuerTrust trustTexts
  by_cases mirrored : issuers.any (eqIgnoreAsciiCase · issuerHex) = true
  · simp [mirrored]
  · simp only [mirrored, if_false, Bool.false_eq_true]
    cases W.isIssuerTrusted issuerHex with
    | error e => simp [mentions_trustFailed]
    | ok trusted =>
      cases trusted with
      | true => rfl
      | false =>
        have labels : isLabel "Untrusted issuer: " = true := by decide
        simp [mentionsRevoked_label labels]

/-- A rejected issuer mentions a revocation exactly when a text it quotes does. -/
theorem issuerKey_mentions {W : World} (libraries : QuietLibraries W.primitives)
    {presentation message : String}
    (rejected : issuerKey W presentation = .error (.rejected message)) :
    mentionsRevoked message = (quotedTexts W presentation).any mentionsRevoked := by
  unfold issuerKey at rejected
  unfold quotedTexts
  cases peeked : peekIss W.primitives presentation with
  | error e =>
    simp only [peeked, mapErr, bind, Except.bind, Except.error.injEq, Stop.rejected.injEq] at rejected
    rw [← rejected, mentionsRevoked_label (by decide), peekIss_quiet libraries presentation e peeked]
    rfl
  | ok iss =>
    simp only [peeked, mapErr, bind, Except.bind] at rejected ⊢
    cases resolution : W.resolve iss with
    | error e =>
      simp only [resolution, Except.error.injEq, Stop.rejected.injEq] at rejected
      rw [← rejected, mentionsRevoked_label (by decide)]
      simp
    | ok resolved =>
      simp only [resolution] at rejected ⊢
      by_cases isEd : resolved.keyAlg = .ed25519
      · simp only [isEd, ensure, if_true] at rejected ⊢
        cases anchored : anchorCheck W resolved with
        | error e =>
          simp only [anchored, Except.error.injEq, Stop.rejected.injEq] at rejected ⊢
          obtain ⟨c, found, mentions⟩ := anchorCheck_mentions anchored
          rw [found, ← rejected, mentions]
          simp
        | ok _ =>
          simp only [anchored] at rejected ⊢
          cases listed : W.trustedIssuers with
          | error e => simp [listed] at rejected
          | ok issuers =>
            simp only [listed] at rejected ⊢
            have trust := issuerTrust_mentions W iss resolved.keyHex issuers
            cases trusted : issuerTrust W iss resolved.keyHex issuers with
            | error stop =>
              simp only [trusted, Except.error.injEq] at rejected trust
              rw [rejected] at trust
              exact trust
            | ok _ =>
              simp only [trusted] at rejected trust
              rw [trust]
              cases decoded : PublicKey.fromHex W.primitives resolved.keyHex with
              | ok issuerPk => simp [decoded, pure, Except.pure] at rejected
              | error e =>
                simp only [decoded, Except.error.injEq, Stop.rejected.injEq] at rejected
                rw [← rejected, mentionsRevoked_label (by decide), fromHex_quiet libraries _ e decoded]
                rfl
      · simp only [isEd, ensure, if_false, Except.error.injEq, Stop.rejected.injEq] at rejected ⊢
        rw [← rejected, mentions_nonEd25519]
        simp

/-- An issuer that is not rejected leaves nothing to quote. -/
theorem rejected_of_quotedTexts {W : World} {presentation : String}
    (quotes : quotedTexts W presentation ≠ []) :
    ∃ message, issuerKey W presentation = .error (.rejected message) := by
  unfold quotedTexts at quotes
  unfold issuerKey
  cases peeked : peekIss W.primitives presentation with
  | error e => simp [peeked] at quotes
  | ok iss =>
    simp only [peeked, mapErr, bind, Except.bind] at quotes ⊢
    cases resolution : W.resolve iss with
    | error e => exact ⟨_, rfl⟩
    | ok resolved =>
      simp only [resolution] at quotes ⊢
      by_cases isEd : resolved.keyAlg = .ed25519
      · simp only [isEd, ensure, if_true] at quotes ⊢
        cases anchored : anchorCheck W resolved with
        | error e => exact ⟨_, rfl⟩
        | ok _ =>
          simp only [anchored] at quotes ⊢
          cases listed : W.trustedIssuers with
          | error e => simp [listed] at quotes
          | ok issuers =>
            simp only [listed] at quotes ⊢
            have trust := issuerTrust_mentions W iss resolved.keyHex issuers
            cases trusted : issuerTrust W iss resolved.keyHex issuers with
            | ok _ =>
              simp only [trusted] at trust
              exact absurd trust quotes
            | error stop =>
              cases stop with
              | rejected message => exact ⟨message, rfl⟩
              | aborted e => simp [trusted] at trust
      · simp only [isEd, ensure, if_false]
        exact ⟨_, rfl⟩

section

variable {W : World} (libraries : QuietLibraries W.primitives)

include libraries

/-- Only a quoted text makes a rejection before the revocation checks mention one. -/
theorem checkPresentation_mentions {challenge presentation message : String}
    {audience : Option String}
    (rejected : checkPresentation W challenge audience presentation =
      .error (.rejected message)) :
    mentionsRevoked message = (quotedTexts W presentation).any mentionsRevoked := by
  unfold checkPresentation at rejected
  cases key : issuerKey W presentation with
  | error stop =>
    simp only [key, bind, Except.bind, Except.error.injEq] at rejected
    exact issuerKey_mentions libraries (rejected ▸ key)
  | ok issuer =>
    have silent : quotedTexts W presentation = [] := by
      by_contra quotes
      obtain ⟨_, rejects⟩ := rejected_of_quotedTexts quotes
      simp [key] at rejects
    simp only [key, bind, Except.bind] at rejected
    cases checked : verify W.primitives W.hashes presentation issuer.2
        ⟨true, audience, some challenge⟩ with
    | ok verified => simp [checked, mapErr, pure, Except.pure] at rejected
    | error e =>
      simp only [checked, mapErr, Except.error.injEq, Stop.rejected.injEq] at rejected
      rw [silent, ← rejected]
      exact verify_quiet libraries presentation issuer.2 _ e checked

theorem rejected_of_quoted {presentation : String} (challenge : String) (audience : Option String)
    (quotes : (quotedTexts W presentation).any mentionsRevoked = true) :
    ∃ message, checkPresentation W challenge audience presentation =
      .error (.rejected message) ∧ mentionsRevoked message = true := by
  have nonempty : quotedTexts W presentation ≠ [] := by
    rintro empty
    simp [empty] at quotes
  obtain ⟨message, rejected⟩ := rejected_of_quotedTexts nonempty
  refine ⟨message, ?_, (issuerKey_mentions libraries rejected).trans quotes⟩
  simp [checkPresentation, rejected, bind, Except.bind]

end

/-! ## Accepted presentations -/

section

variable {W : World} {challenge presentation issuerHex : String} {issuerPk : PublicKey}
  {verified : Verified}

theorem checkPresentation_eq_ok {audience : Option String} :
    checkPresentation W challenge audience presentation = .ok (issuerHex, issuerPk, verified) ↔
      issuerKey W presentation = .ok (issuerHex, issuerPk) ∧
      verify W.primitives W.hashes presentation issuerPk ⟨true, audience, some challenge⟩ =
        .ok verified := by
  simp only [checkPresentation, bind_eq_ok, mapErr_eq_ok, pure_eq_ok, Prod.mk.injEq, Prod.exists]
  constructor
  · rintro ⟨_, _, key, _, checked, rfl, rfl, rfl⟩
    exact ⟨key, checked⟩
  · rintro ⟨key, checked⟩
    exact ⟨_, _, key, _, checked, rfl, rfl, rfl⟩

theorem provesPossession_of_checked
    (checked : checkPresentation W challenge (some selfRevokeAudience) presentation =
      .ok (issuerHex, issuerPk, verified)) : ProvesPossession W challenge presentation := by
  obtain ⟨jwt, segments, last, header, payload, accepted⟩ :=
    verify_returns (checkPresentation_eq_ok.mp checked).2
  obtain ⟨kbPayload, binding⟩ := accepted.bound (accepted.required rfl)
  exact ⟨issuerPk, jwt, segments, last, header, payload, verified.cnfJwk, kbPayload,
    accepted.framed, accepted.signed, accepted.cnf, binding⟩

/-- The status list that was asked is the one the credential refers to. -/
theorem listedRevoked_of_checked {audience : Option String}
    (checked : checkPresentation W challenge audience presentation =
      .ok (issuerHex, issuerPk, verified))
    (listed : statusRevoked W issuerPk verified.status = true) :
    listedRevoked W presentation = true := by
  obtain ⟨key, verifies⟩ := checkPresentation_eq_ok.mp checked
  obtain ⟨jwt, segments, last, header, payload, accepted⟩ := verify_returns verifies
  simp only [issuerKey, bind_eq_ok, mapErr_eq_ok, ensure_eq_ok, pure_eq_ok, exists_const,
    Prod.mk.injEq] at key
  obtain ⟨iss, peeked, resolved, resolution, _, _, _, _, _, _, _, _, decoded, _, rfl⟩ := key
  simp only [listedRevoked, peeked, resolution, decoded, accepted.peekPayload_eq,
    Option.bind_some, ← accepted.status]
  exact listed

end

/-- What presenting a credential for self-revocation can come to. -/
theorem verifyOnePresentation_cases (W : World) (mirrors : Mirrors)
    (challenge presentation : String) :
    (∃ e, verifyOnePresentation W mirrors challenge (some selfRevokeAudience) presentation =
      (.error e, mirrors)) ∨
    (∃ message, checkPresentation W challenge (some selfRevokeAudience) presentation =
        .error (.rejected message) ∧
      verifyOnePresentation W mirrors challenge (some selfRevokeAudience) presentation =
        (.ok (fail message), mirrors)) ∨
    (∃ source mirrors', Recorded W mirrors presentation ∧ Recorded W mirrors' presentation ∧
      verifyOnePresentation W mirrors challenge (some selfRevokeAudience) presentation =
        (.ok (fail ("Credential revoked" ++ source)), mirrors')) ∨
    (∃ issuerHex verified, ProvesPossession W challenge presentation ∧
      verifyOnePresentation W mirrors challenge (some selfRevokeAudience) presentation =
        (.ok (passedOutcome W presentation issuerHex verified), mirrors)) := by
  cases checked : checkPresentation W challenge (some selfRevokeAudience) presentation with
  | error stop =>
    cases stop with
    | aborted e => exact .inl ⟨e, by rw [verifyOnePresentation, checked]⟩
    | rejected message =>
      exact .inr (.inl ⟨message, rfl, by rw [verifyOnePresentation, checked]⟩)
  | ok result =>
    obtain ⟨issuerHex, issuerPk, verified⟩ := result
    by_cases cached :
      mirrors.revocations.cache.isRevoked (credentialId W.hashes presentation) = true
    · refine .inr (.inr (.inl ⟨"", mirrors, .inl cached, .inl cached, ?_⟩))
      simp [verifyOnePresentation, checked, cached]
    · by_cases chain : isCredentialRevoked W (credentialId W.hashes presentation) = .ok true
      · let synced : Mirrors :=
          { mirrors with
            revocations := mirrors.revocations.revoke (credentialId W.hashes presentation)
              issuerHex syncReason none }
        refine .inr (.inr (.inl ⟨" on-chain", synced, .inr (.inl chain), .inr (.inl chain), ?_⟩))
        simp only [verifyOnePresentation, checked, cached, chain]
        rfl
      · by_cases status : statusRevoked W issuerPk verified.status = true
        · have listed := listedRevoked_of_checked checked status
          refine .inr (.inr (.inl ⟨" (status list)", mirrors, .inr (.inr listed),
            .inr (.inr listed), ?_⟩))
          simp only [verifyOnePresentation, checked, cached, status, Bool.false_eq_true, if_false,
            if_true]
          rfl
        · refine .inr (.inr (.inr ⟨issuerHex, verified, provesPossession_of_checked checked, ?_⟩))
          exact verifyOnePresentation_of_checked checked
            ⟨by simpa using cached, chain, by simpa using status⟩

/-! ## Main result -/

/-- The challenge is consumed, and the answer is that of the presentation. -/
theorem revokeOwnCredential_eq_ok {W : World} {svc svc' : Service}
    {request : RevokeOwnCredentialRequest} {response : RevokeOwnCredentialResponse} :
    revokeOwnCredential W svc request = (.ok response, svc') ↔
      W.challengeQuery = .ok () ∧
      (svc.challenges.validateServerChallenge W.now request.challenge).2 = true ∧
      ∃ mirrors, revokePresented W svc.mirrors request = (.ok response, mirrors) ∧
        svc' = { svc with
          challenges := (svc.challenges.validateServerChallenge W.now request.challenge).1
          mirrors := mirrors } := by
  unfold revokeOwnCredential
  cases W.challengeQuery with
  | error e => simp
  | ok _ =>
    rcases taken : svc.challenges.validateServerChallenge W.now request.challenge with ⟨rows, live⟩
    cases live with
    | false => simp
    | true =>
      rcases presented : revokePresented W svc.mirrors request with ⟨answer, mirrors⟩
      simp only [Prod.mk.injEq, true_and]
      constructor
      · rintro ⟨rfl, rfl⟩
        exact ⟨mirrors, ⟨rfl, rfl⟩, rfl⟩
      · rintro ⟨_, ⟨rfl, rfl⟩, rfl⟩
        exact ⟨rfl, rfl⟩

theorem revokeVerified_eq_ok {W : World} {mirrors mirrors' : Mirrors}
    {request : RevokeOwnCredentialRequest} {issuerHex : String} {verified : Verified}
    {response : RevokeOwnCredentialResponse}
    (answered : revokeVerified W mirrors request
      (passedOutcome W request.presentation issuerHex verified) = (.ok response, mirrors')) :
    response.credentialId = credentialId W.hashes request.presentation ∧
      Recorded W mirrors' request.presentation := by
  simp only [revokeVerified, passedOutcome] at answered
  split at answered
  · cases answered
  · simp only [Prod.mk.injEq, Except.ok.injEq] at answered
    obtain ⟨rfl, rfl⟩ := answered
    exact ⟨rfl, .inl (by simp [RevocationRepository.revoke])⟩

/-- What an answer `revoked` to a presentation rests on. -/
theorem revokePresented_eq_ok {W : World} {mirrors mirrors' : Mirrors}
    {request : RevokeOwnCredentialRequest} {response : RevokeOwnCredentialResponse}
    (answered : revokePresented W mirrors request = (.ok response, mirrors')) :
    response.credentialId = credentialId W.hashes request.presentation ∧
      ((∃ message, checkPresentation W request.challenge (some selfRevokeAudience)
          request.presentation = .error (.rejected message) ∧ mentionsRevoked message = true ∧
        mirrors' = mirrors) ∨
       Recorded W mirrors request.presentation ∧ Recorded W mirrors' request.presentation ∨
       ProvesPossession W request.challenge request.presentation ∧
        Recorded W mirrors' request.presentation) := by
  unfold revokePresented at answered
  rcases verifyOnePresentation_cases W mirrors request.challenge request.presentation with
    ⟨e, returns⟩ | ⟨message, rejected, returns⟩ | ⟨source, synced, before, after, returns⟩ |
    ⟨issuerHex, verified, possession, returns⟩
  · simp [returns] at answered
  · simp only [returns, fail, failResponse, Bool.false_eq_true, if_false, Option.getD_some]
      at answered
    split at answered
    · rename_i mentions
      simp only [Prod.mk.injEq, Except.ok.injEq] at answered
      obtain ⟨rfl, rfl⟩ := answered
      exact ⟨rfl, .inl ⟨message, rejected, mentions, rfl⟩⟩
    · cases answered
  · simp only [returns, fail, failResponse, Bool.false_eq_true, if_false, Option.getD_some,
      mentions_credential_revoked, if_true, Prod.mk.injEq, Except.ok.injEq] at answered
    obtain ⟨rfl, rfl⟩ := answered
    exact ⟨rfl, .inr (.inl ⟨before, after⟩)⟩
  · rw [returns] at answered
    simp only [passedOutcome, if_true] at answered
    obtain ⟨named, recorded⟩ := revokeVerified_eq_ok answered
    exact ⟨named, .inr (.inr ⟨possession, recorded⟩)⟩

/-- A rejection that mentions a revocation passes for an earlier one, and nothing is written. -/
theorem revokePresented_of_rejected {W : World} (mirrors : Mirrors)
    (request : RevokeOwnCredentialRequest) {message : String}
    (rejected : checkPresentation W request.challenge (some selfRevokeAudience)
      request.presentation = .error (.rejected message))
    (mentions : mentionsRevoked message = true) :
    revokePresented W mirrors request =
      (.ok ⟨true, credentialId W.hashes request.presentation, true⟩, mirrors) := by
  have returned : verifyOnePresentation W mirrors request.challenge
      (some selfRevokeAudience) request.presentation = (.ok (fail message), mirrors) := by
    unfold verifyOnePresentation
    rw [rejected]
  unfold revokePresented
  rw [returned]
  exact (if_neg Bool.false_ne_true).trans (if_pos mentions)

/-- Self-revocation tells the truth about a presentation exactly when the texts its rejected
    issuer quotes do not mention a revocation, or the credential is revoked anyway. -/
theorem self_revocation_truthful_iff (W : World) (libraries : QuietLibraries W.primitives)
    (svc : Service) (request : RevokeOwnCredentialRequest) :
    Truthful W svc request ↔
      (W.challengeQuery = .ok () →
        (svc.challenges.validateServerChallenge W.now request.challenge).2 = true →
        (∃ text ∈ quotedTexts W request.presentation, mentionsRevoked text = true) →
        Recorded W svc.mirrors request.presentation) := by
  constructor
  · intro truthful running live quoted
    obtain ⟨message, rejected, mentions⟩ := rejected_of_quoted libraries
      request.challenge (some selfRevokeAudience) (List.any_eq_true.mpr quoted)
    have answered := revokePresented_of_rejected svc.mirrors request rejected mentions
    have returns := revokeOwnCredential_eq_ok.mpr ⟨running, live, svc.mirrors, answered, rfl⟩
    exact (truthful _ _ returns rfl).2.1
  · intro honest response svc' returns _
    obtain ⟨running, live, mirrors, answered, rfl⟩ := revokeOwnCredential_eq_ok.mp returns
    obtain ⟨named, basis⟩ := revokePresented_eq_ok answered
    refine ⟨named, ?_⟩
    rcases basis with ⟨message, rejected, mentions, rfl⟩ | ⟨before, after⟩ | ⟨possession, after⟩
    · rw [checkPresentation_mentions libraries rejected, List.any_eq_true] at mentions
      have before := honest running live mentions
      exact ⟨before, fun unrecorded => absurd before unrecorded⟩
    · exact ⟨after, fun unrecorded => absurd before unrecorded⟩
    · exact ⟨after, fun _ => possession⟩

theorem quotedTexts_of_untrusted {W : World} {presentation iss : String}
    {resolved : ResolvedDid} (peeked : peekIss W.primitives presentation = .ok iss)
    (resolves : W.resolve iss = .ok resolved) (alg : resolved.keyAlg = .ed25519)
    (anchored : anchorCheck W resolved = .ok ()) (unlisted : W.trustedIssuers = .ok [])
    (untrusted : W.isIssuerTrusted resolved.keyHex = .ok false) :
    quotedTexts W presentation = [iss] := by
  simp only [quotedTexts, peeked, resolves, alg, anchored, unlisted, trustTexts, untrusted,
    List.any_nil, Bool.false_eq_true, if_true, if_false]

theorem listedRevoked_of_unlisted {W : World} (presentation : String)
    (unlisted : ∀ issuerPk status, statusRevoked W issuerPk status = false) :
    listedRevoked W presentation = false := by
  unfold listedRevoked
  split
  · rfl
  · split
    · rfl
    · split
      · rfl
      · exact unlisted _ _

/-! ### An untrusted issuer with an unlucky name -/

def revokedIss : String := "did:web:revoked.example"

def revokedPayload : Json := .ofFields [("iss", .string revokedIss)]

/-- Nothing else than the issuer's name is signed, and nothing is bound to a holder. -/
def revokedPresentation : String :=
  "e30." ++ b64 (render revokedPayload) ++ ".c2ln~"

/-- The issuer resolves, and no issuer is trusted yet. -/
def untrustingWorld : World :=
  { sampleWorld 1750000000 with
    primitives := samplePrimitives [revokedPayload]
    trustedIssuers := .ok []
    resolve := fun iss => .ok ⟨iss, hexEncode (List.replicate 32 3), .ed25519, "00"⟩ }

def selfRevocation : RevokeOwnCredentialRequest := ⟨revokedPresentation, sampleKb.nonce, none⟩

theorem untrusting_quiet : QuietLibraries untrustingWorld.primitives where
  fromSlice bytes e fails := by
    have text : e = "expected value" := by
      simp only [untrustingWorld, samplePrimitives, okOr] at fails
      split at fails
      · cases fails
      · exact (Except.error.inj fails).symm
    rw [text]
    exact quiet_of_lacksLetter (by decide)
  base64 s := by
    have fixed : Quiet "Invalid byte" := quiet_of_lacksLetter (by decide)
    exact fixed
  hex s := by
    have fixed : Quiet "Invalid character" := quiet_of_lacksLetter (by decide)
    exact fixed
  ed25519 bytes e fails := by cases fails
  p256 bytes e fails := by cases fails

theorem untrusting_peekIss :
    peekIss untrustingWorld.primitives revokedPresentation = .ok revokedIss := by
  decide

theorem untrusting_quotes : quotedTexts untrustingWorld revokedPresentation = [revokedIss] := by
  have anchored : anchorCheck untrustingWorld
      ⟨revokedIss, hexEncode (List.replicate 32 3), .ed25519, "00"⟩ = .ok () := by
    simp [anchorCheck, untrustingWorld, sampleWorld]
  exact quotedTexts_of_untrusted untrusting_peekIss rfl rfl anchored rfl rfl

theorem revokedIss_mentions : mentionsRevoked revokedIss = true := by
  have parts : revokedIss = "did:web" ++ String.singleton ':' ++ ("revoked" ++ ".example") := by
    decide
  have word : mentionsRevoked ("revoked" ++ ".example") = true := by
    have ascii : ∀ c ∈ "revoked".toList, c.toNat < 128 := by simp
    rw [mentionsRevoked_iff, toLowerCase_append, String.toList_append, toLowerCase_ascii ascii]
    exact List.IsInfix.trans (by decide) (List.infix_append_left ..)
  rw [parts, mentionsRevoked_separated ':' (by decide) (by decide) (by decide), word, Bool.or_true]

theorem untrusting_unrecorded :
    ¬ Recorded untrustingWorld (sampleMirrors ∅) revokedPresentation := by
  rintro (cached | chain | listed)
  · rw [sampleMirrors, RevocationRepository.initializeCache_coherent] at cached
    cases cached
  · have decoded := credentialIdHex_credentialId (P := samplePrimitives [revokedPayload])
      (H := sampleHashes) revokedPresentation
    simp [isCredentialRevoked, untrustingWorld, sampleWorld, decoded] at chain
  · have unlisted (issuerPk : PublicKey) (status : Option StatusRef) :
        statusRevoked untrustingWorld issuerPk status = false := by
      cases status <;> rfl
    rw [listedRevoked_of_unlisted revokedPresentation unlisted] at listed
    cases listed

theorem selfRevocation_live :
    ((sampleService 1750000000 ∅).challenges.validateServerChallenge untrustingWorld.now
      selfRevocation.challenge).2 = true := by
  have live : (PendingChallenge.mk sampleKb.nonce 1750000300 false).isLive 1750000000 = true := by
    simp [PendingChallenge.isLive]
  simp [sampleService, selfRevocation, untrustingWorld, sampleWorld,
    Challenges.validateServerChallenge, Table.find_insert, live]

/-- Anyone who signs nothing gets `revoked` for a credential that is recorded nowhere. -/
theorem untrusted_issuer_answers_revoked :
    ¬ Truthful untrustingWorld (sampleService 1750000000 ∅) selfRevocation := by
  intro truthful
  have quoted : (quotedTexts untrustingWorld revokedPresentation).any mentionsRevoked = true := by
    rw [untrusting_quotes, List.any_cons, revokedIss_mentions, Bool.true_or]
  obtain ⟨message, rejected, mentions⟩ := rejected_of_quoted untrusting_quiet
    selfRevocation.challenge (some selfRevokeAudience) quoted
  have answered := revokePresented_of_rejected (sampleMirrors ∅) selfRevocation rejected
    mentions
  have returns := revokeOwnCredential_eq_ok.mpr
    ⟨rfl, selfRevocation_live, sampleMirrors ∅, answered, rfl⟩
  exact untrusting_unrecorded (truthful _ _ returns rfl).2.1

/-- The same presentation after the credential was revoked: the answer is right. -/
def revokedService : Service :=
  { sampleService 1750000000 ∅ with
    mirrors := ⟨(sampleMirrors ∅).revocations.revoke
      (credentialId sampleHashes revokedPresentation) "" none none, ∅⟩ }

theorem self_revocation_truthful_at_revoked :
    QuietLibraries untrustingWorld.primitives ∧
      Truthful untrustingWorld revokedService selfRevocation := by
  refine ⟨untrusting_quiet, (self_revocation_truthful_iff untrustingWorld untrusting_quiet
    revokedService selfRevocation).mpr fun _ _ _ => .inl ?_⟩
  simp [revokedService, RevocationRepository.revoke, selfRevocation, untrustingWorld, sampleWorld]

end OwlId.Verification
