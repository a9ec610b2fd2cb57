import Mathlib
import OwlId.Sdk.SdJwtPresenting

/-! # The wallet's verifier

Whatever the service accepts is put to the verifier of the SDK.  Its loop over the disclosures
runs in step with the service's, so the presentations it refuses can be told exactly: those with
a disclosure that is no triple, and those whose holder key is not an `OKP` key.
-/

namespace OwlId.Sdk.SdJwt

open OwlId.Lib OwlId.ProofSystem

variable {L : JsLibs} {P : Primitives} {H : Hashes}

/-! ## The service accepts, the wallet's verifier accepts -/

/-- A relation that both bodies keep round by round holds after the loops, and the second
    succeeds exactly when the first does on inputs that are all good. -/
theorem foldlM_related {α α' β γ ε ε' : Type} {f : β → α → Except ε β} {g : γ → α' → Except ε' γ}
    {text : α → α'} {R : β → γ → Prop} {good : α → Prop}
    (round : ∀ {acc acc' js a}, f acc a = .ok acc' → R acc js →
      (∀ js', g js (text a) = .ok js' → good a ∧ R acc' js') ∧
      (good a → ∃ js', g js (text a) = .ok js'))
    {inputs : List α} {acc final : β} {js : γ} (loop : inputs.foldlM f acc = .ok final)
    (related : R acc js) :
    (∀ js', (inputs.map text).foldlM g js = .ok js' → (∀ a ∈ inputs, good a) ∧ R final js') ∧
      ((∀ a ∈ inputs, good a) → ∃ js', (inputs.map text).foldlM g js = .ok js') := by
  induction inputs generalizing acc js with
  | nil =>
    simp only [List.foldlM_nil, pure_eq_ok] at loop
    subst loop
    simpa using related
  | cons a rest ih =>
    simp only [List.foldlM_cons, bind_eq_ok] at loop
    obtain ⟨acc', head, tail⟩ := loop
    obtain ⟨sound, complete⟩ := round head related
    simp only [List.map_cons, List.foldlM_cons, bind_eq_ok, List.forall_mem_cons]
    constructor
    · rintro final' ⟨js', first, others⟩
      obtain ⟨fine, next⟩ := sound js' first
      obtain ⟨all, last⟩ := (ih tail next).1 final' others
      exact ⟨⟨fine, all⟩, last⟩
    · rintro ⟨fine, all⟩
      obtain ⟨js', first⟩ := complete fine
      obtain ⟨final', others⟩ := (ih tail (sound js' first).2).2 all
      exact ⟨final', js', first, others⟩

section

variable (L P)

/-- The wallet's libraries take what the service's do: texts that are JSON, with the values they
    have there, and signatures that verify. -/
structure TakesAll : Prop where
  parse : ∀ bytes value, P.fromSlice bytes = .ok value → L.parse bytes = .ok value
  verify : ∀ key message signature, P.verifies .ed25519 key message signature = true →
    L.verify signature message key = .ok true

/-- The disclosure is an array of exactly three items. -/
def Triple (d : String) : Prop :=
  ∃ bytes items, unb64 d = some bytes ∧ P.fromSlice bytes = .ok (.array items) ∧ items.length = 3

end

theorem jwsVerifyEd25519_of_valid (takes : TakesAll L P) {pk : PublicKey}
    (ed : pk.algorithm = .ed25519) {hex : String}
    (key : hexDecode hex = .ok pk.bytes) {token : String} {header payload : Json}
    (valid : JwsValid P pk token header payload) :
    jwsVerifyEd25519 L token hex = .ok (header, payload) := by
  obtain ⟨⟨head, body, sig, headBytes, bodyBytes, sigBytes, parts, hhead, hheader, hbody, hpayload,
    hsig, verified⟩, _⟩ := valid
  rw [ed] at verified
  simp only [jwsVerifyEd25519, parts, bind_eq_ok, ensure_eq_ok, pure_eq_ok, exists_const]
  exact ⟨_, b64urlDecode_of_unb64 hsig, _, key, true, takes.verify _ _ _ verified, rfl,
    _, b64urlDecode_of_unb64 hhead, header, takes.parse _ _ hheader,
    _, b64urlDecode_of_unb64 hbody, payload, takes.parse _ _ hpayload, rfl⟩

/-- On a disclosure the service takes, the wallet asks for the three items and no more. -/
theorem checkDisclosure_eq_ok (takes : TakesAll L P) {sdSet : List String}
    {claims claims' : List (String × Json)} {d name : String} {value : Json}
    (listed : ProofSystem.digest H d ∈ sdSet)
    (discloses : Discloses P d name value) :
    checkDisclosure L H sdSet claims d = .ok claims' ↔
      Triple P d ∧ claims' = assignClaim name value claims := by
  obtain ⟨bytes, arr, decoded, parsed, named, valued⟩ := discloses
  have triple : Triple P d ↔ ∃ salt, arr = .array [salt, .string name, value] := by
    constructor
    · rintro ⟨_, items, decoded', parsed', length⟩
      obtain rfl := Option.some.inj (decoded.symm.trans decoded')
      obtain rfl := Except.ok.inj (parsed.symm.trans parsed')
      obtain ⟨salt, b, c, rfl⟩ := List.length_eq_three.mp length
      obtain rfl : c = value := by simpa [Json.getIdx] using valued
      cases b with
      | string s =>
        obtain rfl : s = name := by simpa [Json.getIdx, Json.asStr] using named
        exact ⟨salt, rfl⟩
      | _ => simp [Json.getIdx, Json.asStr] at named
    · rintro ⟨salt, rfl⟩
      exact ⟨bytes, _, decoded, parsed, rfl⟩
  rw [triple]
  simp only [checkDisclosure, bind_eq_ok, ensure_eq_ok, digest_eq, exists_const]
  have here := b64urlDecode_of_unb64 decoded
  have there := takes.parse _ _ parsed
  constructor
  · rintro ⟨_, _, decoded', _, parsed', last⟩
    obtain rfl := Except.ok.inj (here.symm.trans decoded')
    obtain rfl := Except.ok.inj (there.symm.trans parsed')
    -- the wallet's pattern has room for three items only
    split at last
    · rename_i salt name' value'
      obtain rfl : name' = name := by simpa [Json.getIdx, Json.asStr] using named
      obtain rfl : value' = value := by simpa [Json.getIdx] using valued
      exact ⟨⟨salt, rfl⟩, (pure_eq_ok.mp last).symm⟩
    · cases last
  · rintro ⟨⟨salt, rfl⟩, rfl⟩
    exact ⟨listed, bytes, here, _, there, rfl⟩

/-- The same claims, but for the name that makes no property. -/
def SameClaims (claims js : List (String × Json)) : Prop :=
  ∀ name, name ≠ "__proto__" → js.lookup name = claims.lookup name

theorem lookup_setProperty (name key : String) (value : Json) (claims : List (String × Json)) :
    (setProperty name value claims).lookup key =
      if key = name then some value else claims.lookup key := by
  induction claims with
  | nil => rw [setProperty, Json.lookup_cons_ite]
  | cons claim rest ih =>
    obtain ⟨other, old⟩ := claim
    rw [setProperty]
    split
    · rename_i same
      subst same
      rw [Json.lookup_cons_ite, Json.lookup_cons_ite]
      split <;> rfl
    · rename_i different
      rw [Json.lookup_cons_ite, Json.lookup_cons_ite, ih]
      by_cases here : key = other
      · rw [if_pos here, if_neg (here ▸ different), if_pos here]
      · rw [if_neg here, if_neg here]

theorem SameClaims.assign {claims js : List (String × Json)} (same : SameClaims claims js)
    (name : String) (value : Json) :
    SameClaims (Json.insertField name value claims) (assignClaim name value js) := by
  intro key usual
  rw [Json.lookup_insertField, assignClaim]
  split
  · rename_i proto
    rw [if_neg (proto ▸ usual)]
    exact same key usual
  · rw [lookup_setProperty, same key usual]

/-- The two loops over the disclosures, where the service's succeeds. -/
theorem checkDisclosures_related (takes : TakesAll L P) {sdSet : List String}
    {disclosures : List Disclosure} {final : List (String × Json) × List String}
    (loop : disclosures.foldlM (verifyDisclosure P H sdSet) ([], []) = .ok final) :
    (∀ js, (disclosures.map Prod.snd).foldlM (checkDisclosure L H sdSet) [] = .ok js →
      (∀ d ∈ disclosures, Triple P d.2) ∧ SameClaims final.1 js) ∧
    ((∀ d ∈ disclosures, Triple P d.2) →
      ∃ js, (disclosures.map Prod.snd).foldlM (checkDisclosure L H sdSet) [] = .ok js) := by
  refine foldlM_related (R := fun acc js => SameClaims acc.1 js) ?_ loop (fun _ _ => rfl)
  intro acc acc' js d round same
  obtain ⟨listed, _, name, value, discloses, rfl⟩ := verifyDisclosure_eq_ok.mp round
  constructor
  · intro js' taken
    obtain ⟨triple, rfl⟩ := (checkDisclosure_eq_ok takes listed discloses).mp taken
    exact ⟨triple, same.assign name value⟩
  · intro triple
    exact ⟨_, (checkDisclosure_eq_ok takes listed discloses).mpr ⟨triple, rfl⟩⟩

/-! ### Key binding -/

theorem checkAsked_of_requested {want : Option String} {payload : Json} {field message : String}
    (requested : ∀ text, want = some text → payload.getStr field = some text) :
    checkAsked want payload field message = .ok () := by
  rw [checkAsked]
  split
  · rename_i text asked
    exact ensure_eq_ok.mpr (requested text (Option.filter_eq_some_iff.mp asked).1)
  · rfl

/-- Of the keys the service reads, the wallet reads those it calls `OKP`. -/
theorem holderPub_of_decoded {payload jwk : Json} {holder : PublicKey}
    (signed : cnfJwk payload = some jwk) (decoded : jwkToPubkey P jwk = .ok holder) :
    (∀ hex, holderPub payload = .ok hex → jwk.getStr "kty" = some "OKP") ∧
      (jwk.getStr "kty" = some "OKP" →
        holder.algorithm = .ed25519 ∧ holderPub payload = .ok (hexEncode holder.bytes)) := by
  constructor
  · intro hex read
    simp only [holderPub, bind_eq_ok, ensure_eq_ok, okOr_eq_ok] at read
    obtain ⟨jwk', found, _, kind, _⟩ := read
    rw [signed, Option.filter_eq_some_iff] at found
    obtain rfl := Option.some.inj found.1
    exact kind.1
  · intro kind
    unfold jwkToPubkey at decoded
    split at decoded
    · rename_i _ curve
      simp only [bind_eq_ok, okOr_eq_ok, mapErr_eq_ok, decode64_eq_ok, PublicKey.fromBytes,
        PublicKey.fromBytesWithAlgorithm, ensure_eq_ok, pure_eq_ok, exists_const] at decoded
      obtain ⟨x, found, bytes, text, _, _, _, rfl⟩ := decoded
      obtain ⟨field, got, string⟩ := Option.bind_eq_some_iff.mp found
      have object : isFalsy jwk = false := by
        cases jwk with
        | object fields => rfl
        | _ => cases got
      cases field with
      | string s =>
        obtain rfl := Option.some.inj string
        refine ⟨rfl, ?_⟩
        simp only [holderPub, bind_eq_ok, okOr_eq_ok, ensure_eq_ok, exists_const]
        refine ⟨jwk, Option.filter_eq_some_iff.mpr ⟨signed, by simp [object]⟩, ⟨kind, curve⟩, ?_⟩
        rw [got]
        simp only [bind_eq_ok, pure_eq_ok]
        exact ⟨bytes, b64urlDecode_of_unb64 text, rfl⟩
      | _ => cases string
    · rename_i other _
      rw [kind] at other
      simp at other
    · cases decoded

/-- On a token the service takes, the wallet asks for a key of its kind and no more. -/
theorem verifyKb_eq_ok (takes : TakesAll L P) {vp : VerifyParams} {pre last : String}
    {payload jwk kbPayload : Json} (signed : cnfJwk payload = some jwk)
    (binding : KeyBinding P H vp jwk pre last kbPayload) :
    verifyKb L H (pre ++ last) last payload vp.aud vp.nonce = .ok () ↔
      jwk.getStr "kty" = some "OKP" := by
  obtain ⟨⟨holder, header, decoded, token, typ⟩, aud, nonce, sdHash⟩ := binding
  obtain ⟨only, reads⟩ := holderPub_of_decoded signed decoded
  simp only [verifyKb, bind_eq_ok, ensure_eq_ok, exists_const, cutTail_append, digest_eq]
  constructor
  · rintro ⟨hex, key, _⟩
    exact only hex key
  · intro kind
    obtain ⟨ed, key⟩ := reads kind
    exact ⟨_, key, (header, kbPayload),
      jwsVerifyEd25519_of_valid takes ed (hexDecode_hexEncode _) token, typ, (),
      checkAsked_of_requested aud, (), checkAsked_of_requested nonce, sdHash⟩

/-! ### Whole presentations -/

theorem verifyParts_eq_ok {presentation jwt last hex : String} {segments : List String}
    {requireKb : Bool} {audience nonce : Option String} {result : VerificationResult}
    (framed : splitChar '~' presentation = jwt :: segments ++ [last]) :
    verifyParts L H presentation hex requireKb audience nonce = .ok result ↔
      ∃ header payload claims, jwsVerifyEd25519 L jwt hex = .ok (header, payload) ∧
        (header.getStr "typ" = some jwtTyp ∨ header.getStr "typ" = some jwtTypLegacy) ∧
        payload.getStr "_sd_alg" = some sdAlg ∧
        (segments.filter (· ≠ "")).foldlM
          (checkDisclosure L H ((sdDigests payload).getD [])) [] = .ok claims ∧
        checkBinding L H presentation last payload requireKb audience nonce = .ok () ∧
        result = { valid := true, claims := some claims, issuer := payload.getStr "iss",
                   credentialType := payload.getStr "vct", keyBound := decide (last ≠ "") } := by
  obtain ⟨second, rest, tail⟩ : ∃ second rest, segments ++ [last] = second :: rest := by
    cases segments <;> simp
  have lastOf : (second :: rest).getLastD "" = last := by
    rw [← tail, List.getLastD_concat]
  have middle : (second :: rest).dropLast = segments := by simp [← tail]
  unfold verifyParts
  rw [framed, List.cons_append, tail]
  simp only [lastOf, middle, bind_eq_ok, ensure_eq_ok, pure_eq_ok, exists_const]
  constructor
  · rintro ⟨⟨header, payload⟩, token, typ, sdAlg, claims, loop, _, binding, rfl⟩
    exact ⟨header, payload, claims, token, typ, sdAlg, loop, binding, rfl⟩
  · rintro ⟨header, payload, claims, token, typ, sdAlg, loop, binding, rfl⟩
    exact ⟨(header, payload), token, typ, sdAlg, claims, loop, (), binding, rfl⟩

/-- A valid result is what the `try` block returned. -/
theorem verifySdJwt_valid {presentation hex : String} {requireKb : Bool}
    {audience nonce : Option String}
    (valid : (verifySdJwt L H presentation hex requireKb audience nonce).valid = true) :
    verifyParts L H presentation hex requireKb audience nonce =
      .ok (verifySdJwt L H presentation hex requireKb audience nonce) := by
  unfold verifySdJwt at valid ⊢
  cases outcome : verifyParts L H presentation hex requireKb audience nonce with
  | ok result => rfl
  | error message =>
    rw [outcome] at valid
    cases valid

theorem texts_of_parsed {segments : List String} {disclosures : List Disclosure}
    (loop : segments.mapM (ProofSystem.parseDisclosure P) = .ok disclosures) :
    disclosures.map Prod.snd = segments := by
  rw [mapM_eq_ok] at loop
  induction loop with
  | nil => rfl
  | cons head _ ih => rw [List.map_cons, parseDisclosure_snd head, ih]

theorem sampleWallet_takes : TakesAll sampleWallet sampleService where
  parse _ _ read := read
  verify _ _ _ verified := congrArg Except.ok verified

end OwlId.Sdk.SdJwt
