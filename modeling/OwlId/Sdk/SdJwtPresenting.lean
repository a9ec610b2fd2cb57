import Mathlib
import OwlId.Sdk.SdJwt

/-! # Credentials from the issuer through the wallet

A credential the issuer's library made is presented by the wallet and verified by the service,
and is the document from which the wallet proves.  Both hold for every choice of claims; what is
assumed is that each side reads the JSON the other wrote and takes its signatures.
-/

namespace OwlId.Sdk.SdJwt

open OwlId.Lib OwlId.ProofSystem

variable {L : JsLibs} {P : Primitives} {H : Hashes}

/-! ## The wallet presents, the service verifies -/

section

variable (L P)

/-- A signature made with the seed verifies under the key the package derives from it. -/
def SignsFor (kp : KeyPair) : Prop :=
  ∀ message, ∃ sig, L.sign message kp.seed.toList = .ok sig ∧
    P.verifies .ed25519 (L.getPublicKey kp.seed.toList) message sig = true

/-- The service reads the object the wallet wrote, whatever the order of its properties. -/
def ServiceReads (fields : List (String × Json)) : Prop :=
  P.fromSlice (L.stringify fields) = .ok (.ofFields fields)

end

theorem jwsSignEd25519_returns {kp : KeyPair} (signs : SignsFor L P kp) {hex : String}
    (key : KeyPair.fromHex hex = .ok kp) (header payload : List (String × Json)) :
    ∃ sig, jwsSignEd25519 L header payload hex =
        .ok (compact (L.stringify header) (L.stringify payload) sig) ∧
      P.verifies .ed25519 (L.getPublicKey kp.seed.toList)
        (asBytes (signingInput (b64 (L.stringify header)) (b64 (L.stringify payload)))) sig =
          true := by
  obtain ⟨sig, signed, verified⟩ :=
    signs (asBytes (signingInput (b64 (L.stringify header)) (b64 (L.stringify payload))))
  refine ⟨sig, ?_, verified⟩
  simp only [jwsSignEd25519, b64urlEncode_eq, bind_eq_ok, pure_eq_ok]
  exact ⟨_, fromHex_eq_ok.mp key, sig, signed, rfl⟩

section

variable {claims : ClaimMap} {salts : String → String} {p : IssueParams}

/-- The wallet's token binds the bytes it was made for. -/
theorem keyBinding_of_wallet {kp : KeyPair} {jwk : Json} {pre : String} {sig : Bytes}
    {kb : KbInput} (decoded : jwkToPubkey P jwk = .ok ⟨.ed25519, L.getPublicKey kp.seed.toList⟩)
    (readHeader : ServiceReads L P kbHeader)
    (readPayload : ServiceReads L P (kbPayload kb (digest H pre)))
    (verified : P.verifies .ed25519 (L.getPublicKey kp.seed.toList)
      (asBytes (signingInput (b64 (L.stringify kbHeader))
        (b64 (L.stringify (kbPayload kb (digest H pre)))))) sig = true) (requireKb : Bool) :
    KeyBinding P H ⟨requireKb, some kb.aud, some kb.nonce⟩ jwk pre
      (compact (L.stringify kbHeader) (L.stringify (kbPayload kb (digest H pre))) sig)
      (.ofFields (kbPayload kb (digest H pre))) where
  signed := by
    refine ⟨_, .ofFields kbHeader, decoded, ?_, ?_⟩
    · exact ⟨⟨_, _, _, _, _, _, splitChar_compact _ _ _, unb64_b64 _, readHeader, unb64_b64 _,
        readPayload, unb64_b64 _, verified⟩, by
          simp [kbHeader, Json.getStr, Json.get_ofFields, Json.asStr, joseAlg, alg]⟩
    · simp [kbHeader, Json.getStr, Json.get_ofFields, Json.lookup_cons_ite, Json.asStr]
  aud := by
    simp [kbPayload, Json.getStr, Json.get_ofFields, Json.lookup_cons_ite, Json.asStr]
  nonce := by
    simp [kbPayload, Json.getStr, Json.get_ofFields, Json.lookup_cons_ite, Json.asStr]
  sdHash := by
    simp [kbPayload, Json.getStr, Json.get_ofFields, Json.asStr, ProofSystem.digest]

theorem findDisclosures_reads {jwt : String} {names : List String}
    (subset : names ⊆ claims.fields.map Prod.fst) :
    names.mapM (findDisclosure ⟨jwt, (claims.fields.map Prod.fst).map fun name =>
        (name, disclosureOf P claims salts name)⟩) =
      .ok (names.map (disclosureOf P claims salts)) := by
  rw [mapM_eq_ok, List.forall₂_map_right_iff, List.forall₂_same]
  intro name member
  have found := find_disclosure (P := P) salts (subset member)
  rw [issuedDisclosures_eq] at found
  simp only [findDisclosure, bind_eq_ok, okOr_eq_ok, pure_eq_ok]
  exact ⟨_, found, rfl⟩

end

section

variable {claims : ClaimMap} {salts : String → String} {p : IssueParams}

/-- The text a wallet presents of an issued credential. -/
theorem presentSdJwtVc_returns (faithful : Faithful P H claims salts p)
    (reads : ReadsIssued L P H claims salts p) {jwt : String} (token : '~' ∉ jwt.toList)
    {names : List String} (subset : names ⊆ claims.fields.map Prod.fst) {kp : KeyPair}
    (signs : SignsFor L P kp) {hex : String} (key : KeyPair.fromHex hex = .ok kp)
    (binding : Binding) (now : Int) {pre : String}
    (shown : pre = presentedPrefix P claims salts jwt names) :
    ∃ sig, presentSdJwtVc L H now
        (ProofSystem.SdJwtVc.serialize ⟨jwt, (issueEntries claims salts).map (entryDisclosure P)⟩)
        hex names binding =
      .ok (pre ++ compact (L.stringify kbHeader)
        (L.stringify (kbPayload (binding.kbInput hex now) (digest H pre))) sig) ∧
      P.verifies .ed25519 (L.getPublicKey kp.seed.toList)
        (asBytes (signingInput (b64 (L.stringify kbHeader))
          (b64 (L.stringify (kbPayload (binding.kbInput hex now) (digest H pre)))))) sig =
        true := by
  obtain ⟨sig, signed, verified⟩ := jwsSignEd25519_returns signs key kbHeader
    (kbPayload (binding.kbInput hex now) (digest H pre))
  refine ⟨sig, ?_, verified⟩
  subst shown
  simp only [presentSdJwtVc, SdJwtVc.present, bind_eq_ok, pure_eq_ok]
  exact ⟨_, parse_serialized faithful reads token, _, findDisclosures_reads subset, _, signed, rfl⟩

end

/-- What a wallet presents of an issued credential the service accepts as bound to its holder,
    with exactly the chosen claims; and the wallet reads its own presentation back. -/
theorem wallet_presentations_verify (L : JsLibs) (P : Primitives) (H : Hashes)
    (scheme : SignatureScheme P) (claims : ClaimMap) (salts : String → String) (p : IssueParams)
    (ed : p.issuer.algorithm = .ed25519) (valid : p.holder.Valid P)
    (faithful : Faithful P H claims salts p) (reads : ReadsIssued L P H claims salts p)
    (kp : KeyPair) (kind : p.holder.algorithm = .ed25519)
    (holder : OwlId.Lib.hexDecode (kp.publicKeyHex L) = some p.holder.bytes)
    (signs : SignsFor L P kp) :
    ∃ vc owlRoot, issue P H claims salts p = .ok vc ∧
      owlRootForClaims H (issueEntries claims salts) = some owlRoot ∧
      ∀ (holderKeyHex : String) (names : List String) (binding : Binding) (now : Int),
        KeyPair.fromHex holderKeyHex = .ok kp → names.Nodup →
        names ⊆ claims.fields.map Prod.fst → ServiceReads L P kbHeader →
        ServiceReads L P (kbPayload (binding.kbInput holderKeyHex now)
          (digest H (presentedPrefix P claims salts vc.jwt names))) →
        ∃ s, presentSdJwtVc L H now vc.serialize holderKeyHex names binding = .ok s ∧
          SdJwtVc.parse L s = .ok ⟨vc.jwt, names.map fun name =>
            (name, disclosureOf P claims salts name)⟩ ∧
          ∀ requireKb, ∃ v, verify P H s (p.issuer.publicKey P)
              ⟨requireKb, some binding.aud, some binding.nonce⟩ = .ok v ∧
            Returned P claims p names owlRoot v ∧ v.keyBound = true := by
  obtain ⟨owlRoot, jwk, _, root, _, decoded, rfl, issuedEq, returned⟩ :=
    issue_returns P H claims salts ed valid
  have bound : jwkToPubkey P jwk = .ok ⟨.ed25519, L.getPublicKey kp.seed.toList⟩ := by
    rw [KeyPair.publicKeyHex, OwlId.Lib.hexDecode_hexEncode, Option.some.injEq] at holder
    rw [decoded, holder, ← kind]
  have separateToken := @tilde_notMem_signedToken P issuerHeader
    (issuePayload p jwk (issuedDigests P H claims salts) owlRoot) p.issuer.secret
  -- what follows only needs that the token is the issuer's and has no separator in it
  generalize token : signedToken P issuerHeader
    (issuePayload p jwk (issuedDigests P H claims salts) owlRoot) p.issuer.secret = jwt
    at returned separateToken
  refine ⟨_, owlRoot, returned, root, ?_⟩
  intro holderKeyHex names binding now key nodup subset readHeader readPayload
  obtain ⟨sig, presented, verified⟩ := presentSdJwtVc_returns faithful reads separateToken subset
    signs key binding now rfl
  have separate := tilde_notMem_compact (L.stringify kbHeader) (L.stringify (kbPayload
    (binding.kbInput holderKeyHex now) (digest H (presentedPrefix P claims salts jwt names)))) sig
  refine ⟨_, presented, ?_, fun requireKb => ?_⟩
  · rw [presentedPrefix, ← joinSegments_eq_append]
    exact parse_issued faithful reads separateToken subset separate
  · have accepted := accepted_of_presented scheme ed faithful issuedEq nodup subset
      _ ⟨requireKb, some binding.aud, some binding.nonce⟩ token.symm
      separate (fun _ => compact_ne_empty _ _ _) (fun _ =>
        ⟨_, keyBinding_of_wallet bound readHeader readPayload verified requireKb⟩)
    exact ⟨_, verify_of_accepted accepted, ⟨rfl, rfl, rfl, rfl, rfl, decoded⟩,
      decide_eq_true (compact_ne_empty _ _ _)⟩

/-! ## The document of an issued credential -/

section

variable (L H)

/-- The record a wallet keeps of a credential is what the reader makes of it. -/
structure RecordOf (vc : SdJwtVc) (stored : Sdk.SdJwtVc) : Prop where
  id : stored.credentialIdHex = vc.credentialIdHex H
  owlRoot : vc.owlRootHex L = .ok stored.owlRootHex
  raw : vc.disclosuresRaw L = .ok stored.disclosuresRaw

end

section

variable {claims : ClaimMap} {salts : String → String} {p : IssueParams}

theorem payload_reads {header payload : Json} {secret : Bytes} {jwt : String}
    (token : jwt = signedToken P header payload secret)
    (read : L.parse (P.toVec payload) = .ok payload) :
    ∃ head body sig, splitChar '.' jwt = [head, body, sig] ∧
      SdJwtVc.payload L body = .ok payload := by
  refine ⟨_, _, _, by rw [token, signedToken, splitChar_compact], ?_⟩
  simp only [SdJwtVc.payload, bind_eq_ok]
  exact ⟨_, b64urlDecode_b64 _, read⟩

theorem owlRootHex_reads {jwk : Json} {sd : List String} {owlRoot : Bytes32} {secret : Bytes}
    {vc : SdJwtVc}
    (token : vc.jwt = signedToken P issuerHeader (issuePayload p jwk sd owlRoot) secret)
    (read : L.parse (P.toVec (issuePayload p jwk sd owlRoot)) =
      .ok (issuePayload p jwk sd owlRoot)) :
    vc.owlRootHex L = .ok (some (hexEncode owlRoot.toList)) ∧ vc.peekIssuer L = .ok p.iss := by
  obtain ⟨head, body, sig, parts, payload⟩ := payload_reads token read
  have root := issuePayload_owlRoot p jwk sd owlRoot
  have iss := issuePayload_iss p jwk sd owlRoot
  constructor
  · simp only [SdJwtVc.owlRootHex, parts, bind_eq_ok]
    refine ⟨_, payload, ?_⟩
    rw [← root]
    rfl
  · simp only [SdJwtVc.peekIssuer, parts, bind_eq_ok]
    refine ⟨_, payload, ?_⟩
    have found : okOr ((issuePayload p jwk sd owlRoot).getStr "iss") "iss missing" = .ok p.iss :=
      okOr_eq_ok.mpr iss
    exact found

theorem disclosuresRaw_reads (reads : ReadsIssued L P H claims salts p) (jwt : String) :
    SdJwtVc.disclosuresRaw L ⟨jwt, (claims.fields.map Prod.fst).map fun name =>
        (name, disclosureOf P claims salts name)⟩ = .ok (issueEntries claims salts) := by
  have rounds : ((claims.fields.map Prod.fst).map fun name =>
        (name, disclosureOf P claims salts name)).mapM (SdJwtVc.rawDisclosure L) =
      .ok ((issueEntries claims salts).map some) := by
    rw [mapM_eq_ok, List.map_map, issueEntries, List.map_map, List.forall₂_map_left_iff,
      List.forall₂_map_right_iff, List.forall₂_same]
    intro claim member
    have arr := disclosure_reads reads (List.mem_map_of_mem member)
    rw [ClaimMap.value_of_mem member] at arr
    simp only [bind_eq_ok] at arr
    obtain ⟨bytes, decoded, parsed⟩ := arr
    simp only [SdJwtVc.rawDisclosure, Function.comp_apply, bind_eq_ok, pure_eq_ok]
    exact ⟨bytes, decoded, _, parsed, rfl⟩
  simp only [SdJwtVc.disclosuresRaw, bind_eq_ok, pure_eq_ok]
  refine ⟨_, rounds, ?_⟩
  rw [List.filterMap_map]
  exact List.filterMap_some

theorem disclosedClaim_reads (reads : ReadsIssued L P H claims salts p) (jwt : String)
    {claim : String × Json} (member : claim ∈ claims.fields) :
    SdJwtVc.disclosedClaim L ⟨jwt, (claims.fields.map Prod.fst).map fun name =>
        (name, disclosureOf P claims salts name)⟩ claim.1 = .ok (some claim.2) := by
  have named := List.mem_map_of_mem (f := Prod.fst) member
  have found := find_disclosure (P := P) salts named
  rw [issuedDisclosures_eq] at found
  have arr := disclosure_reads reads named
  rw [ClaimMap.value_of_mem member] at arr
  simp only [bind_eq_ok] at arr
  obtain ⟨bytes, decoded, parsed⟩ := arr
  simp only [SdJwtVc.disclosedClaim, found, bind_eq_ok, pure_eq_ok]
  exact ⟨bytes, decoded, _, parsed, rfl⟩

end

/-- The document the orchestrator gets of an issued credential carries the id the service
    computes, the signed root and the issued claims; and where both encoders read every claim
    alike, the tree it rebuilds has the signed root. -/
theorem wallet_documents_carry_root (L : JsLibs) (P : Primitives) (H : Hashes) (W : WalletWorld)
    (claims : ClaimMap) (salts : String → String) (p : IssueParams)
    (ed : p.issuer.algorithm = .ed25519) (valid : p.holder.Valid P)
    (faithful : Faithful P H claims salts p) (reads : ReadsIssued L P H claims salts p) :
    ∃ vc owlRoot sdk, issue P H claims salts p = .ok vc ∧
      owlRootForClaims H (issueEntries claims salts) = some owlRoot ∧
      SdJwtVc.parse L vc.serialize = .ok sdk ∧
      ProofSystem.credentialIdHex P (ProofSystem.credentialId H vc.serialize) =
        .ok (sdk.credentialIdHex H) ∧
      sdk.credentialId H = ProofSystem.credentialId H vc.serialize ∧
      sdk.serialize = vc.serialize ∧ sdk.peekIssuer L = .ok p.iss ∧
      sdk.disclosedClaimNames = claims.fields.map Prod.fst ∧
      (∀ claim ∈ claims.fields, sdk.disclosedClaim L claim.1 = .ok (some claim.2)) ∧
      (∀ refs, RecordOf L H sdk ⟨sdk.credentialIdHex H, some (hexEncode owlRoot.toList),
        issueEntries claims salts, refs⟩) ∧
      ∀ (cred : WalletCredential) (stored : Sdk.SdJwtVc) (doc : CredentialJson),
        cred.sdJwtVc = some stored → RecordOf L H sdk stored →
        walletCredentialToProofJson W cred = some doc →
        doc.rootHash = sdk.credentialIdHex H ∧
        doc.owlRoot = some (hexEncode owlRoot.toList) ∧
        doc.claimDisclosures = issueEntries claims salts ∧
        ((∀ claim ∈ claims.fields, ValidNumber claim.2 ∧ Alike claim.1 claim.2) →
          (buildOwlRootTree H doc.claimDisclosures).toOption.map (owlRootBytesLE H) =
            some owlRoot) := by
  obtain ⟨owlRoot, jwk, _, root, _, decoded, rfl, issuedEq, returned⟩ :=
    issue_returns P H claims salts ed valid
  have separate := @tilde_notMem_signedToken P issuerHeader
    (issuePayload p jwk (issuedDigests P H claims salts) owlRoot) p.issuer.secret
  have read : L.parse (P.toVec (issuePayload p jwk (issuedDigests P H claims salts) owlRoot)) =
      .ok (issuePayload p jwk (issuedDigests P H claims salts) owlRoot) :=
    reads _ (by simp [issuedValues, issuedEq])
  have parsed := parse_serialized faithful reads separate
  obtain ⟨segments, last, framed, _⟩ := parse_eq_ok.mp parsed
  have jwtRead : issuerJwt (ProofSystem.SdJwtVc.serialize
      ⟨signedToken P issuerHeader (issuePayload p jwk (issuedDigests P H claims salts) owlRoot)
        p.issuer.secret, (issueEntries claims salts).map (entryDisclosure P)⟩) =
      signedToken P issuerHeader (issuePayload p jwk (issuedDigests P H claims salts) owlRoot)
        p.issuer.secret := by
    simp [issuerJwt, framed]
  refine ⟨_, owlRoot, _, returned, root, parsed, ?_, ?_, ?_, (owlRootHex_reads rfl read).2,
    by simp [SdJwtVc.disclosedClaimNames, Function.comp_def],
    fun claim member => disclosedClaim_reads reads _ member,
    fun refs => ⟨rfl, (owlRootHex_reads rfl read).1, disclosuresRaw_reads reads _⟩, ?_⟩
  · rw [credentialIdHex_credentialId, jwtRead, SdJwtVc.credentialIdHex]
  · rw [ProofSystem.credentialId, jwtRead, SdJwtVc.credentialId, b64urlEncode_eq]
  · rw [SdJwtVc.serialize, ProofSystem.SdJwtVc.serialize, issuedDisclosures_eq]
  · intro cred stored doc holds record document
    rw [walletCredentialToProofJson, holds, Option.map_some, Option.some.injEq] at document
    have rootRead := record.owlRoot.symm.trans (owlRootHex_reads rfl read).1
    have rawRead := record.raw.symm.trans (disclosuresRaw_reads reads _)
    subst document
    refine ⟨record.id, Except.ok.inj rootRead, Except.ok.inj rawRead, fun alike => ?_⟩
    have values : ∀ entry ∈ issueEntries claims salts, claimValue32 entry.name entry.value =
        .ok (ProofSystem.claimValue32 entry.name entry.value) := by
      intro entry member
      obtain ⟨claim, listed, rfl⟩ := List.mem_map.mp member
      exact (claimValue32_eq_iff (alike claim listed).1).mpr (alike claim listed).2
    rw [← root, ← (sameTree_of_values values).root, Except.ok.inj rawRead]

/-! ## A wallet and a service -/

/-- The key pair the sample credential is bound to. -/
def sampleKeyPair : KeyPair := ⟨Vector.replicate 32 2⟩

def sampleBinding : Binding := ⟨sampleKb.aud, sampleKb.nonce, some sampleKb.iat⟩

/-- The objects the wallet writes. -/
def sampleWritten : List (List (String × Json)) :=
  kbHeader :: (samplePrefix.map fun pre =>
    kbPayload (sampleBinding.kbInput sampleKeyPair.toHex 0) (digest sampleHashes pre)).toList

/-- Every text that is read, with the value it is read as. -/
def sampleTexts : List (Bytes × Json) :=
  sampleKnown.map (fun value => (render value, value)) ++
    sampleWritten.map fun fields => (render (.object fields), .ofFields fields)

def sampleService : Primitives :=
  { samplePrimitives sampleKnown with
    fromSlice := fun bytes =>
      okOr ((sampleTexts.find? fun text => text.1 = bytes).map Prod.snd) "expected value" }

def sampleWallet : JsLibs where
  stringify fields := render (.object fields)
  parse := sampleService.fromSlice
  getPublicKey seed := seed
  sign message seed := .ok (seed ++ message)
  verify signature message key := .ok (decide (signature = key ++ message))

theorem sampleTexts_distinct : (sampleTexts.map Prod.fst).Nodup := by decide

theorem sampleTexts_read {bytes : Bytes} {value : Json} (member : (bytes, value) ∈ sampleTexts) :
    sampleService.fromSlice bytes = .ok value := by
  have found : sampleTexts.find? (fun text => text.1 = bytes) = some (bytes, value) := by
    cases hit : sampleTexts.find? (fun text => text.1 = bytes) with
    | none => simpa using List.find?_eq_none.mp hit _ member
    | some other =>
      have same : other.1 = bytes := by simpa using List.find?_some hit
      rw [List.inj_on_of_nodup_map sampleTexts_distinct (List.mem_of_find?_eq_some hit) member same]
  simp [sampleService, found]

theorem sampleService_roundTrips {value : Json} (member : value ∈ sampleKnown) :
    RoundTrips sampleService value where
  read := sampleTexts_read
    (List.mem_append_left _ (List.mem_map.mpr ⟨value, member, rfl⟩))
  nonempty := (sampleKnown_roundTrips member).nonempty

theorem sampleWritten_read {fields : List (String × Json)} (member : fields ∈ sampleWritten) :
    ServiceReads sampleWallet sampleService fields :=
  sampleTexts_read (List.mem_append_right _ (List.mem_map.mpr ⟨fields, member, rfl⟩))

theorem sampleService_scheme : SignatureScheme sampleService :=
  ⟨(samplePrimitives_scheme sampleKnown).correct⟩

theorem sampleService_valid : sampleIssue.holder.Valid sampleService :=
  ⟨by simp [sampleIssue], rfl⟩

theorem sampleService_faithful : Faithful sampleService sampleHashes ProofSystem.sampleClaims
    sampleSalts sampleIssue where
  read _ member := sampleService_roundTrips (List.mem_append_left _ member)
  free := sample_faithful.free

theorem sampleWallet_reads : ReadsIssued sampleWallet sampleService sampleHashes
    ProofSystem.sampleClaims sampleSalts sampleIssue :=
  fun _ member => (sampleService_faithful.read _ member).read

theorem sampleWallet_signs : SignsFor sampleWallet sampleService sampleKeyPair :=
  fun _ => ⟨_, rfl, decide_eq_true rfl⟩

/-- The token of the sample presentation is among the objects the wallet writes. -/
theorem sampleWritten_kbPayload {jwk : Json} {owlRoot : Bytes32}
    (issued : issuedPayload sampleService sampleHashes ProofSystem.sampleClaims sampleSalts
      sampleIssue = some (issuePayload sampleIssue jwk
        (issuedDigests sampleService sampleHashes ProofSystem.sampleClaims sampleSalts)
        owlRoot)) :
    kbPayload (sampleBinding.kbInput sampleKeyPair.toHex 0) (digest sampleHashes
      (presentedPrefix sampleService ProofSystem.sampleClaims sampleSalts
        (signedToken sampleService issuerHeader (issuePayload sampleIssue jwk
          (issuedDigests sampleService sampleHashes ProofSystem.sampleClaims sampleSalts)
          owlRoot) sampleIssue.issuer.secret) ["given_name"])) ∈ sampleWritten := by
  have known : issuedPayload (samplePrimitives []) sampleHashes ProofSystem.sampleClaims
      sampleSalts sampleIssue = some (issuePayload sampleIssue jwk
        (issuedDigests sampleService sampleHashes ProofSystem.sampleClaims sampleSalts)
        owlRoot) := issued
  refine List.mem_cons_of_mem _ ?_
  simp only [samplePrefix, known]
  exact List.mem_singleton.mpr rfl

theorem wallet_presentations_verify_at_sample :
    ∃ vc s v, issue sampleService sampleHashes ProofSystem.sampleClaims sampleSalts sampleIssue =
        .ok vc ∧
      presentSdJwtVc sampleWallet sampleHashes 0 vc.serialize sampleKeyPair.toHex ["given_name"]
        sampleBinding = .ok s ∧
      verify sampleService sampleHashes s (sampleIssue.issuer.publicKey sampleService)
        ⟨true, some sampleBinding.aud, some sampleBinding.nonce⟩ = .ok v ∧
      v.claims = [("given_name", .string "Ada")] ∧ v.keyBound = true := by
  obtain ⟨vc, owlRoot, issued, _, presents⟩ := wallet_presentations_verify sampleWallet
    sampleService sampleHashes sampleService_scheme ProofSystem.sampleClaims sampleSalts sampleIssue
    rfl sampleService_valid sampleService_faithful sampleWallet_reads sampleKeyPair rfl
    (OwlId.Lib.hexDecode_hexEncode _) sampleWallet_signs
  obtain ⟨_, jwk, _, _, _, _, rfl, payload, returned⟩ := issue_returns sampleService sampleHashes
    ProofSystem.sampleClaims sampleSalts (p := sampleIssue) rfl sampleService_valid
  obtain rfl := Except.ok.inj (returned.symm.trans issued)
  obtain ⟨s, shown, _, verifies⟩ := presents sampleKeyPair.toHex ["given_name"] sampleBinding 0
    (fromHex_toHex _) (by simp) sampleNames_subset (sampleWritten_read List.mem_cons_self)
    (sampleWritten_read (sampleWritten_kbPayload payload))
  obtain ⟨v, verified, facts, isBound⟩ := verifies true
  exact ⟨_, s, v, issued, shown, verified, facts.claims, isBound⟩

theorem wallet_documents_carry_root_at_sample :
    ∃ owlRoot stored doc, sampleOwlRoot = some owlRoot ∧
      walletCredentialToProofJson sampleWalletWorld
        { sampleCredential with sdJwtVc := some stored } = some doc ∧
      doc.owlRoot = some (hexEncode owlRoot.toList) ∧
      (buildOwlRootTree sampleHashes doc.claimDisclosures).toOption.map
        (owlRootBytesLE sampleHashes) = some owlRoot := by
  obtain ⟨_, owlRoot, sdk, _, root, _, _, _, _, _, _, _, records, documents⟩ :=
    wallet_documents_carry_root sampleWallet sampleService sampleHashes sampleWalletWorld
      ProofSystem.sampleClaims sampleSalts sampleIssue rfl sampleService_valid
      sampleService_faithful sampleWallet_reads
  have alike : ∀ claim ∈ ProofSystem.sampleClaims.fields,
      ValidNumber claim.2 ∧ Alike claim.1 claim.2 := by
    intro claim member
    simp only [ProofSystem.sampleClaims, List.mem_cons, List.not_mem_nil, or_false] at member
    rcases member with rfl | rfl
    · exact ⟨by simp [ValidNumber], trivial⟩
    · exact ⟨by simp [ValidNumber], trivial⟩
  obtain ⟨_, rootRead, _, tree⟩ := documents
    { sampleCredential with sdJwtVc := some _ } _ _ rfl (records none) rfl
  exact ⟨owlRoot, _, _, root, rfl, rootRead, tree alike⟩

end OwlId.Sdk.SdJwt
