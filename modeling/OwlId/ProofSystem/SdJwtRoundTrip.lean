import Mathlib
import OwlId.ProofSystem.SdJwtSoundness

/-! # Issue, present, verify

A credential that is issued, presented with some of its claims and verified under
the issuer's key gives back exactly those claims.  The libraries are assumed to do
what they document, on the values at hand: JSON read back is the JSON written
(`RoundTrips`), a signature verifies under its own public key and keys decode from
their encodings (`SignatureScheme`, `PublicKey.Valid`).
-/

namespace OwlId.ProofSystem

open OwlId.Lib

variable {P : Primitives} {H : Hashes}

/-! ## What is assumed of the libraries -/

/-- The value survives serialisation, and its text is not empty. -/
structure RoundTrips (P : Primitives) (value : Json) : Prop where
  read : P.fromSlice (P.toVec value) = .ok value
  nonempty : P.toVec value ≠ []

structure SignatureScheme (P : Primitives) : Prop where
  correct : ∀ secret message, P.verifies .ed25519 (P.publicBytes .ed25519 secret) message
    (P.sign .ed25519 secret message) = true

/-- A key that its own encoding decodes to, as every constructed key is. -/
def PublicKey.Valid (P : Primitives) (pk : PublicKey) : Prop :=
  match pk.algorithm with
  | .ed25519 => pk.bytes.length = 32 ∧ P.ed25519Decode pk.bytes = .ok ()
  | .ecdsaP256 => pk.bytes.length = 65 ∧ pk.bytes.headD 0 = 0x04 ∧
      P.p256Decode pk.bytes = .ok pk.bytes

/-! ## Text without separators -/

theorem notMem_b64 {c : Char} (h : c ∉ b64Alphabet) (bytes : Bytes) : c ∉ (b64 bytes).toList := by
  rw [b64_toList]
  exact fun member => h (mem_b64EncodeChars member)

theorem b64_ne_empty {bytes : Bytes} (h : bytes ≠ []) : b64 bytes ≠ "" := by
  intro empty
  have : b64 bytes = b64 [] := by rw [empty]; rfl
  exact h (b64_injective this)

/-! ## Tokens -/

/-- The compact form of a token whose parts are base64url. -/
def compact (header payload signature : Bytes) : String :=
  signingInput (b64 header) (b64 payload) ++ "." ++ b64 signature

theorem compact_eq (header payload signature : Bytes) :
    compact header payload signature =
      joinSegments '.' [b64 header, b64 payload] (b64 signature) := by
  apply String.toList_inj.mp
  simp [compact, signingInput, joinSegments]

theorem splitChar_compact (header payload signature : Bytes) :
    splitChar '.' (compact header payload signature) =
      [b64 header, b64 payload, b64 signature] := by
  have dot : '.' ∉ b64Alphabet := by decide
  rw [compact_eq, splitChar_joinSegments]
  · rfl
  · intro s member
    simp only [List.mem_cons, List.not_mem_nil, or_false] at member
    rcases member with rfl | rfl <;> exact notMem_b64 dot _
  · exact notMem_b64 dot _

theorem tilde_notMem_compact (header payload signature : Bytes) :
    '~' ∉ (compact header payload signature).toList := by
  have tilde : '~' ∉ b64Alphabet := by decide
  simp only [compact, signingInput, String.toList_append, List.mem_append, not_or]
  exact ⟨⟨⟨⟨notMem_b64 tilde _, by decide⟩, notMem_b64 tilde _⟩, by decide⟩, notMem_b64 tilde _⟩

theorem compact_ne_empty (header payload signature : Bytes) :
    compact header payload signature ≠ "" := by
  intro empty
  have := congrArg String.toList empty
  simp [compact, signingInput] at this

/-- The token `jwsSign` returns for an Ed25519 key. -/
def signedToken (P : Primitives) (header payload : Json) (secret : Bytes) : String :=
  compact (P.toVec header) (P.toVec payload)
    (P.sign .ed25519 secret
      (asBytes (signingInput (b64 (P.toVec header)) (b64 (P.toVec payload)))))

theorem jwsSign_eq_ok {header payload : Json} {kp : KeyPair} (ed : kp.algorithm = .ed25519) :
    jwsSign P header payload kp = .ok (signedToken P header payload kp.secret) := by
  simp [jwsSign, ed25519Only, ed, KeyPair.sign, signedToken, compact, bind, Except.bind, pure,
    Except.pure]

theorem signedToken_valid {header payload : Json} {kp : KeyPair} (scheme : SignatureScheme P)
    (ed : kp.algorithm = .ed25519) (readHeader : RoundTrips P header)
    (readPayload : RoundTrips P payload) (halg : header.getStr "alg" = some alg) :
    JwsValid P (kp.publicKey P) (signedToken P header payload kp.secret) header payload where
  signed := ⟨_, _, _, _, _, _, splitChar_compact _ _ _, unb64_b64 _, readHeader.read,
    unb64_b64 _, readPayload.read, unb64_b64 _, by
      simpa [KeyPair.publicKey, ed] using scheme.correct kp.secret _⟩
  alg := by simpa [KeyPair.publicKey, ed, joseAlg] using halg

/-! ## Keys -/

theorem fromBytes_of_valid {pk : PublicKey} (valid : pk.Valid P) :
    PublicKey.fromBytesWithAlgorithm P pk.bytes pk.algorithm = .ok pk := by
  obtain ⟨algorithm, bytes⟩ := pk
  cases algorithm with
  | ed25519 =>
    obtain ⟨length, decodes⟩ := valid
    simp only [PublicKey.fromBytesWithAlgorithm, bind_eq_ok, ensure_eq_ok, mapErr_eq_ok,
      pure_eq_ok]
    exact ⟨(), length, (), decodes, trivial⟩
  | ecdsaP256 =>
    obtain ⟨_, _, decodes⟩ := valid
    simp only [PublicKey.fromBytesWithAlgorithm, bind_eq_ok, mapErr_eq_ok, pure_eq_ok]
    exact ⟨bytes, decodes, rfl⟩

/-- The tag byte and the two coordinates make up an uncompressed point. -/
theorem sec1_parts {bytes : Bytes} (length : bytes.length = 65) (head : bytes.headD 0 = 0x04) :
    0x04 :: (bytes.drop 1).take 32 ++ (bytes.drop 33).take 32 = bytes := by
  cases bytes with
  | nil => simp at length
  | cons b rest =>
    simp only [List.headD_cons] at head
    simp only [List.length_cons] at length
    have tail : (rest.drop 32).take 32 = rest.drop 32 := List.take_of_length_le (by simp; omega)
    simp [head, tail]

theorem jwk_roundTrip {pk : PublicKey} (valid : pk.Valid P) :
    ∃ jwk, publicKeyJwk pk = .ok jwk ∧ jwkToPubkey P jwk = .ok pk := by
  have decodes := fromBytes_of_valid valid
  obtain ⟨algorithm, bytes⟩ := pk
  cases algorithm with
  | ed25519 =>
    refine ⟨_, rfl, ?_⟩
    simp only [jwkToPubkey, Json.getStr, Json.get_ofFields, List.reverse_cons, List.reverse_nil,
      List.nil_append, List.cons_append, Json.lookup_cons_ite]
    simpa [Json.asStr, PublicKey.fromBytes] using decodes
  | ecdsaP256 =>
    obtain ⟨length, head, _⟩ := valid
    have uncompressed : ¬ (bytes.length ≠ 65 ∨ bytes.headD 0 ≠ 0x04) := by simp_all
    refine ⟨_, if_neg uncompressed, ?_⟩
    simp only [jwkToPubkey, Json.getStr, Json.get_ofFields, List.reverse_cons, List.reverse_nil,
      List.nil_append, List.cons_append, Json.lookup_cons_ite]
    have parts := sec1_parts length head
    simp only [List.cons_append, List.drop_one] at parts
    simpa [Json.asStr, parts] using decodes

/-! ## Issuance -/

theorem issuerHeader_alg : issuerHeader.getStr "alg" = some alg := by
  simp [issuerHeader, Json.getStr, Json.get_ofFields, Json.asStr]

section

variable (P H)

/-- The digests of the issued disclosures, in the order they are signed. -/
def issuedDigests (claims : ClaimMap) (salts : String → String) : List String :=
  (((issueEntries claims salts).map (entryDisclosure P)).map fun d =>
    digest H d.2).insertionSort (· ≤ ·)

/-- The signed payload, when the holder key has a JWK and the claims have a root. -/
def issuedPayload (claims : ClaimMap) (salts : String → String) (p : IssueParams) :
    Option Json := do
  let owlRoot ← owlRootForClaims H (issueEntries claims salts)
  let jwk ← (publicKeyJwk p.holder).toOption
  return issuePayload p jwk (issuedDigests P H claims salts) owlRoot

/-- The JSON values that issuing a credential serialises. -/
def issuedValues (claims : ClaimMap) (salts : String → String) (p : IssueParams) : List Json :=
  issuerHeader :: ((issuedPayload P H claims salts p).toList ++
    (issueEntries claims salts).map fun entry =>
      disclosureArray entry.salt entry.name entry.value)

end

theorem issueEntries_names (claims : ClaimMap) (salts : String → String) :
    (issueEntries claims salts).map ClaimEntry.name = claims.fields.map Prod.fst := by
  simp [issueEntries]

theorem ClaimMap.nodup (claims : ClaimMap) : (claims.fields.map Prod.fst).Nodup :=
  (List.pairwise_map.mpr claims.sorted).imp fun h => ne_of_lt h

/-! ### Reading the signed payload -/

section

variable (p : IssueParams) (jwk : Json) (sd : List String) (owlRoot : Bytes32)

/-- The mandatory fields are read as they were written. -/
theorem issuePayload_get {key : String} (mandatory : key ∉ ["iat", "exp", "status"]) :
    (issuePayload p jwk sd owlRoot).get key =
      (Json.ofFields
        [("iss", .string p.iss), ("vct", .string p.vct), ("cnf", .ofFields [("jwk", jwk)]),
          ("_sd", .array (sd.map .string)), ("_sd_alg", .string sdAlg),
          ("owl_root", .string (hexEncode owlRoot.toList))]).get key := by
  simp only [List.mem_cons, List.not_mem_nil, or_false, not_or] at mandatory
  obtain ⟨iat, exp, status⟩ := mandatory
  unfold issuePayload
  rw [Json.get_ofFields_append, Json.get_ofFields_append, Json.get_ofFields_append]
  · cases p.iat <;> simp [iat]
  · cases p.exp <;> simp [exp]
  · cases p.status <;> simp [status]

theorem issuePayload_iss : (issuePayload p jwk sd owlRoot).getStr "iss" = some p.iss := by
  rw [Json.getStr, issuePayload_get _ _ _ _ (by decide)]
  simp [Json.get_ofFields, Json.lookup_cons_ite, Json.asStr]

theorem issuePayload_vct : (issuePayload p jwk sd owlRoot).getStr "vct" = some p.vct := by
  rw [Json.getStr, issuePayload_get _ _ _ _ (by decide)]
  simp [Json.get_ofFields, Json.lookup_cons_ite, Json.asStr]

theorem issuePayload_sdAlg : (issuePayload p jwk sd owlRoot).getStr "_sd_alg" = some sdAlg := by
  rw [Json.getStr, issuePayload_get _ _ _ _ (by decide)]
  simp [Json.get_ofFields, Json.lookup_cons_ite, Json.asStr]

theorem issuePayload_owlRoot : (issuePayload p jwk sd owlRoot).getStr "owl_root" =
    some (hexEncode owlRoot.toList) := by
  rw [Json.getStr, issuePayload_get _ _ _ _ (by decide)]
  simp [Json.get_ofFields, Json.asStr]

theorem issuePayload_cnf : cnfJwk (issuePayload p jwk sd owlRoot) = some jwk := by
  rw [cnfJwk, issuePayload_get _ _ _ _ (by decide)]
  simp [Json.get_ofFields, Json.lookup_cons_ite]

theorem issuePayload_digests : sdDigests (issuePayload p jwk sd owlRoot) = some sd := by
  rw [sdDigests, issuePayload_get _ _ _ _ (by decide)]
  have strings : (sd.map Json.string).filterMap Json.asStr = sd := by
    rw [List.filterMap_map]
    exact List.filterMap_some
  simp [Json.get_ofFields, Json.lookup_cons_ite, Json.asArray, strings]

theorem issuePayload_status : statusRef (issuePayload p jwk sd owlRoot) = p.status := by
  unfold statusRef issuePayload
  cases status : p.status with
  | none =>
    simp only [Option.map_none, Option.toList_none, List.append_nil]
    rw [Json.get_ofFields_append (by cases p.exp <;> simp),
      Json.get_ofFields_append (by cases p.iat <;> simp)]
    simp [Json.get_ofFields, Json.lookup_cons_ite]
  | some ref =>
    rw [Json.get_ofFields]
    simp [statusJson, Json.get_ofFields, Json.lookup_cons_ite, Json.getStr, Json.asStr, Json.asU64]

end

/-- Issuance with an Ed25519 issuer key always returns. -/
theorem issue_returns (P : Primitives) (H : Hashes) (claims : ClaimMap)
    (salts : String → String) {p : IssueParams} (ed : p.issuer.algorithm = .ed25519) (holder : p.holder.Valid P) :
    ∃ owlRoot jwk payload, owlRootForClaims H (issueEntries claims salts) = some owlRoot ∧
      publicKeyJwk p.holder = .ok jwk ∧ jwkToPubkey P jwk = .ok p.holder ∧
      payload = issuePayload p jwk (issuedDigests P H claims salts) owlRoot ∧
      issuedPayload P H claims salts p = some payload ∧
      issue P H claims salts p = .ok
        ⟨signedToken P issuerHeader payload p.issuer.secret,
          (issueEntries claims salts).map (entryDisclosure P)⟩ := by
  obtain ⟨owlRoot, root⟩ := owlRootForClaims_isSome H
    (issueEntries_names claims salts ▸ claims.nodup)
  obtain ⟨jwk, encoded, decoded⟩ := jwk_roundTrip holder
  refine ⟨owlRoot, jwk, _, root, encoded, decoded, rfl, ?_, ?_⟩
  · simp [issuedPayload, root, encoded, Except.toOption]
  · simp only [issue, bind_eq_ok, okOr_eq_ok, pure_eq_ok]
    exact ⟨owlRoot, root, jwk, encoded, _, jwsSign_eq_ok ed, rfl⟩

/-! ## Presentation -/

/-- The value of a claim of the map. -/
def ClaimMap.value (claims : ClaimMap) (name : String) : Json :=
  (claims.fields.lookup name).getD .null

/-- The issued disclosure of a claim. -/
def disclosureOf (P : Primitives) (claims : ClaimMap) (salts : String → String) (name : String) :
    String :=
  encodeDisclosure P (salts name) name (claims.value name)

/-- The claims with the given names. -/
def ClaimMap.restrict (claims : ClaimMap) (names : List String) : List (String × Json) :=
  claims.fields.filter fun claim => claim.1 ∈ names

theorem ClaimMap.mem_value {claims : ClaimMap} {name : String}
    (member : name ∈ claims.fields.map Prod.fst) : (name, claims.value name) ∈ claims.fields := by
  obtain ⟨⟨_, value⟩, listed, rfl⟩ := List.mem_map.mp member
  have found := claims.sorted.lookup_of_mem listed
  simpa [ClaimMap.value, found] using listed

theorem ClaimMap.value_of_mem {claims : ClaimMap} {name : String} {value : Json}
    (member : (name, value) ∈ claims.fields) : claims.value name = value := by
  simp [ClaimMap.value, claims.sorted.lookup_of_mem member]

theorem find_disclosure {claims : ClaimMap} (salts : String → String) {name : String}
    (member : name ∈ claims.fields.map Prod.fst) :
    ((issueEntries claims salts).map (entryDisclosure P)).find? (fun d => d.1 = name) =
      some (name, disclosureOf P claims salts name) := by
  have general : ∀ fields : List (String × Json),
      ((fields.map fun claim => (⟨claim.1, salts claim.1, claim.2⟩ : ClaimEntry)).map
          (entryDisclosure P)).find? (fun d => d.1 = name) =
        (fields.lookup name).map fun value =>
          (name, encodeDisclosure P (salts name) name value) := by
    intro fields
    induction fields with
    | nil => rfl
    | cons field rest ih =>
      obtain ⟨other, value⟩ := field
      rw [Json.lookup_cons_ite, List.map_cons, List.map_cons, List.find?_cons]
      by_cases same : name = other
      · subst same
        simp [entryDisclosure]
      · simp only [entryDisclosure, Ne.symm same, decide_false, same, if_false]
        exact ih
  have found := claims.sorted.lookup_of_mem (ClaimMap.mem_value member)
  rw [issueEntries, general, found]
  rfl

theorem mem_issuedValues {claims : ClaimMap} {salts : String → String} {p : IssueParams}
    {name : String} (member : name ∈ claims.fields.map Prod.fst) :
    disclosureArray (salts name) name (claims.value name) ∈ issuedValues P H claims salts p := by
  refine List.mem_cons_of_mem _ (List.mem_append_right _ (List.mem_map.mpr ?_))
  exact ⟨⟨name, salts name, claims.value name⟩,
    List.mem_map.mpr ⟨_, ClaimMap.mem_value member, rfl⟩, rfl⟩

/-! ### Reading a disclosure back -/

section

variable {claims : ClaimMap} {salts : String → String} {p : IssueParams} {name : String}

theorem disclosureOf_discloses
    (read : RoundTrips P (disclosureArray (salts name) name (claims.value name))) :
    Discloses P (disclosureOf P claims salts name) name (claims.value name) :=
  ⟨_, _, unb64_b64 _, read.read, rfl, rfl⟩

theorem parseDisclosure_disclosureOf
    (read : RoundTrips P (disclosureArray (salts name) name (claims.value name))) :
    parseDisclosure P (disclosureOf P claims salts name) =
      .ok (name, disclosureOf P claims salts name) := by
  simp only [parseDisclosure, bind_eq_ok, decode64_eq_ok, parseJson_eq_ok, okOr_eq_ok, pure_eq_ok]
  exact ⟨_, unb64_b64 _, _, read.read, name, rfl, rfl⟩

theorem tilde_notMem_disclosureOf : '~' ∉ (disclosureOf P claims salts name).toList :=
  notMem_b64 (by decide) _

theorem digest_mem_issuedDigests (member : name ∈ claims.fields.map Prod.fst) :
    digest H (disclosureOf P claims salts name) ∈ issuedDigests P H claims salts := by
  simp only [issuedDigests, List.mem_insertionSort, List.mem_map]
  have found := List.mem_of_find?_eq_some (find_disclosure (P := P) salts member)
  exact ⟨_, List.mem_map.mp found, rfl⟩

end

/-- What issuing this credential asks of the libraries: its JSON is read back, and the
    digests of its disclosures do not collide. -/
structure Faithful (P : Primitives) (H : Hashes) (claims : ClaimMap) (salts : String → String)
    (p : IssueParams) : Prop where
  read : ∀ value ∈ issuedValues P H claims salts p, RoundTrips P value
  free : ∀ a ∈ claims.fields.map Prod.fst, ∀ b ∈ claims.fields.map Prod.fst,
    H.sha256 (asBytes (disclosureOf P claims salts a)) =
      H.sha256 (asBytes (disclosureOf P claims salts b)) →
    disclosureOf P claims salts a = disclosureOf P claims salts b

/-- Names whose disclosures have the same digest are the same name. -/
theorem name_of_digest {claims : ClaimMap} {salts : String → String} {p : IssueParams}
    (faithful : Faithful P H claims salts p)
    {a b : String} (ha : a ∈ claims.fields.map Prod.fst) (hb : b ∈ claims.fields.map Prod.fst)
    (same : digest H (disclosureOf P claims salts a) = digest H (disclosureOf P claims salts b)) :
    a = b := by
  have text := faithful.free a ha b hb (Vector.toList_inj.mp (b64_injective same))
  have parsedA := parseDisclosure_disclosureOf (faithful.read _ (mem_issuedValues ha))
  have parsedB := parseDisclosure_disclosureOf (faithful.read _ (mem_issuedValues hb))
  rw [text, parsedB] at parsedA
  exact (congrArg Prod.fst (Except.ok.inj parsedA)).symm

/-- The loop over presented disclosures collects their claims. -/
theorem verifyDisclosures_returns {claims : ClaimMap} {salts : String → String} {p : IssueParams}
    (faithful : Faithful P H claims salts p)
    {names : List String} (nodup : names.Nodup) (subset : names ⊆ claims.fields.map Prod.fst)
    (acc : List (String × Json)) (seen : List String)
    (fresh : ∀ name ∈ names, digest H (disclosureOf P claims salts name) ∉ seen) :
    ∃ seen', (names.map fun name => (name, disclosureOf P claims salts name)).foldlM
        (verifyDisclosure P H (issuedDigests P H claims salts)) (acc, seen) =
      .ok (names.foldl (fun acc name => Json.insertField name (claims.value name) acc) acc,
        seen') := by
  induction names generalizing acc seen with
  | nil => exact ⟨seen, rfl⟩
  | cons name rest ih =>
    obtain ⟨notLater, restNodup⟩ := List.nodup_cons.mp nodup
    have member : name ∈ claims.fields.map Prod.fst := subset List.mem_cons_self
    have round : verifyDisclosure P H (issuedDigests P H claims salts) (acc, seen)
        (name, disclosureOf P claims salts name) =
          .ok (Json.insertField name (claims.value name) acc,
            digest H (disclosureOf P claims salts name) :: seen) :=
      verifyDisclosure_eq_ok.mpr ⟨digest_mem_issuedDigests member, fresh name List.mem_cons_self,
        name, claims.value name, disclosureOf_discloses (faithful.read _ (mem_issuedValues member)), rfl⟩
    have later : ∀ other ∈ rest, digest H (disclosureOf P claims salts other) ∉
        digest H (disclosureOf P claims salts name) :: seen := by
      intro other listed hit
      rcases List.mem_cons.mp hit with same | old
      · have := name_of_digest faithful (subset (List.mem_cons_of_mem _ listed)) member same
        exact notLater (this ▸ listed)
      · exact fresh other (List.mem_cons_of_mem _ listed) old
    obtain ⟨seen', loop⟩ := ih restNodup (fun n h => subset (List.mem_cons_of_mem _ h))
      (Json.insertField name (claims.value name) acc) _ later
    refine ⟨seen', ?_⟩
    simp only [List.map_cons, List.foldlM_cons, bind_eq_ok]
    exact ⟨_, round, loop⟩

/-- Collecting the named claims one by one gives the restriction of the map. -/
theorem collect_eq_restrict {claims : ClaimMap} {names : List String} (nodup : names.Nodup)
    (subset : names ⊆ claims.fields.map Prod.fst) :
    names.foldl (fun acc name => Json.insertField name (claims.value name) acc) [] =
      claims.restrict names := by
  have collected : ∀ done : List String, done.Nodup →
      Json.SortedFields (done.foldl
        (fun acc name => Json.insertField name (claims.value name) acc) []) ∧
      (done.foldl (fun acc name => Json.insertField name (claims.value name) acc) []).Perm
        (done.map fun name => (name, claims.value name)) := by
    intro done
    induction done using List.reverseRecOn with
    | nil => exact fun _ => ⟨List.Pairwise.nil, List.Perm.refl _⟩
    | append_singleton done name ih =>
      intro doneNodup
      obtain ⟨earlier, _, apart⟩ := List.nodup_append.mp doneNodup
      obtain ⟨sorted, perm⟩ := ih earlier
      have absent : name ∉ (done.foldl
          (fun acc name => Json.insertField name (claims.value name) acc) []).map Prod.fst := by
        intro member
        have := (perm.map Prod.fst).mem_iff.mp member
        simp only [List.map_map, List.mem_map, Function.comp_apply, exists_eq_right] at this
        exact apart name this name (by simp) rfl
      rw [List.foldl_append, List.map_append]
      refine ⟨Json.insertField_sorted sorted, (Json.insertField_perm absent).trans ?_⟩
      exact (perm.cons _).trans (List.perm_append_singleton _ _).symm
  obtain ⟨sorted, perm⟩ := collected names nodup
  refine sorted.eq_of_perm (claims.sorted.sublist List.filter_sublist) (perm.trans ?_)
  rw [List.perm_ext_iff_of_nodup]
  · rintro ⟨name, value⟩
    simp only [ClaimMap.restrict, List.mem_map, Prod.mk.injEq, List.mem_filter, decide_eq_true_eq]
    constructor
    · rintro ⟨_, listed, rfl, rfl⟩
      exact ⟨ClaimMap.mem_value (subset listed), listed⟩
    · rintro ⟨member, listed⟩
      exact ⟨name, listed, rfl, ClaimMap.value_of_mem member⟩
  · exact (nodup.map (f := fun name => (name, claims.value name)) fun a b h => (Prod.ext_iff.mp h).1)
  · exact (claims.nodup.of_map).filter _

/-! ## Parsing what was framed -/

theorem parse_serialize {vc : SdJwtVc} (jwt : '~' ∉ vc.jwt.toList)
    (disclosures : ∀ d ∈ vc.disclosures,
      d.2 ≠ "" ∧ '~' ∉ d.2.toList ∧ parseDisclosure P d.2 = .ok d) :
    parse P vc.serialize = .ok (vc, none) := by
  refine parse_eq_ok.mpr ⟨vc.disclosures.map Prod.snd, "", ?_, rfl, ?_⟩
  · rw [SdJwtVc.serialize, splitChar_joinSegments]
    · intro s member
      rcases List.mem_cons.mp member with rfl | later
      · exact jwt
      · obtain ⟨d, listed, rfl⟩ := List.mem_map.mp later
        exact (disclosures d listed).2.1
    · simp
  · have kept : (vc.disclosures.map Prod.snd).filter (· ≠ "") = vc.disclosures.map Prod.snd := by
      rw [List.filter_eq_self]
      intro s member
      obtain ⟨d, listed, rfl⟩ := List.mem_map.mp member
      simpa using (disclosures d listed).1
    rw [kept, mapM_eq_ok, List.forall₂_map_left_iff, List.forall₂_same]
    exact fun d listed => (disclosures d listed).2.2

/-- A parsed credential survives being framed and parsed again. -/
theorem parse_serialize_of_parse {s : String} {vc : SdJwtVc} {kb : Option String}
    (parsed : parse P s = .ok (vc, kb)) : parse P vc.serialize = .ok (vc, none) := by
  obtain ⟨segments, last, framed, _, loop⟩ := parse_eq_ok.mp parsed
  have separate : ∀ seg ∈ vc.jwt :: segments, '~' ∉ seg.toList := by
    intro seg member
    apply notMem_of_mem_splitChar (s := s)
    rw [framed]
    exact List.mem_append_left _ member
  refine parse_serialize (separate _ List.mem_cons_self) fun d member => ?_
  obtain ⟨i, bound, rfl⟩ := List.mem_iff_getElem.mp member
  have rounds := mapM_eq_ok.mp loop
  have length := rounds.length_eq
  have round := List.Forall₂.get rounds (by omega) bound
  simp only [List.get_eq_getElem] at round
  have text := parseDisclosure_snd round
  have kept := List.getElem_mem (l := segments.filter (· ≠ "")) (n := i) (by omega)
  rw [← text, List.mem_filter] at kept
  exact ⟨by simpa using kept.2, separate _ (List.mem_cons_of_mem _ kept.1), text ▸ round⟩

/-! ## Main result -/

/-- The verified presentation carries what was issued. -/
structure Returned (P : Primitives) (claims : ClaimMap) (p : IssueParams) (names : List String)
    (owlRoot : Bytes32) (v : Verified) : Prop where
  claims : v.claims = claims.restrict names
  iss : v.iss = p.iss
  vct : v.vct = p.vct
  status : v.status = p.status
  owlRoot : v.owlRoot = some (hexEncode owlRoot.toList)
  holder : jwkToPubkey P v.cnfJwk = .ok p.holder

/-- The bytes a presentation consists of before a key-binding token. -/
def presentedPrefix (P : Primitives) (claims : ClaimMap) (salts : String → String) (jwt : String)
    (names : List String) : String :=
  joinSegments '~' (jwt :: names.map (disclosureOf P claims salts)) ""

/-- The digest of those bytes that a key-binding token signs. -/
def sdHashOf (H : Hashes) (pre : String) : String := b64 (H.sha256 (asBytes pre)).toList

section

variable {claims : ClaimMap} {salts : String → String} {p : IssueParams}

theorem findDisclosures_returns {jwt : String} {names : List String}
    (subset : names ⊆ claims.fields.map Prod.fst) :
    names.mapM (findDisclosure ⟨jwt, (issueEntries claims salts).map (entryDisclosure P)⟩) =
      .ok (names.map (disclosureOf P claims salts)) := by
  rw [mapM_eq_ok, List.forall₂_map_right_iff, List.forall₂_same]
  intro name member
  simp only [findDisclosure, bind_eq_ok, okOr_eq_ok, pure_eq_ok]
  exact ⟨_, find_disclosure salts (subset member), rfl⟩

theorem disclosure_parses (faithful : Faithful P H claims salts p) {name : String}
    (member : name ∈ claims.fields.map Prod.fst) :
    disclosureOf P claims salts name ≠ "" ∧ '~' ∉ (disclosureOf P claims salts name).toList ∧
      parseDisclosure P (disclosureOf P claims salts name) =
        .ok (name, disclosureOf P claims salts name) :=
  have read := faithful.read _ (mem_issuedValues member)
  ⟨b64_ne_empty read.nonempty, tilde_notMem_disclosureOf, parseDisclosure_disclosureOf read⟩

/-- Everything `verify` checks holds of a presentation of an issued credential, given that
    its last segment is empty or a key binding. -/
theorem accepted_of_presented (scheme : SignatureScheme P) (ed : p.issuer.algorithm = .ed25519)
    (faithful : Faithful P H claims salts p) {jwk : Json} {owlRoot : Bytes32}
    (issued : issuedPayload P H claims salts p =
      some (issuePayload p jwk (issuedDigests P H claims salts) owlRoot))
    {names : List String} (nodup : names.Nodup) (subset : names ⊆ claims.fields.map Prod.fst)
    {jwt : String} (last : String) (vp : VerifyParams)
    (token : jwt = signedToken P issuerHeader
      (issuePayload p jwk (issuedDigests P H claims salts) owlRoot) p.issuer.secret)
    (separate : '~' ∉ last.toList) (required : vp.requireKb = true → last ≠ "")
    (binding : last ≠ "" → ∃ kbPayload,
      KeyBinding P H vp jwk (presentedPrefix P claims salts jwt names) last kbPayload) :
    Accepted P H (presentedPrefix P claims salts jwt names ++ last) (p.issuer.publicKey P) vp
      ⟨p.iss, p.vct, claims.restrict names, jwk, p.status, decide (last ≠ ""),
        some (hexEncode owlRoot.toList)⟩
      jwt (names.map (disclosureOf P claims salts)) last issuerHeader
      (issuePayload p jwk (issuedDigests P H claims salts) owlRoot) where
  framed := by
    rw [presentedPrefix, ← joinSegments_eq_append, splitChar_joinSegments _ separate]
    intro s member
    rcases List.mem_cons.mp member with rfl | later
    · rw [token]
      exact tilde_notMem_compact _ _ _
    · obtain ⟨name, listed, rfl⟩ := List.mem_map.mp later
      exact tilde_notMem_disclosureOf
  issuerKey := ed
  signed := by
    rw [token]
    exact signedToken_valid scheme ed (faithful.read _ List.mem_cons_self)
      (faithful.read _ (by simp [issuedValues, issued])) issuerHeader_alg
  typ := .inl (by simp [issuerHeader, Json.getStr, Json.get_ofFields, Json.lookup_cons_ite,
    Json.asStr])
  sdAlg := issuePayload_sdAlg _ _ _ _
  disclosed := by
    obtain ⟨seen, loop⟩ := verifyDisclosures_returns faithful nodup subset [] [] (by simp)
    rw [collect_eq_restrict nodup subset] at loop
    refine ⟨_, _, seen, issuePayload_digests _ _ _ _, ?_, loop⟩
    have kept : (names.map (disclosureOf P claims salts)).filter (· ≠ "") =
        names.map (disclosureOf P claims salts) := by
      rw [List.filter_eq_self]
      intro s member
      obtain ⟨name, listed, rfl⟩ := List.mem_map.mp member
      simpa using (disclosure_parses faithful (subset listed)).1
    rw [kept, mapM_eq_ok, List.forall₂_map_left_iff, List.forall₂_map_right_iff, List.forall₂_same]
    exact fun name listed => (disclosure_parses faithful (subset listed)).2.2
  iss := issuePayload_iss _ _ _ _
  vct := issuePayload_vct _ _ _ _
  cnf := issuePayload_cnf _ _ _ _
  status := (issuePayload_status _ _ _ _).symm
  owlRoot := (issuePayload_owlRoot _ _ _ _).symm
  keyBound := by simp
  required := by simpa using required
  bound := by simpa [presentedPrefix] using binding

theorem kbPayload_get {kb : KbParams} {sdHash : String} :
    (kbPayload kb sdHash).getStr "aud" = some kb.aud ∧
      (kbPayload kb sdHash).getStr "nonce" = some kb.nonce ∧
      (kbPayload kb sdHash).getStr "sd_hash" = some sdHash := by
  simp [kbPayload, Json.getStr, Json.get_ofFields, Json.lookup_cons_ite, Json.asStr]

theorem kbHeader_get :
    kbHeader.getStr "typ" = some kbTyp ∧ kbHeader.getStr "alg" = some alg := by
  simp [kbHeader, Json.getStr, Json.get_ofFields, Json.lookup_cons_ite, Json.asStr]

/-- The holder's token binds the bytes it was made for. -/
theorem keyBinding_of_signed (scheme : SignatureScheme P) {kb : KbParams} {holder : PublicKey}
    {jwk : Json} {pre : String} (requireKb : Bool) (ed : kb.holder.algorithm = .ed25519)
    (key : kb.holder.publicKey P = holder) (decoded : jwkToPubkey P jwk = .ok holder)
    (readHeader : RoundTrips P kbHeader)
    (readPayload : RoundTrips P (kbPayload kb (sdHashOf H pre))) :
    KeyBinding P H ⟨requireKb, some kb.aud, some kb.nonce⟩ jwk pre
      (signedToken P kbHeader (kbPayload kb (sdHashOf H pre)) kb.holder.secret)
      (kbPayload kb (sdHashOf H pre)) where
  signed := ⟨holder, kbHeader, decoded,
    key ▸ signedToken_valid scheme ed readHeader readPayload kbHeader_get.2, kbHeader_get.1⟩
  aud := by simpa using kbPayload_get.1
  nonce := by simpa using kbPayload_get.2.1
  sdHash := kbPayload_get.2.2

variable {names : List String}

/-- A presentation without key binding verifies. -/
theorem presented_verifies (scheme : SignatureScheme P) (ed : p.issuer.algorithm = .ed25519)
    (faithful : Faithful P H claims salts p) {jwk : Json} {owlRoot : Bytes32}
    (decoded : jwkToPubkey P jwk = .ok p.holder)
    (issued : issuedPayload P H claims salts p =
      some (issuePayload p jwk (issuedDigests P H claims salts) owlRoot))
    (nodup : names.Nodup) (subset : names ⊆ claims.fields.map Prod.fst) {jwt : String}
    (token : jwt = signedToken P issuerHeader
      (issuePayload p jwk (issuedDigests P H claims salts) owlRoot) p.issuer.secret)
    (aud nonce : Option String) :
    ∃ s v, present P H ⟨jwt, (issueEntries claims salts).map (entryDisclosure P)⟩ names none =
        .ok s ∧
      verify P H s (p.issuer.publicKey P) ⟨false, aud, nonce⟩ = .ok v ∧
      Returned P claims p names owlRoot v ∧ v.keyBound = false := by
  have accepted := accepted_of_presented scheme ed faithful issued nodup subset
    "" ⟨false, aud, nonce⟩ token (by simp) (by simp) (by simp)
  refine ⟨_, _, ?_, verify_of_accepted accepted, ⟨rfl, rfl, rfl, rfl, rfl, decoded⟩, rfl⟩
  simp only [present, bind_eq_ok, pure_eq_ok]
  exact ⟨_, findDisclosures_returns subset, by simp [presentedPrefix]⟩

/-- A presentation with the holder's key-binding token is accepted as key-bound. -/
theorem presented_kb_accepted (scheme : SignatureScheme P) (ed : p.issuer.algorithm = .ed25519)
    (faithful : Faithful P H claims salts p) {jwk : Json} {owlRoot : Bytes32}
    (decoded : jwkToPubkey P jwk = .ok p.holder)
    (issued : issuedPayload P H claims salts p =
      some (issuePayload p jwk (issuedDigests P H claims salts) owlRoot))
    (nodup : names.Nodup) (subset : names ⊆ claims.fields.map Prod.fst) {jwt : String}
    (token : jwt = signedToken P issuerHeader
      (issuePayload p jwk (issuedDigests P H claims salts) owlRoot) p.issuer.secret)
    (kb : KbParams) (kbEd : kb.holder.algorithm = .ed25519)
    (kbKey : kb.holder.publicKey P = p.holder) (readHeader : RoundTrips P kbHeader)
    (readPayload : RoundTrips P
      (kbPayload kb (sdHashOf H (presentedPrefix P claims salts jwt names)))) (requireKb : Bool) :
    ∃ s v segments last,
      present P H ⟨jwt, (issueEntries claims salts).map (entryDisclosure P)⟩ names (some kb) =
        .ok s ∧
      Accepted P H s (p.issuer.publicKey P) ⟨requireKb, some kb.aud, some kb.nonce⟩ v jwt segments
        last issuerHeader (issuePayload p jwk (issuedDigests P H claims salts) owlRoot) ∧
      Returned P claims p names owlRoot v ∧ v.keyBound = true := by
  have binding := keyBinding_of_signed (H := H) scheme requireKb kbEd kbKey
    decoded readHeader readPayload
  have accepted := accepted_of_presented scheme ed faithful issued nodup subset _ _ token
    (tilde_notMem_compact _ _ _) (fun _ => compact_ne_empty _ _ _) (fun _ => ⟨_, binding⟩)
  refine ⟨_, _, _, _, ?_, accepted, ⟨rfl, rfl, rfl, rfl, rfl, decoded⟩,
    decide_eq_true (compact_ne_empty _ _ _)⟩
  simp only [present, bind_eq_ok, pure_eq_ok]
  exact ⟨_, findDisclosures_returns subset, _, jwsSign_eq_ok kbEd, rfl⟩

end

/-- Issue, present and verify are inverse, for every claim map and every choice of claims. -/
theorem sd_jwt_round_trip (P : Primitives) (H : Hashes) (scheme : SignatureScheme P)
    (claims : ClaimMap) (salts : String → String) (p : IssueParams)
    (ed : p.issuer.algorithm = .ed25519) (holder : p.holder.Valid P)
    (faithful : Faithful P H claims salts p) :
    (∃ vc owlRoot, issue P H claims salts p = .ok vc ∧
      owlRootForClaims H (issueEntries claims salts) = some owlRoot ∧
      parse P vc.serialize = .ok (vc, none) ∧
      ∀ names : List String, names.Nodup → names ⊆ claims.fields.map Prod.fst →
        -- Without key binding.
        (∀ aud nonce, ∃ s v, present P H vc names none = .ok s ∧
          verify P H s (p.issuer.publicKey P) ⟨false, aud, nonce⟩ = .ok v ∧
          Returned P claims p names owlRoot v ∧ v.keyBound = false) ∧
        -- With a key-binding token of the holder.
        (∀ kb : KbParams, kb.holder.algorithm = .ed25519 → kb.holder.publicKey P = p.holder →
          RoundTrips P kbHeader →
          RoundTrips P (kbPayload kb
            (sdHashOf H (presentedPrefix P claims salts vc.jwt names))) →
          ∀ requireKb, ∃ s v, present P H vc names (some kb) = .ok s ∧
            verify P H s (p.issuer.publicKey P) ⟨requireKb, some kb.aud, some kb.nonce⟩ = .ok v ∧
            Returned P claims p names owlRoot v ∧ v.keyBound = true)) ∧
    -- Parsing undoes framing on every credential that was issued or parsed.
    (∀ s vc kb, parse P s = .ok (vc, kb) → parse P vc.serialize = .ok (vc, none)) := by
  refine ⟨?_, fun s vc kb => parse_serialize_of_parse⟩
  obtain ⟨owlRoot, jwk, payload, root, _, decoded, rfl, issuedEq, returned⟩ :=
    issue_returns P H claims salts ed holder
  refine ⟨_, owlRoot, returned, root, ?_, ?_⟩
  · refine parse_serialize (tilde_notMem_compact _ _ _) fun d member => ?_
    obtain ⟨entry, listed, rfl⟩ := List.mem_map.mp member
    obtain ⟨⟨name, value⟩, field, rfl⟩ := List.mem_map.mp listed
    have parses := disclosure_parses faithful (List.mem_map.mpr ⟨_, field, rfl⟩)
    simpa [entryDisclosure, disclosureOf, ClaimMap.value_of_mem field] using parses
  · intro names nodup subset
    refine ⟨presented_verifies scheme ed faithful decoded issuedEq nodup subset rfl, ?_⟩
    intro kb kbEd kbKey readHeader readPayload requireKb
    obtain ⟨s, v, _, _, shown, accepted, facts⟩ :=
      presented_kb_accepted scheme ed faithful decoded issuedEq nodup subset rfl kb kbEd kbKey
        readHeader readPayload requireKb
    exact ⟨s, v, shown, verify_of_accepted accepted, facts⟩

/-! ## A credential, its presentation and its verification -/

/-- Quotes and backslashes are escaped; control characters do not occur below. -/
def renderString (s : String) : List Char :=
  '"' :: (s.toList.flatMap (fun c => if c = '"' ∨ c = '\\' then ['\\', c] else [c]) ++ ['"'])

mutual

/-- The compact text of a value; fractional numbers do not occur below. -/
def renderChars : Json → List Char
  | .null => "null".toList
  | .bool true => "true".toList
  | .bool false => "false".toList
  | .number (.posInt n) => (toString n).toList
  | .number (.negInt n) => (toString n).toList
  | .number (.float _) => "null".toList
  | .string s => renderString s
  | .array items => '[' :: (renderItems items ++ [']'])
  | .object fields => '\x7b' :: (renderFields fields ++ ['\x7d'])

def renderItems : List Json → List Char
  | [] => []
  | item :: rest => renderChars item ++ (if rest.isEmpty then [] else ',' :: renderItems rest)

def renderFields : List (String × Json) → List Char
  | [] => []
  | (name, value) :: rest =>
    renderString name ++ ':' :: (renderChars value ++
      (if rest.isEmpty then [] else ',' :: renderFields rest))

end

def render (value : Json) : Bytes := (renderChars value).flatMap String.utf8EncodeChar

/-- Libraries that read back the JSON texts of the known values, with signatures that name
    their signer and message. -/
def samplePrimitives (known : List Json) : Primitives where
  toVec := render
  fromSlice bytes := okOr (known.find? fun value => render value = bytes) "expected value"
  base64Error _ := "Invalid byte"
  hexError _ := "Invalid character"
  ed25519Decode _ := .ok ()
  p256Decode bytes := .ok bytes
  verifies _ key message signature := decide (signature = key ++ message)
  publicBytes _ secret := secret
  sign _ secret message := secret ++ message

theorem samplePrimitives_scheme (known : List Json) :
    SignatureScheme (samplePrimitives known) :=
  ⟨fun secret message => by simp [samplePrimitives]⟩

/-- A known value is read back when no other known value has its text. -/
theorem samplePrimitives_roundTrips {known : List Json} (distinct : (known.map render).Nodup)
    (texts : [] ∉ known.map render) {value : Json} (member : value ∈ known) :
    RoundTrips (samplePrimitives known) value where
  read := by
    have found : known.find? (fun other => render other = render value) = some value := by
      cases hit : known.find? (fun other => render other = render value) with
      | none => simpa using List.find?_eq_none.mp hit value member
      | some other =>
        have same : render other = render value := by simpa using List.find?_some hit
        rw [List.inj_on_of_nodup_map distinct (List.mem_of_find?_eq_some hit) member same]
    simp [samplePrimitives, found]
  nonempty := fun empty => texts (List.mem_map.mpr ⟨value, member, empty⟩)

def sampleClaims : ClaimMap where
  fields := [("email_verified", .bool true), ("given_name", .string "Ada")]
  sorted := by
    simp only [Json.SortedFields, List.pairwise_cons, List.mem_singleton, forall_eq,
      List.not_mem_nil, false_implies, implies_true, List.Pairwise.nil, and_true]
    decide

def sampleSalts (name : String) : String := "salt of " ++ name

def sampleHolder : KeyPair := ⟨.ed25519, List.replicate 32 2⟩

def sampleIssue : IssueParams where
  issuer := ⟨.ed25519, List.replicate 32 1⟩
  iss := "did:web:issuer.example"
  vct := "https://issuer.example/identity"
  holder := ⟨.ed25519, List.replicate 32 2⟩
  iat := some 1700000000
  exp := some 1800000000
  status := none

def sampleKb : KbParams := ⟨sampleHolder, "https://verifier.example", "9f86d081884c7d65", 1750000000⟩

/-- The presentation without its key-binding token. -/
def samplePrefix : Option String := do
  let payload ← issuedPayload (samplePrimitives []) sampleHashes sampleClaims sampleSalts sampleIssue
  let jwt := signedToken (samplePrimitives []) issuerHeader payload sampleIssue.issuer.secret
  return presentedPrefix (samplePrimitives []) sampleClaims sampleSalts jwt ["given_name"]

def sampleKnown : List Json :=
  issuedValues (samplePrimitives []) sampleHashes sampleClaims sampleSalts sampleIssue ++
    kbHeader :: (samplePrefix.map fun pre => kbPayload sampleKb (sdHashOf sampleHashes pre)).toList

theorem sampleKnown_roundTrips {value : Json} (member : value ∈ sampleKnown) :
    RoundTrips (samplePrimitives sampleKnown) value :=
  samplePrimitives_roundTrips (by decide) (by decide) member

theorem sample_faithful :
    Faithful (samplePrimitives sampleKnown) sampleHashes sampleClaims sampleSalts sampleIssue where
  read value member := sampleKnown_roundTrips (List.mem_append_left _ member)
  free := by decide +kernel

theorem sample_kbPayload {jwk : Json} {owlRoot : Bytes32}
    (issued : issuedPayload (samplePrimitives sampleKnown) sampleHashes sampleClaims sampleSalts
      sampleIssue = some (issuePayload sampleIssue jwk
        (issuedDigests (samplePrimitives sampleKnown) sampleHashes sampleClaims sampleSalts)
        owlRoot)) :
    kbPayload sampleKb (sdHashOf sampleHashes (presentedPrefix (samplePrimitives sampleKnown)
      sampleClaims sampleSalts (signedToken (samplePrimitives sampleKnown) issuerHeader
        (issuePayload sampleIssue jwk
          (issuedDigests (samplePrimitives sampleKnown) sampleHashes sampleClaims sampleSalts)
          owlRoot) sampleIssue.issuer.secret) ["given_name"])) ∈ sampleKnown := by
  have known : issuedPayload (samplePrimitives []) sampleHashes sampleClaims sampleSalts
      sampleIssue = some (issuePayload sampleIssue jwk
        (issuedDigests (samplePrimitives sampleKnown) sampleHashes sampleClaims sampleSalts)
        owlRoot) := issued
  refine List.mem_append_right _ (List.mem_cons_of_mem _ ?_)
  simp only [samplePrefix, known]
  exact List.mem_singleton.mpr rfl

theorem sampleHolder_valid : sampleIssue.holder.Valid (samplePrimitives sampleKnown) :=
  ⟨by simp [sampleIssue], rfl⟩

theorem sampleNames_subset : ["given_name"] ⊆ sampleClaims.fields.map Prod.fst := by
  simp [sampleClaims]

theorem sampleKb_headerRoundTrips : RoundTrips (samplePrimitives sampleKnown) kbHeader :=
  sampleKnown_roundTrips (List.mem_append_right _ List.mem_cons_self)

theorem sd_jwt_round_trip_at_sample :
    ∃ vc s v, issue (samplePrimitives sampleKnown) sampleHashes sampleClaims sampleSalts
        sampleIssue = .ok vc ∧
      present (samplePrimitives sampleKnown) sampleHashes vc ["given_name"] (some sampleKb) =
        .ok s ∧
      verify (samplePrimitives sampleKnown) sampleHashes s
        (sampleIssue.issuer.publicKey (samplePrimitives sampleKnown))
        ⟨true, some sampleKb.aud, some sampleKb.nonce⟩ = .ok v ∧
      v.claims = [("given_name", .string "Ada")] ∧ v.keyBound = true := by
  obtain ⟨⟨vc, owlRoot, issued, _, _, presented⟩, _⟩ :=
    sd_jwt_round_trip (samplePrimitives sampleKnown) sampleHashes
      (samplePrimitives_scheme _) sampleClaims sampleSalts sampleIssue rfl sampleHolder_valid
      sample_faithful
  obtain ⟨_, jwk, _, _, _, _, rfl, payload, returned⟩ :=
    issue_returns (samplePrimitives sampleKnown) sampleHashes sampleClaims sampleSalts
      (p := sampleIssue) rfl sampleHolder_valid
  obtain rfl := Except.ok.inj (returned.symm.trans issued)
  obtain ⟨s, v, shown, verified, facts, isBound⟩ :=
    (presented ["given_name"] (by simp) sampleNames_subset).2 sampleKb rfl rfl
      sampleKb_headerRoundTrips (sampleKnown_roundTrips (sample_kbPayload payload)) true
  exact ⟨_, s, v, issued, shown, verified, facts.claims, isBound⟩

/-- The sample credential, presented with its key binding. -/
@[irreducible] def samplePresentation : String :=
  match issue (samplePrimitives sampleKnown) sampleHashes sampleClaims sampleSalts sampleIssue with
  | .ok vc =>
    ((present (samplePrimitives sampleKnown) sampleHashes vc ["given_name"]
      (some sampleKb)).toOption).getD ""
  | .error _ => ""

def sampleOwlRoot : Option Bytes32 :=
  owlRootForClaims sampleHashes (issueEntries sampleClaims sampleSalts)

theorem sample_accepted :
    ∃ v jwt segments last jwk owlRoot, sampleOwlRoot = some owlRoot ∧
      Accepted (samplePrimitives sampleKnown) sampleHashes samplePresentation
        (sampleIssue.issuer.publicKey (samplePrimitives sampleKnown))
        ⟨true, some sampleKb.aud, some sampleKb.nonce⟩ v jwt segments last issuerHeader
        (issuePayload sampleIssue jwk
          (issuedDigests (samplePrimitives sampleKnown) sampleHashes sampleClaims sampleSalts)
          owlRoot) ∧
      Returned (samplePrimitives sampleKnown) sampleClaims sampleIssue ["given_name"] owlRoot v ∧
      v.keyBound = true := by
  obtain ⟨owlRoot, jwk, _, root, _, decoded, rfl, payload, issued⟩ :=
    issue_returns (samplePrimitives sampleKnown) sampleHashes sampleClaims sampleSalts
      (p := sampleIssue) rfl sampleHolder_valid
  obtain ⟨s, v, segments, last, shown, accepted, facts⟩ :=
    presented_kb_accepted (samplePrimitives_scheme _) rfl sample_faithful decoded payload
      (List.nodup_singleton "given_name") sampleNames_subset rfl sampleKb rfl rfl
      sampleKb_headerRoundTrips (sampleKnown_roundTrips (sample_kbPayload payload)) true
  have same : samplePresentation = s := by
    unfold samplePresentation
    simp only [issued, shown]
    rfl
  exact ⟨v, _, segments, last, jwk, owlRoot, root, same ▸ accepted, facts⟩

theorem sd_jwt_verify_sound_at_sample :
    ∃ v jwt segments last header payload,
      verify (samplePrimitives sampleKnown) sampleHashes samplePresentation
        (sampleIssue.issuer.publicKey (samplePrimitives sampleKnown))
        ⟨true, some sampleKb.aud, some sampleKb.nonce⟩ = .ok v ∧
      splitChar '~' samplePresentation = jwt :: segments ++ [last] ∧
      JwsValid (samplePrimitives sampleKnown)
        (sampleIssue.issuer.publicKey (samplePrimitives sampleKnown)) jwt header payload ∧
      ∃ jwk holder kbHeader kbPayload, cnfJwk payload = some jwk ∧
        jwkToPubkey (samplePrimitives sampleKnown) jwk = .ok holder ∧
        JwsValid (samplePrimitives sampleKnown) holder last kbHeader kbPayload ∧
        kbPayload.getStr "nonce" = some "9f86d081884c7d65" := by
  obtain ⟨v, _, _, _, _, _, _, accepted, _, isBound⟩ := sample_accepted
  have verified := verify_of_accepted accepted
  obtain ⟨jwt, segments, last, header, payload, framed, _, signed, _, _, bound⟩ :=
    sd_jwt_verify_sound (samplePrimitives sampleKnown) sampleHashes verified
  obtain ⟨⟨jwk, holder, kbHeader, kbPayload, cnf, key, token, _, _, _, nonce⟩, _⟩ := bound isBound
  exact ⟨v, jwt, segments, last, header, payload, verified, framed, signed, jwk, holder,
    kbHeader, kbPayload, cnf, key, token, nonce _ rfl⟩

end OwlId.ProofSystem
