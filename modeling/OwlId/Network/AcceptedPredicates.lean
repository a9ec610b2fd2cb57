import Mathlib
import OwlId.Issuer.Stamps
import OwlId.Network.Attested

/-! # What an accepted query says about the holder

A verifier never sees a claim: it accepts a query because a key is attested.  Here is what that is
worth.  Wherever the parties of the network have got to, whoever called the contracts and with
whatever witnesses, an accepted query holds of the claims that the issuer committed to in the
credential.  The argument passes through every layer: the verdict rests on an attested key, the key
was recorded by a contract, the contract opened a commitment under the root in the key, and that
root is the one the issuer signed.
-/

namespace OwlId.Network

open OwlId.Lib OwlId.ProofSystem OwlId.Contracts OwlId.Sidecar OwlId.Verification OwlId.Issuer
open OwlId.Sdk (PredicateKind contractKind)

/-! ## What a key says -/

/-- A claim of the credential meets the policy. -/
def Meets (entries : List ClaimEntry) {kind : Kind} (policy : Policy kind) : Prop :=
  ∃ entry ∈ entries, entry.name = kind.claimName ∧ policy.SatisfiedBy entry.value

section

variable (H : Hashes) (chain : Chain) (owlRoot : Bytes32)

/-- The secret of the credential is the one that was used up for the campaign. -/
def Enrolled (entries : List ClaimEntry) (epoch appId : Bytes32) : Prop :=
  ∃ call ∈ accepted H chain.personhoodGenesis chain.personhoodTransactions,
    call.owlRoot = owlRoot ∧ call.epoch = epoch ∧ call.appId = appId ∧
    ∃ entry ∈ entries, entry.name = "personhoodSecret" ∧
      claimValue32 entry.name entry.value = some call.personhoodSecret

/-- The fact holds of the claims. -/
def HoldsOf (entries : List ClaimEntry) : KeyFact → Prop
  | .age threshold epochYmd => Meets entries (.ageGte threshold epochYmd)
  | .ageRange minAge maxAge epochYmd => Meets entries (.ageRange minAge maxAge epochYmd)
  | .kyc threshold => Meets entries (.kycGte threshold)
  | .nationality clientId countries => Meets entries (.nationalityIn clientId countries)
  | .residency clientId countries => Meets entries (.residencyIn clientId countries)
  | .emailVerified => Meets entries .emailVerified
  | .uniquePersonhood epoch campaign clientId =>
    Enrolled H chain owlRoot entries epoch (personhoodAppId H clientId campaign)

/-- What the contracts have hashed. -/
def Chain.inputs : List HashInput :=
  ([.kyc, .age, .ageRange, .nationality, .residency, .email].flatMap fun kind =>
    runInputs H (chain.transactions kind)) ++ personhoodInputs H chain.personhoodTransactions

def policyInputs {kind : Kind} (policy : Policy kind) : List HashInput :=
  keyInput kind owlRoot (policy.param H) :: policy.inputs H

/-- What deriving the key of the fact hashes. -/
def factInputs : KeyFact → List HashInput
  | .age threshold epochYmd => policyInputs H owlRoot (.ageGte threshold epochYmd)
  | .ageRange minAge maxAge epochYmd => policyInputs H owlRoot (.ageRange minAge maxAge epochYmd)
  | .kyc threshold => policyInputs H owlRoot (.kycGte threshold)
  | .nationality clientId countries => policyInputs H owlRoot (.nationalityIn clientId countries)
  | .residency clientId countries => policyInputs H owlRoot (.residencyIn clientId countries)
  | .emailVerified => policyInputs H owlRoot .emailVerified
  | .uniquePersonhood epoch campaign clientId =>
    campaignInputs H owlRoot epoch (personhoodAppId H clientId campaign)

end

/-! ## Recorded keys -/

variable {H : Hashes} {chain : Chain} {entries : List ClaimEntry} {owlRoot : Bytes32}

theorem runInputs_subset (kind : Kind) :
    runInputs H (chain.transactions kind) ⊆ chain.inputs H := by
  have listed : kind ∈ [Kind.kyc, .age, .ageRange, .nationality, .residency, .email] := by
    cases kind <;> decide
  intro input hashed
  exact List.mem_append_left _ (List.mem_flatMap.mpr ⟨kind, listed, hashed⟩)

theorem personhoodInputs_subset :
    personhoodInputs H chain.personhoodTransactions ⊆ chain.inputs H :=
  List.subset_append_right _ _

theorem Chain.inputs_of_quiet (quiet : ∀ kind, chain.transactions kind = []) :
    chain.inputs H = personhoodInputs H chain.personhoodTransactions := by
  simp [Chain.inputs, quiet, runInputs]

theorem ledger_explained (kind : Kind) :
    Explained H (chain.transactions kind) (chain.ledger H kind) := by
  obtain ⟨owner, deployed⟩ := chain.deployed kind
  exact run_explained deployed _

theorem personhood_registered : Registered H
    (accepted H chain.personhoodGenesis chain.personhoodTransactions) (chain.personhood H) := by
  obtain ⟨owner, deployed⟩ := chain.personhoodDeployed
  exact run_registered deployed _

/-- The padded tags of the contracts tell them apart. -/
theorem pad32_tag_inj : ∀ kind kind' : Kind, pad32 kind.tag = pad32 kind'.tag → kind = kind' := by
  have fit : ∀ kind : Kind, (asBytes kind.tag).length ≤ 32 ∧ 0 ∉ asBytes kind.tag := by
    intro kind
    cases kind <;> decide
  intro kind kind' same
  have tags := pad32_inj (fit kind) (fit kind') same
  cases kind <;> cases kind' <;> first | rfl | exact absurd tags (by decide)

theorem pad32_tag_ne_personhood (kind : Kind) : pad32 kind.tag ≠ pad32 tagUniquePersonhood := by
  intro same
  have tags := pad32_inj (by cases kind <;> decide) (by decide) same
  cases kind <;> exact absurd tags (by decide)

/-- A policy's key was recorded by the policy's own contract. -/
theorem policy_recorded {kind : Kind} {policy : Policy kind} {path : String}
    (free : CollisionFree H (policyInputs H owlRoot policy ++ chain.inputs H))
    (recorded : chain.Records H path (policy.key H owlRoot)) :
    policy.key H owlRoot ∈ (chain.ledger H kind).log.attestations := by
  have asked : wordsInput [pad32 kind.tag, owlRoot, policy.param H] ∈
      policyInputs H owlRoot policy ++ chain.inputs H := List.mem_cons_self
  rcases recorded with ⟨other, _, held⟩ | ⟨_, held⟩
  · obtain ⟨tx, among, call, called, _, same⟩ := ledger_explained other _ held
    have hashed := List.mem_append_right (policyInputs H owlRoot policy)
      (runInputs_subset other (mem_runInputs (H := H) among called List.mem_cons_self))
    rw [policy.key_eq_keyOf] at same
    have words := free.words _ _ asked hashed same
    rw [List.cons.injEq] at words
    obtain rfl := pad32_tag_inj kind other words.1
    exact held
  · obtain ⟨call, among, same⟩ := personhood_registered.keys _ held
    have hashed := List.mem_append_right (policyInputs H owlRoot policy)
      (personhoodInputs_subset (inputs_of_accepted among List.mem_cons_self))
    rw [policy.key_eq_keyOf] at same
    have words := free.words _ _ asked hashed same
    rw [List.cons.injEq] at words
    exact absurd words.1 (pad32_tag_ne_personhood kind)

/-- A recorded policy is met by a claim the issuer committed to. -/
theorem meets_of_recorded {kind : Kind} {policy : Policy kind} {path : String}
    (free : CollisionFree H
      (policyInputs H owlRoot policy ++ chain.inputs H ++ credentialInputs H entries))
    (root : owlRootForClaims H entries = some owlRoot)
    (recorded : chain.Records H path (policy.key H owlRoot)) : Meets entries policy := by
  have held := policy_recorded (free.mono (List.subset_append_left _ _)) recorded
  rw [policy.key_eq_keyOf] at held
  have run : CollisionFree H (keyInput kind owlRoot (policy.param H) ::
      runInputs H (chain.transactions kind) ++ credentialInputs H entries) := by
    refine free.mono (append_subset_append ?_ (List.Subset.refl _))
    refine List.cons_subset.mpr ⟨List.mem_append_left _ List.mem_cons_self, ?_⟩
    exact List.subset_append_of_subset_right _ (runInputs_subset kind)
  obtain ⟨call, hashed, holds, param, entry, issued, name, bears⟩ :=
    committed_of_recorded (ledger_explained kind) run root held
  refine ⟨entry, issued, name, Policy.satisfied ?_ holds param (name ▸ bears)⟩
  refine free.mono (List.append_subset.mpr ⟨?_, ?_⟩)
  · have own : call.paramInputs H ⊆ call.inputs H :=
      List.subset_cons_of_subset _ (List.subset_cons_of_subset _ (List.subset_append_right _ _))
    refine List.subset_append_of_subset_left _ (List.subset_append_of_subset_right _ ?_)
    exact List.Subset.trans own (List.Subset.trans hashed (runInputs_subset kind))
  · refine List.subset_append_of_subset_left _ (List.subset_append_of_subset_left _ ?_)
    exact List.subset_cons_self _ _

/-- A campaign's key was recorded for the secret of the credential. -/
theorem enrolled_of_recorded {epoch appId : Bytes32} {path : String}
    (free : CollisionFree H
      (campaignInputs H owlRoot epoch appId ++ chain.inputs H ++ credentialInputs H entries))
    (root : owlRootForClaims H entries = some owlRoot)
    (recorded : chain.Records H path (uniquePersonhoodKey H owlRoot epoch appId)) :
    Enrolled H chain owlRoot entries epoch appId := by
  have asked : wordsInput [pad32 tagUniquePersonhood, owlRoot, hashPair H epoch appId] ∈
      campaignInputs H owlRoot epoch appId ++ chain.inputs H ++ credentialInputs H entries :=
    List.mem_append_left _ List.mem_cons_self
  rcases recorded with ⟨other, _, held⟩ | ⟨_, held⟩
  · obtain ⟨tx, among, call, called, _, same⟩ := ledger_explained other _ held
    have hashed := runInputs_subset other (mem_runInputs (H := H) among called List.mem_cons_self)
    have words := free.words _ _ asked
      (List.mem_append_left _ (List.mem_append_right _ hashed)) same
    rw [List.cons.injEq] at words
    exact absurd words.1.symm (pad32_tag_ne_personhood other)
  · obtain ⟨call, among, same⟩ := personhood_registered.keys _ held
    have mine : call.inputs H ⊆ chain.inputs H :=
      List.Subset.trans (inputs_of_accepted among) personhoodInputs_subset
    have all : chain.inputs H ⊆
        campaignInputs H owlRoot epoch appId ++ chain.inputs H ++ credentialInputs H entries :=
      List.subset_append_of_subset_left _ (List.subset_append_right _ _)
    have words := free.words _ [pad32 tagUniquePersonhood, call.owlRoot,
      hashPair H call.epoch call.appId] asked
      (all (mine (by simp [PersonhoodCall.inputs, campaignInputs]))) same
    simp only [List.cons.injEq, and_true, true_and] at words
    have scope := free.words [epoch, appId] [call.epoch, call.appId]
      (by simp [campaignInputs])
      (all (mine (by simp [PersonhoodCall.inputs, campaignInputs]))) words.2
    simp only [List.cons.injEq, and_true] at scope
    obtain ⟨leaf, callRoot⟩ := personhood_registered.bound call among
    have opened := entry_of_path (by decide)
      (free.mono (append_subset_append
        (List.Subset.trans (List.subset_append_right _ _)
          (List.Subset.trans mine (List.subset_append_right _ _))) (List.Subset.refl _)))
      leaf (callRoot ▸ words.1 ▸ root)
    obtain ⟨entry, issued, name, bears, _⟩ := opened
    exact ⟨call, among, words.1.symm, scope.1.symm, scope.2.symm, entry, issued, name, bears⟩

/-- A recorded fact holds of the claims the issuer committed to. -/
theorem holdsOf_of_recorded {fact : KeyFact} {path : String}
    (free : CollisionFree H
      (factInputs H owlRoot fact ++ chain.inputs H ++ credentialInputs H entries))
    (root : owlRootForClaims H entries = some owlRoot)
    (recorded : chain.Records H path (fact.key H owlRoot)) :
    HoldsOf H chain owlRoot entries fact := by
  cases fact with
  | age threshold epochYmd => exact meets_of_recorded free root recorded
  | ageRange minAge maxAge epochYmd => exact meets_of_recorded free root recorded
  | kyc threshold => exact meets_of_recorded free root recorded
  | nationality clientId countries => exact meets_of_recorded free root recorded
  | residency clientId countries => exact meets_of_recorded free root recorded
  | emailVerified => exact meets_of_recorded free root recorded
  | uniquePersonhood epoch campaign clientId => exact enrolled_of_recorded free root recorded

/-! ## Accepted presentations -/

/-- What the verdict on a query shows of the presentation made for it. -/
structure Shown (H : Hashes) (W : World) (net : Net) (request : VerifyDcqlRequest)
    (q : DcqlCredentialQuery) (presentation : String) (issuer : PublicKey) (verified : Verified)
    (anchor : Bytes32) (fact : KeyFact) : Prop where
  trusted : ∃ issuerHex, issuerKey W presentation = .ok (issuerHex, issuer)
  /-- The issuer signed the credential, and its holder this presentation of it. -/
  signed : ∃ jwt segments last header payload, Accepted W.primitives H presentation issuer
    ⟨true, request.audience, some request.challenge⟩ verified jwt segments last header payload
  unrevoked : Unrevoked W net.service.mirrors.revocations.cache presentation issuer verified
  /-- The fact is the one the query asks for, this month. -/
  asked : ∃ predicate clock, q.owlPredicate = some predicate ∧
    ClockReading.month clock = utcMonth W.now ∧ predicate.fact clock request.verifier = some fact
  root : owlRootAnchor verified.owlRoot = some anchor
  recorded : ∃ path, net.chain.Records H path (fact.key H anchor)

variable {W : World} {net : Net} {request : VerifyDcqlRequest} {q : DcqlCredentialQuery}
  {presentation : String}

/-- An attested key is recorded, since the mirror is backed. -/
theorem recorded_of_attested {keyHex : String} {key : Bytes32} (backed : Backed H net)
    (reads : Reads H W net) (hex : keyHex = bytesHex key)
    (attested : InAttestedSet W net.service.mirrors.attestations keyHex) :
    ∃ path, net.chain.Records H path key := by
  subst hex
  rcases attested with held | ⟨path, onChain⟩
  · obtain ⟨path, other, recorded, same⟩ := backed.mirrored _ held
    obtain rfl := bytesHex_inj.mp same
    exact ⟨path, recorded⟩
  · exact ⟨path, backed.copies path key (reads.attested path key onChain)⟩

theorem shown_of_satisfied (backed : Backed H net) (reads : Reads H W net)
    (satisfied : PresentationSatisfies W request net.service.mirrors q presentation) :
    ∃ issuer verified anchor fact,
      Shown H W net request q presentation issuer verified anchor fact := by
  obtain ⟨clock, month⟩ := reads.clock
  obtain ⟨outcome, ak, passes, derived, attested⟩ := satisfied
  obtain ⟨issuerHex, issuer, verified, checked, unrevoked, rfl⟩ := passes_iff.mp passes
  simp only [checkPresentation, bind_eq_ok, mapErr_eq_ok, pure_eq_ok] at checked
  obtain ⟨⟨issuerHex', issuer'⟩, trusted, verified', returns, same⟩ := checked
  simp only [Prod.mk.injEq] at same
  obtain ⟨rfl, rfl, rfl⟩ := same
  rw [reads.hashes] at returns
  obtain ⟨jwt, segments, last, header, payload, signed⟩ := verify_returns returns
  rw [keyFor, reads.hashes, ← month] at derived
  obtain ⟨_, _, _, _, predicate, key, asks, derived, hex⟩ := (deriveAttestKey_eq_ok _ _).mp derived
  obtain ⟨_, ⟨anchor, rooted, recipe⟩, _⟩ := predicateKey_eq_ok.mp derived
  rw [OwlPredicate.recipe_eq_fact, Option.map_eq_some_iff] at recipe
  obtain ⟨fact, asked, rfl⟩ := recipe
  refine ⟨issuer', verified', anchor, fact, ⟨issuerHex', trusted⟩,
    ⟨jwt, segments, last, header, payload, signed⟩, unrevoked,
    ⟨predicate, clock, asks, month, asked⟩,
    signed.owlRootHex_eq ▸ rooted, recorded_of_attested backed reads hex attested⟩

/-- A valid verdict shows, of every presented query that its id identifies, its fact. -/
theorem shown_of_valid {response : VerifyDcqlResponse} {service' : Service}
    (backed : Backed H net) (reads : Reads H W net)
    (returns : verifyDcql W net.service request = (.ok response, service'))
    (valid : response.valid = true) (among : q ∈ request.query.credentials)
    (identified : (request.query.credentials.map DcqlCredentialQuery.id).count q.id = 1)
    (presented : request.query.credentialSets = none ∨ q.id ∈ request.vpToken.rows.map Prod.fst) :
    ∃ presentation issuer verified anchor fact, (q.id, [presentation]) ∈ request.vpToken.rows ∧
      Shown H W net request q presentation issuer verified anchor fact := by
  obtain ⟨entries, solved⟩ := verifyDcql_valid returns valid
  have here : q.id ∈ request.vpToken.rows.map Prod.fst := by
    rcases presented with absent | here
    · exact (checkCredentialSets_eq_ok.mp solved).1 absent q among
    · exact here
  obtain ⟨presentation, row, satisfied⟩ :=
    satisfied_of_selected entries here (queryById_of_count_one among identified)
  obtain ⟨issuer, verified, anchor, fact, shown⟩ := shown_of_satisfied backed reads satisfied
  exact ⟨presentation, issuer, verified, anchor, fact, row, shown⟩

/-! ## A person at a verifier -/

def personClaims : ClaimMap where
  fields := [("personhoodSecret", .string Contracts.sampleSecret)]
  sorted := List.pairwise_singleton _ _

def personSalts (_ : String) : String := "salt one"

/-- The presentation, which discloses nothing, without its key-binding token. -/
def personPrefix : Option String := do
  let payload ← issuedPayload (samplePrimitives []) sampleHashes personClaims personSalts
    sampleIssue
  let jwt := signedToken (samplePrimitives []) issuerHeader payload sampleIssue.issuer.secret
  return presentedPrefix (samplePrimitives []) personClaims personSalts jwt []

def personKnown : List Json :=
  issuedValues (samplePrimitives []) sampleHashes personClaims personSalts sampleIssue ++
    kbHeader :: (personPrefix.map fun pre => kbPayload sampleKb (sdHashOf sampleHashes pre)).toList

theorem personKnown_roundTrips {value : Json} (member : value ∈ personKnown) :
    RoundTrips (samplePrimitives personKnown) value :=
  samplePrimitives_roundTrips (by decide +kernel) (by decide +kernel) member

theorem person_faithful :
    Faithful (samplePrimitives personKnown) sampleHashes personClaims personSalts sampleIssue where
  read value member := personKnown_roundTrips (List.mem_append_left _ member)
  free a here b there _ := by
    obtain rfl : a = "personhoodSecret" := List.mem_singleton.mp here
    obtain rfl : b = "personhoodSecret" := List.mem_singleton.mp there
    rfl

theorem personHolder_valid : sampleIssue.holder.Valid (samplePrimitives personKnown) :=
  ⟨by simp [sampleIssue], rfl⟩

theorem person_kbPayload {jwk : Json} {owlRoot : Bytes32}
    (issued : issuedPayload (samplePrimitives personKnown) sampleHashes personClaims personSalts
      sampleIssue = some (issuePayload sampleIssue jwk
        (issuedDigests (samplePrimitives personKnown) sampleHashes personClaims personSalts)
        owlRoot)) :
    kbPayload sampleKb (sdHashOf sampleHashes (presentedPrefix (samplePrimitives personKnown)
      personClaims personSalts (signedToken (samplePrimitives personKnown) issuerHeader
        (issuePayload sampleIssue jwk
          (issuedDigests (samplePrimitives personKnown) sampleHashes personClaims personSalts)
          owlRoot) sampleIssue.issuer.secret) [])) ∈ personKnown := by
  have known : issuedPayload (samplePrimitives []) sampleHashes personClaims personSalts
      sampleIssue = some (issuePayload sampleIssue jwk
        (issuedDigests (samplePrimitives personKnown) sampleHashes personClaims personSalts)
        owlRoot) := issued
  refine List.mem_append_right _ (List.mem_cons_of_mem _ ?_)
  simp only [personPrefix, known]
  exact List.mem_singleton.mpr rfl

/-- The sample challenge, answered with a presentation that discloses nothing. -/
@[irreducible] def personPresentation : String :=
  match issue (samplePrimitives personKnown) sampleHashes personClaims personSalts sampleIssue with
  | .ok vc =>
    ((present (samplePrimitives personKnown) sampleHashes vc [] (some sampleKb)).toOption).getD ""
  | .error _ => ""

theorem person_accepted : ∃ vc v jwt segments last header payload,
    issue (samplePrimitives personKnown) sampleHashes personClaims personSalts sampleIssue =
      .ok vc ∧ issuerJwt personPresentation = vc.jwt ∧
    Accepted (samplePrimitives personKnown) sampleHashes personPresentation
      (sampleIssue.issuer.publicKey (samplePrimitives personKnown))
      ⟨true, some sampleKb.aud, some sampleKb.nonce⟩ v jwt segments last header payload ∧
    Returned (samplePrimitives personKnown) personClaims sampleIssue [] (personRoot "salt one")
      v := by
  obtain ⟨owlRoot, jwk, _, root, _, decoded, rfl, payload, issued⟩ :=
    issue_returns (samplePrimitives personKnown) sampleHashes personClaims personSalts
      (p := sampleIssue) rfl personHolder_valid
  obtain ⟨s, v, segments, last, shown, accepted, facts, _⟩ :=
    presented_kb_accepted (samplePrimitives_scheme _) rfl person_faithful decoded payload
      List.nodup_nil (List.nil_subset _) rfl sampleKb rfl rfl
      (personKnown_roundTrips (List.mem_append_right _ List.mem_cons_self))
      (personKnown_roundTrips (person_kbPayload payload)) true
  have same : personPresentation = s := by
    unfold personPresentation
    simp only [issued, shown]
    rfl
  subst same
  obtain rfl := Option.some.inj (root.symm.trans (personRoot_issued "salt one"))
  exact ⟨_, v, _, segments, last, _, _, issued, accepted.issuerJwt_eq, accepted, facts⟩

/-- The sample world, with libraries that read the person's credential. -/
def personWorld : World :=
  { sampleWorld 1800000000 with primitives := samplePrimitives personKnown }

theorem person_checked : ∃ verified,
    checkPresentation personWorld sampleKb.nonce (some sampleKb.aud) personPresentation =
      .ok (sampleIssuerHex, sampleIssue.issuer.publicKey (samplePrimitives personKnown),
        verified) ∧
    verified.status = none ∧
    owlRootHex (samplePrimitives personKnown) personPresentation =
      some (hexEncode (personRoot "salt one").toList) := by
  obtain ⟨_, v, _, _, _, _, _, _, _, accepted, returned⟩ := person_accepted
  have peeked : peekIss (samplePrimitives personKnown) personPresentation =
      .ok sampleIssue.iss := by
    rw [accepted.peekIss_eq, returned.iss]
  refine ⟨v, ?_, returned.status, by rw [accepted.owlRootHex_eq, returned.owlRoot]⟩
  simp only [checkPresentation, issuerKey, bind_eq_ok, mapErr_eq_ok, ensure_eq_ok, pure_eq_ok,
    exists_const]
  refine ⟨(sampleIssuerHex, _), ⟨_, peeked, ⟨sampleIssue.iss, sampleIssuerHex, .ed25519, "00"⟩,
    by simp [personWorld, sampleWorld], rfl, (), ?_, [sampleIssuerHex], rfl, (), ?_, _, ?_, rfl⟩,
    v, verify_of_accepted accepted, rfl⟩
  · simp [anchorCheck, personWorld, sampleWorld]
  · simp [issuerTrust, eqIgnoreAsciiCase]
  · simp only [PublicKey.fromHex, bind_eq_ok, okOr_eq_ok]
    exact ⟨List.replicate 32 1, hexDecode_hexEncode _, rfl⟩

theorem person_unrevoked {verified : Verified} (status : verified.status = none)
    (attestations : Finset String) (issuerPk : PublicKey) :
    Unrevoked personWorld (sampleMirrors attestations).revocations.cache personPresentation
      issuerPk verified where
  cached := by
    rw [sampleMirrors, RevocationRepository.initializeCache_coherent]
    rfl
  chain := by
    have decoded := credentialIdHex_credentialId (P := samplePrimitives personKnown)
      (H := sampleHashes) personPresentation
    simp [isCredentialRevoked, personWorld, sampleWorld, decoded]
  status := by simp [statusRevoked, status]

def personQuery : DcqlCredentialQuery :=
  plainQuery "person" (.uniquePersonhood (bytesHex (pad32 "2025")) (bytesHex (pad32 "vote")))

def personRequest : VerifyDcqlRequest where
  vpToken := Table.empty.insert ("person", [personPresentation])
  challenge := sampleKb.nonce
  audience := some sampleKb.aud
  verifierId := none
  query := ⟨[personQuery], none⟩

def personFact : KeyFact := .uniquePersonhood (pad32 "2025") (pad32 "vote") sampleKb.aud

def personKey : Bytes32 := personFact.key sampleHashes (personRoot "salt one")

/-- A credential of the person is used for the verifier's campaign. -/
def enrolling (salt : String) : PersonhoodTransaction where
  caller := pad32 "holder"
  call := .attest
    { personhoodSecret := Vector.replicate 32 0x55
      claimSalt := salt32For sampleHashes salt
      claimPath := lonePath sampleHashes (personLeaf salt)
      owlRoot := personRoot salt
      epoch := pad32 "2025"
      appId := personhoodAppId sampleHashes sampleKb.aud (pad32 "vote") }

def personStart : Net where
  chain := ⟨fun _ => sampleLedger, fun _ => ⟨_, sample_deployed⟩, fun _ => [], personLedger,
    ⟨_, person_deployed⟩, []⟩
  copies _ := []
  inFlight := []
  issuers := Table.empty
  service := sampleService 1800000000 ∅

/-- The service has heard that the credential was used. -/
def personNet : Net where
  chain := personStart.chain.submitPersonhood (enrolling "salt one")
  copies := Function.update personStart.copies "personhood" [personKey]
  inFlight := []
  issuers := Table.empty
  service := sampleService 1800000000 (insert (bytesHex personKey) ∅)

/-- The contract has refused the second credential of the person. -/
def personLater : Net :=
  { personNet with chain := personNet.chain.submitPersonhood (enrolling "salt two") }

theorem person_enrolled :
    personKey ∈ (personNet.chain.personhood sampleHashes).log.attestations := by
  decide +kernel

theorem personStart_initial : Initial personStart where
  copies _ := rfl
  inFlight := rfl
  attestations := rfl

theorem personNet_reached : Reaches sampleHashes personStart personNet := by
  have recorded : ∀ key ∈ [personKey],
      personNet.chain.Records sampleHashes "personhood" key := by
    intro key held
    obtain rfl := List.mem_singleton.mp held
    exact .inr ⟨rfl, person_enrolled⟩
  have announced : diffPredicate (some []) [personKey] = [.attestation (bytesHex personKey)] := by
    simp [diffPredicate]
  have transacted : Step sampleHashes personStart { personStart with chain := personNet.chain } :=
    .transactPersonhood (enrolling "salt one")
  have observed : Step sampleHashes { personStart with chain := personNet.chain }
      { personNet with
        inFlight := diffPredicate (some []) [personKey]
        service := personStart.service } := .observe "personhood" (some []) [personKey] recorded
  have delivered : Step sampleHashes { personNet with
      inFlight := diffPredicate (some []) [personKey]
      service := personStart.service } personNet :=
    .deliver (.attestation (bytesHex personKey)) [] announced
  exact ((Relation.ReflTransGen.single transacted).tail observed).tail delivered

theorem person_reads {net : Net} : Reads sampleHashes personWorld net where
  hashes := rfl
  clock := ⟨⟨⟨2027, 1⟩, by decide⟩, by decide⟩
  attested path key onChain := by simp [personWorld, sampleWorld] at onChain

theorem decodeHex32_bytesHex (word : Bytes32) : decodeHex32 (bytesHex word) = .ok word := by
  simp [decodeHex32, bytesHex]

theorem person_fact (clock : ClockReading) :
    OwlPredicate.fact clock sampleKb.aud
      (.uniquePersonhood (bytesHex (pad32 "2025")) (bytesHex (pad32 "vote"))) =
        some personFact := by
  simp only [OwlPredicate.fact, decodeHex32_bytesHex]
  rfl

theorem person_row : (personQuery.id, [personPresentation]) ∈ personRequest.vpToken.rows := by
  simp [personRequest, personQuery, plainQuery, Table.insert, Table.empty]

theorem person_valid : ∃ response service',
    verifyDcql personWorld personNet.service personRequest = (.ok response, service') ∧
      response.valid = true := by
  refine verifyDcql_of_mirrored rfl (sample_fresh _ _) ?_ ?_
  · intro row member
    obtain rfl : row = ("person", [personPresentation]) := by
      simpa [personRequest, Table.insert, Table.empty] using member
    obtain ⟨verified, checked, status, rootHex⟩ := person_checked
    refine ⟨personPresentation, _, rfl, passes_iff.mpr ⟨_, _, verified, checked,
      person_unrevoked status _ _, rfl⟩, ?_⟩
    intro q selected
    obtain rfl : q = personQuery := by
      simpa [queryById, personRequest, personQuery, plainQuery] using selected.symm
    refine ⟨⟨bytesHex personKey, "personhood"⟩, keyFor_plainQuery.mpr ⟨personKey, ?_, rfl⟩,
      Finset.mem_insert_self _ _⟩
    rw [predicateKey_eq_ok]
    refine ⟨by decide, ⟨personRoot "salt one", ?_, ?_⟩, rfl⟩
    · rw [show owlRootHex personWorld.primitives personPresentation = _ from rootHex,
        owlRootAnchor_hexEncode]
    · rw [show utcMonth personWorld.now = ClockReading.month ⟨⟨2027, 1⟩, by decide⟩ by decide,
        OwlPredicate.recipe_eq_fact]
      exact congrArg (Option.map fun fact : KeyFact => fact.key sampleHashes _) (person_fact _)
  · refine checkCredentialSets_eq_ok.mpr ⟨?_, ?_⟩
    · rintro _ q member
      obtain rfl := List.mem_singleton.mp member
      simp [personRequest, personQuery, plainQuery, Table.insert, Table.empty]
    · rintro set required
      simp [requiredSets, personRequest] at required

theorem person_identified :
    (personRequest.query.credentials.map DcqlCredentialQuery.id).count personQuery.id = 1 := by
  decide

/-- What concerns one of the two credentials. -/
def enrollingInputs (salt : String) : List HashInput :=
  factInputs sampleHashes (personRoot salt) personFact ++
    (commitInput "personhoodSecret" (Vector.replicate 32 0x55) (salt32For sampleHashes salt) ::
      sparseInputs sampleHashes [personLeaf salt])

theorem personLater_collisionFree : CollisionFree sampleHashes
    (factInputs sampleHashes (personRoot "salt one") personFact ++
      personLater.chain.inputs sampleHashes ++
      credentialInputs sampleHashes (personEntries "salt one")) := by
  have free : CollisionFree sampleHashes (enrollingInputs "salt one" ++
      personhoodInputs sampleHashes [enrolling "salt one", enrolling "salt two"]) :=
    sampleHashes_collisionFree (by decide +kernel)
  rw [Chain.inputs_of_quiet (H := sampleHashes) fun _ => rfl]
  refine free.mono (List.append_subset.mpr ⟨List.append_subset.mpr ⟨?_, ?_⟩, ?_⟩)
  · exact List.subset_append_of_subset_left _ (List.subset_append_left _ _)
  · exact List.subset_append_right _ _
  · refine List.subset_append_of_subset_left _ (List.subset_append_of_subset_right _ ?_)
    exact credentialInputs_singleton person_bears

theorem personNet_collisionFree : CollisionFree sampleHashes
    (factInputs sampleHashes (personRoot "salt one") personFact ++
      personNet.chain.inputs sampleHashes ++
      credentialInputs sampleHashes (personEntries "salt one")) := by
  have before : personNet.chain.inputs sampleHashes ⊆ personLater.chain.inputs sampleHashes := by
    have appended : personLater.chain.personhoodTransactions =
        personNet.chain.personhoodTransactions ++ [enrolling "salt two"] := rfl
    rw [Chain.inputs_of_quiet fun _ => rfl, Chain.inputs_of_quiet fun _ => rfl, appended,
      personhoodInputs, personhoodInputs, List.flatMap_append]
    exact List.subset_append_left _ _
  exact personLater_collisionFree.mono (append_subset_append
    (append_subset_append (List.Subset.refl _) before) (List.Subset.refl _))

theorem person_shown {net : Net} {presentation : String} {issuer : PublicKey}
    {verified : Verified} {anchor : Bytes32} {fact : KeyFact}
    (row : (personQuery.id, [presentation]) ∈ personRequest.vpToken.rows)
    (shown : Shown sampleHashes personWorld net personRequest personQuery presentation issuer
      verified anchor fact) :
    presentation = personPresentation ∧ anchor = personRoot "salt one" ∧ fact = personFact := by
  obtain rfl : presentation = personPresentation := by
    simpa [personRequest, personQuery, plainQuery, Table.insert, Table.empty] using row
  obtain ⟨_, _, _, rootHex⟩ := person_checked
  obtain ⟨_, _, _, _, _, accepted⟩ := shown.signed
  have anchored := shown.root
  rw [← accepted.owlRootHex_eq, show owlRootHex personWorld.primitives personPresentation = _ from
    rootHex, owlRootAnchor_hexEncode, Option.some.injEq] at anchored
  obtain ⟨predicate, clock, asks, _, asked⟩ := shown.asked
  obtain rfl := Option.some.inj asks
  exact ⟨rfl, anchored.symm, Option.some.inj (asked.symm.trans (person_fact clock))⟩

/-- In every state that the network can get to, a valid verdict means that each query holds of the
    claims behind the root that the trusted issuer signed. -/
theorem accepted_queries_hold (H : Hashes) {start net : Net} (initial : Initial start)
    (reached : Reaches H start net) {W : World} (reads : Reads H W net)
    {request : VerifyDcqlRequest} {response : VerifyDcqlResponse} {service' : Service}
    (returns : verifyDcql W net.service request = (.ok response, service'))
    (valid : response.valid = true) {q : DcqlCredentialQuery}
    (among : q ∈ request.query.credentials)
    (identified : (request.query.credentials.map DcqlCredentialQuery.id).count q.id = 1)
    (presented : request.query.credentialSets = none ∨ q.id ∈ request.vpToken.rows.map Prod.fst) :
    ∃ presentation issuer verified anchor fact, (q.id, [presentation]) ∈ request.vpToken.rows ∧
      Shown H W net request q presentation issuer verified anchor fact ∧
      ∀ entries, owlRootForClaims H entries = some anchor →
        CollisionFree H
          (factInputs H anchor fact ++ net.chain.inputs H ++ credentialInputs H entries) →
        HoldsOf H net.chain anchor entries fact := by
  have backed := (reaches_backed reached initial.backed).1
  obtain ⟨presentation, issuer, verified, anchor, fact, row, shown⟩ :=
    shown_of_valid backed reads returns valid among identified presented
  refine ⟨presentation, issuer, verified, anchor, fact, row, shown, ?_⟩
  intro entries root free
  obtain ⟨path, recorded⟩ := shown.recorded
  exact holdsOf_of_recorded free root recorded

/-- The secret of the credential is the one that was used up for the verifier's campaign. -/
theorem accepted_queries_hold_at_person :
    HoldsOf sampleHashes personNet.chain (personRoot "salt one") (personEntries "salt one")
      personFact := by
  obtain ⟨_, _, returns, valid⟩ := person_valid
  obtain ⟨_, _, _, _, _, row, shown, holds⟩ := accepted_queries_hold sampleHashes
    personStart_initial personNet_reached person_reads returns valid List.mem_cons_self
    person_identified (.inl rfl)
  obtain ⟨rfl, rfl, rfl⟩ := person_shown row shown
  exact holds _ (personRoot_issued _) personNet_collisionFree

/-! ## Issued credentials -/

/-- The payload read from a token that the issuer signed. -/
theorem peekPayload_signedToken {P : Primitives} {header payload : Json} {secret : Bytes}
    (reads : RoundTrips P payload) :
    peekPayload P (signedToken P header payload secret) = some payload := by
  simp [peekPayload, signedToken, splitChar_compact, reads.read, Except.toOption]

/-- A presentation of an issued credential is verified against the root of the issued claims. -/
theorem anchor_of_issued {P : Primitives} {claims : ClaimMap} {salts : String → String}
    {p : IssueParams} {vc : SdJwtVc} {issuer : PublicKey} {vp : VerifyParams} {v : Verified}
    {jwt last : String} {segments : List String} {header payload : Json} {anchor : Bytes32}
    (ed : p.issuer.algorithm = .ed25519) (holder : p.holder.Valid P)
    (faithful : Faithful P H claims salts p) (issued : issue P H claims salts p = .ok vc)
    (same : issuerJwt presentation = vc.jwt)
    (accepted : Accepted P H presentation issuer vp v jwt segments last header payload)
    (rooted : owlRootAnchor v.owlRoot = some anchor) :
    owlRootForClaims H (issueEntries claims salts) = some anchor := by
  obtain ⟨owlRoot, jwk, payload', root, _, _, rfl, known, returned⟩ :=
    issue_returns P H claims salts ed holder
  obtain rfl := Except.ok.inj (returned.symm.trans issued)
  have reads : RoundTrips P
      (issuePayload p jwk (issuedDigests P H claims salts) owlRoot) :=
    faithful.read _ (by simp [issuedValues, known])
  have peeked := accepted.peekPayload_eq
  rw [same, peekPayload_signedToken reads, Option.some.injEq] at peeked
  rw [accepted.owlRoot, ← peeked, issuePayload_owlRoot, owlRootAnchor_hexEncode,
    Option.some.injEq] at rooted
  rw [root, rooted]

/-- An issued credential, presented with whatever disclosures: if the verdict is valid, what the
    query asks for holds of the very claims it was issued from. -/
theorem issued_claims_meet_queries (H : Hashes) {start net : Net} (initial : Initial start)
    (reached : Reaches H start net) {W : World} (reads : Reads H W net)
    {request : VerifyDcqlRequest} {response : VerifyDcqlResponse} {service' : Service}
    (returns : verifyDcql W net.service request = (.ok response, service'))
    (valid : response.valid = true) {q : DcqlCredentialQuery}
    (among : q ∈ request.query.credentials)
    (identified : (request.query.credentials.map DcqlCredentialQuery.id).count q.id = 1)
    {claims : ClaimMap} {salts : String → String} {p : IssueParams} {vc : SdJwtVc}
    (ed : p.issuer.algorithm = .ed25519) (holder : p.holder.Valid W.primitives)
    (faithful : Faithful W.primitives H claims salts p)
    (issued : issue W.primitives H claims salts p = .ok vc) {presentation : String}
    (row : (q.id, [presentation]) ∈ request.vpToken.rows) (same : issuerJwt presentation = vc.jwt) :
    ∃ owlRoot predicate clock fact,
      owlRootForClaims H (issueEntries claims salts) = some owlRoot ∧
      q.owlPredicate = some predicate ∧ ClockReading.month clock = utcMonth W.now ∧
      predicate.fact clock request.verifier = some fact ∧
      (CollisionFree H (factInputs H owlRoot fact ++ net.chain.inputs H ++
          credentialInputs H (issueEntries claims salts)) →
        HoldsOf H net.chain owlRoot (issueEntries claims salts) fact) := by
  have backed := (reaches_backed reached initial.backed).1
  obtain ⟨presentation', issuer, verified, anchor, fact, row', shown⟩ :=
    shown_of_valid backed reads returns valid among identified
      (.inr (List.mem_map.mpr ⟨_, row, rfl⟩))
  have found := Table.find_eq_some.mpr ⟨row, rfl⟩
  have one := found.symm.trans (Table.find_eq_some.mpr ⟨row', rfl⟩)
  simp only [Option.some.injEq, Prod.mk.injEq, List.cons.injEq, and_true, true_and] at one
  subst one
  obtain ⟨_, _, _, _, _, accepted⟩ := shown.signed
  have root := anchor_of_issued ed holder faithful issued same accepted shown.root
  obtain ⟨predicate, clock, asks, month, asked⟩ := shown.asked
  refine ⟨anchor, predicate, clock, fact, root, asks, month, asked, ?_⟩
  intro free
  obtain ⟨path, recorded⟩ := shown.recorded
  exact holdsOf_of_recorded free root recorded

theorem issued_claims_meet_queries_at_person :
    Enrolled sampleHashes personNet.chain (personRoot "salt one")
      (issueEntries personClaims personSalts) (pad32 "2025")
      (personhoodAppId sampleHashes sampleKb.aud (pad32 "vote")) := by
  obtain ⟨_, _, returns, valid⟩ := person_valid
  obtain ⟨vc, _, _, _, _, _, _, issued, same, _⟩ := person_accepted
  obtain ⟨owlRoot, predicate, clock, fact, root, asks, _, asked, holds⟩ :=
    issued_claims_meet_queries sampleHashes personStart_initial personNet_reached person_reads
      returns valid List.mem_cons_self person_identified rfl personHolder_valid person_faithful
      issued person_row same
  obtain rfl := Option.some.inj asks
  obtain rfl := Option.some.inj (asked.symm.trans (person_fact clock))
  obtain rfl := Option.some.inj (root.symm.trans (personRoot_issued "salt one"))
  exact holds personNet_collisionFree

/-! ## One person, one verdict -/

theorem accepted_scope_unique {call call' : PersonhoodCall}
    (among : call ∈ accepted H chain.personhoodGenesis chain.personhoodTransactions)
    (among' : call' ∈ accepted H chain.personhoodGenesis chain.personhoodTransactions)
    (same : call.scope = call'.scope) : call = call' := by
  obtain ⟨secrets, epochs, apps⟩ : call.personhoodSecret = call'.personhoodSecret ∧
      call.epoch = call'.epoch ∧ call.appId = call'.appId := by
    simpa [PersonhoodCall.scope] using same
  refine List.inj_on_of_nodup_map personhood_registered.once among among' ?_
  rw [PersonhoodCall.nullifier, PersonhoodCall.nullifier, secrets, epochs, apps]

/-- Credentials of one secret that are enrolled in one campaign have one root. -/
theorem enrolled_root_unique {entries' : List ClaimEntry} {owlRoot' epoch appId secret : Bytes32}
    (enrolled : Enrolled H chain owlRoot entries epoch appId)
    (enrolled' : Enrolled H chain owlRoot' entries' epoch appId)
    (only : CommitsOnly secret entries) (only' : CommitsOnly secret entries') :
    owlRoot = owlRoot' := by
  obtain ⟨call, among, rfl, rfl, rfl, entry, issued, name, bears⟩ := enrolled
  obtain ⟨call', among', rfl, epochs, apps, entry', issued', name', bears'⟩ := enrolled'
  have same : call.scope = call'.scope := by
    rw [PersonhoodCall.scope, PersonhoodCall.scope, only entry issued name _ bears,
      only' entry' issued' name' _ bears', epochs, apps]
  rw [accepted_scope_unique among among' same]

/-- Two valid verdicts for one campaign, the second at any later time, on credentials that commit
    to one secret: it was one credential. -/
theorem one_credential_per_campaign (H : Hashes) {start net net' : Net} (initial : Initial start)
    (reached : Reaches H start net) (later : Reaches H net net') {W W' : World}
    (reads : Reads H W net) (reads' : Reads H W' net') {request request' : VerifyDcqlRequest}
    {response response' : VerifyDcqlResponse} {service service' : Service}
    (returns : verifyDcql W net.service request = (.ok response, service))
    (returns' : verifyDcql W' net'.service request' = (.ok response', service'))
    (valid : response.valid = true) (valid' : response'.valid = true)
    {q q' : DcqlCredentialQuery} {epoch appId : String}
    (among : q ∈ request.query.credentials) (among' : q' ∈ request'.query.credentials)
    (identified : (request.query.credentials.map DcqlCredentialQuery.id).count q.id = 1)
    (identified' : (request'.query.credentials.map DcqlCredentialQuery.id).count q'.id = 1)
    (presented : request.query.credentialSets = none ∨ q.id ∈ request.vpToken.rows.map Prod.fst)
    (presented' : request'.query.credentialSets = none ∨
      q'.id ∈ request'.vpToken.rows.map Prod.fst)
    (asks : q.owlPredicate = some (.uniquePersonhood epoch appId))
    (asks' : q'.owlPredicate = some (.uniquePersonhood epoch appId))
    (verifiers : request.verifier = request'.verifier) :
    ∃ presentation issuer verified anchor presentation' issuer' verified' anchor' fact,
      (q.id, [presentation]) ∈ request.vpToken.rows ∧
      (q'.id, [presentation']) ∈ request'.vpToken.rows ∧
      Shown H W net request q presentation issuer verified anchor fact ∧
      Shown H W' net' request' q' presentation' issuer' verified' anchor' fact ∧
      ∀ secret entries entries', owlRootForClaims H entries = some anchor →
        owlRootForClaims H entries' = some anchor' → CommitsOnly secret entries →
        CommitsOnly secret entries' →
        CollisionFree H (factInputs H anchor fact ++ net'.chain.inputs H ++
          credentialInputs H entries) →
        CollisionFree H (factInputs H anchor' fact ++ net'.chain.inputs H ++
          credentialInputs H entries') → anchor = anchor' := by
  have backed := (reaches_backed reached initial.backed).1
  obtain ⟨backed', grown⟩ := reaches_backed later backed
  obtain ⟨presentation, issuer, verified, anchor, fact, row, shown⟩ :=
    shown_of_valid backed reads returns valid among identified presented
  obtain ⟨presentation', issuer', verified', anchor', fact', row', shown'⟩ :=
    shown_of_valid backed' reads' returns' valid' among' identified' presented'
  obtain ⟨predicate, clock, asked, month, means⟩ := shown.asked
  obtain ⟨predicate', clock', asked', month', means'⟩ := shown'.asked
  obtain rfl := Option.some.inj (asks.symm.trans asked)
  obtain rfl := Option.some.inj (asks'.symm.trans asked')
  have one : fact = fact' := by
    obtain ⟨epochWord, campaign, epochRead, appRead, rfl⟩ :=
      OwlPredicate.fact_uniquePersonhood means
    obtain ⟨epochWord', campaign', epochRead', appRead', rfl⟩ :=
      OwlPredicate.fact_uniquePersonhood means'
    rw [epochRead, Option.some.injEq] at epochRead'
    rw [appRead, Option.some.injEq] at appRead'
    rw [epochRead', appRead', verifiers]
  subst one
  refine ⟨presentation, issuer, verified, anchor, presentation', issuer', verified', anchor', fact,
    row, row', shown, shown', ?_⟩
  intro secret entries entries' root root' only only' free free'
  obtain ⟨path, recorded⟩ := shown.recorded
  obtain ⟨path', recorded'⟩ := shown'.recorded
  have holds := holdsOf_of_recorded free root (grown path _ recorded)
  have holds' := holdsOf_of_recorded free' root' recorded'
  obtain ⟨epochWord, campaign, _, _, rfl⟩ := OwlPredicate.fact_uniquePersonhood means
  exact enrolled_root_unique holds holds' only only'

/-- After the second credential of the person was refused, the first is accepted again. -/
theorem one_credential_per_campaign_at_person :
    ∃ issuer verified issuer' verified' anchor anchor',
      Shown sampleHashes personWorld personNet personRequest personQuery personPresentation issuer
        verified anchor personFact ∧
      Shown sampleHashes personWorld personLater personRequest personQuery personPresentation
        issuer' verified' anchor' personFact ∧
      anchor = anchor' := by
  obtain ⟨_, _, returns, valid⟩ := person_valid
  have refused : Step sampleHashes personNet personLater :=
    .transactPersonhood (enrolling "salt two")
  obtain ⟨_, issuer, verified, _, _, issuer', verified', _, _, row, row', shown, shown', one⟩ :=
    one_credential_per_campaign sampleHashes personStart_initial personNet_reached
      (Relation.ReflTransGen.single refused) person_reads person_reads returns returns valid valid
      List.mem_cons_self List.mem_cons_self person_identified person_identified (.inl rfl)
      (.inl rfl) rfl rfl rfl
  obtain ⟨rfl, rfl, rfl⟩ := person_shown row shown
  obtain ⟨rfl, rfl, _⟩ := person_shown row' shown'
  refine ⟨issuer, verified, issuer', verified', _, _, shown, shown', ?_⟩
  exact one (Vector.replicate 32 0x55) _ _ (personRoot_issued _) (personRoot_issued _)
    (person_commitsOnly _) (person_commitsOnly _) personLater_collisionFree
    personLater_collisionFree

end OwlId.Network
