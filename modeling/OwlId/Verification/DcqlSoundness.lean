import Mathlib
import OwlId.ProofSystem.SdJwtRoundTrip
import OwlId.Verification.Service

/-! # What a valid DCQL verdict guarantees

The verdict is computed from the ids of the presented credentials, so it is sound
for a query exactly when its ids identify its elements.  `sound_iff_identifying`
makes that precise for every list of ids and every `credential_sets`: soundness
holds for all requests of that shape if and only if the shape is `Identifying`.
The step lemma is about one entry of `vp_token`, and the run lemma carries it over
the loop, whose mirrors grow only by what the chain confirms.
-/

namespace OwlId.Verification

open OwlId.Lib OwlId.ProofSystem

section

variable {W : World}

/-! ## Presentations that pass -/

/-- `verify_one_presentation` returns `valid`, with this outcome. -/
def Passes (W : World) (mirrors : Mirrors) (challenge : String) (audience : Option String)
    (presentation : String) (outcome : PresentationOutcome) : Prop :=
  (verifyOnePresentation W mirrors challenge audience presentation).1 = .ok outcome ∧
    outcome.response.valid = true

def passedOutcome (W : World) (presentation issuerHex : String) (verified : Verified) :
    PresentationOutcome :=
  ⟨⟨true, none, some (.object verified.claims)⟩, some verified.vct,
    some (credentialId W.hashes presentation), some issuerHex⟩

/-- No revocation source names the credential. -/
structure Unrevoked (W : World) (cache : RevocationCache) (presentation : String)
    (issuerPk : PublicKey) (verified : Verified) : Prop where
  cached : cache.isRevoked (credentialId W.hashes presentation) = false
  chain : isCredentialRevoked W (credentialId W.hashes presentation) ≠ .ok true
  status : statusRevoked W issuerPk verified.status = false

theorem verifyOnePresentation_of_checked {mirrors : Mirrors} {challenge : String}
    {audience : Option String} {presentation issuerHex : String} {issuerPk : PublicKey}
    {verified : Verified}
    (checked : checkPresentation W challenge audience presentation =
      .ok (issuerHex, issuerPk, verified))
    (unrevoked : Unrevoked W mirrors.revocations.cache presentation issuerPk verified) :
    verifyOnePresentation W mirrors challenge audience presentation =
      (.ok (passedOutcome W presentation issuerHex verified), mirrors) := by
  unfold verifyOnePresentation
  rw [checked]
  dsimp only
  rw [unrevoked.cached, if_neg Bool.false_ne_true, unrevoked.status,
    if_neg Bool.false_ne_true]
  split
  · rename_i onChain
    exact absurd onChain unrevoked.chain
  · rfl

theorem passes_iff {mirrors : Mirrors} {challenge : String} {audience : Option String}
    {presentation : String} {outcome : PresentationOutcome} :
    Passes W mirrors challenge audience presentation outcome ↔
      ∃ issuerHex issuerPk verified,
        checkPresentation W challenge audience presentation =
          .ok (issuerHex, issuerPk, verified) ∧
        Unrevoked W mirrors.revocations.cache presentation issuerPk verified ∧
        outcome = passedOutcome W presentation issuerHex verified := by
  constructor
  · rintro ⟨returns, valid⟩
    cases checked : checkPresentation W challenge audience presentation with
    | error stop =>
      cases stop with
      | aborted e => simp [verifyOnePresentation, checked] at returns
      | rejected message =>
        simp only [verifyOnePresentation, checked, Except.ok.injEq] at returns
        simp [← returns, fail, failResponse] at valid
    | ok result =>
      obtain ⟨issuerHex, issuerPk, verified⟩ := result
      refine ⟨issuerHex, issuerPk, verified, rfl, ?_⟩
      simp only [verifyOnePresentation, checked] at returns
      by_cases cached : mirrors.revocations.cache.isRevoked (credentialId W.hashes presentation)
      · simp only [cached, if_true, Except.ok.injEq] at returns
        simp [← returns, fail, failResponse] at valid
      · simp only [cached, if_false, Bool.false_eq_true] at returns
        by_cases chain : isCredentialRevoked W (credentialId W.hashes presentation) = .ok true
        · simp only [chain, Except.ok.injEq] at returns
          simp [← returns, fail, failResponse] at valid
        · by_cases status : statusRevoked W issuerPk verified.status
          · split at returns
            · exact absurd ‹_› chain
            · simp only [status, if_true, Except.ok.injEq] at returns
              simp [← returns, fail, failResponse] at valid
          · split at returns
            · exact absurd ‹_› chain
            · simp only [status, if_false, Bool.false_eq_true, Except.ok.injEq] at returns
              exact ⟨⟨by simpa using cached, chain, by simpa using status⟩, returns.symm⟩
  · rintro ⟨issuerHex, issuerPk, verified, checked, unrevoked, rfl⟩
    exact ⟨by rw [verifyOnePresentation_of_checked checked unrevoked], rfl⟩

/-- A presentation that passes leaves the mirrors as they are. -/
theorem Passes.returns {mirrors : Mirrors} {challenge : String} {audience : Option String}
    {presentation : String} {outcome : PresentationOutcome}
    (passes : Passes W mirrors challenge audience presentation outcome) :
    verifyOnePresentation W mirrors challenge audience presentation = (.ok outcome, mirrors) := by
  obtain ⟨issuerHex, issuerPk, verified, checked, unrevoked, rfl⟩ := passes_iff.mp passes
  exact verifyOnePresentation_of_checked checked unrevoked

/-! ## Mirrors along a request -/

/-- The key is in the attested set: mirrored, or recorded by some contract. -/
def InAttestedSet (W : World) (attestations : Finset String) (keyHex : String) : Prop :=
  keyHex ∈ attestations ∨ ∃ kind, W.isAttestedOnChain kind keyHex = .ok true

/-- Later mirrors know no fewer revocations, and no key the chain did not confirm. -/
structure Extends (W : World) (mirrors mirrors' : Mirrors) : Prop where
  revoked : ∀ id, mirrors.revocations.cache.isRevoked id = true →
    mirrors'.revocations.cache.isRevoked id = true
  attested : ∀ keyHex, InAttestedSet W mirrors'.attestations keyHex →
    InAttestedSet W mirrors.attestations keyHex

theorem Extends.refl (mirrors : Mirrors) : Extends W mirrors mirrors :=
  ⟨fun _ => id, fun _ => id⟩

theorem Extends.trans {a b c : Mirrors} (first : Extends W a b) (second : Extends W b c) :
    Extends W a c :=
  ⟨fun id revoked => second.revoked id (first.revoked id revoked),
    fun keyHex attested => first.attested keyHex (second.attested keyHex attested)⟩

/-- What passes against later mirrors passes against earlier ones. -/
theorem Passes.of_extends {mirrors mirrors' : Mirrors} (grown : Extends W mirrors mirrors')
    {challenge : String} {audience : Option String} {presentation : String}
    {outcome : PresentationOutcome}
    (passes : Passes W mirrors' challenge audience presentation outcome) :
    Passes W mirrors challenge audience presentation outcome := by
  obtain ⟨issuerHex, issuerPk, verified, checked, unrevoked, rfl⟩ := passes_iff.mp passes
  refine passes_iff.mpr ⟨issuerHex, issuerPk, verified, checked, ?_, rfl⟩
  refine ⟨?_, unrevoked.chain, unrevoked.status⟩
  by_contra cached
  have := grown.revoked _ (by simpa using cached)
  rw [unrevoked.cached] at this
  cases this

theorem verifyOnePresentation_extends (mirrors : Mirrors) (challenge : String)
    (audience : Option String) (presentation : String) :
    Extends W mirrors (verifyOnePresentation W mirrors challenge audience presentation).2 := by
  unfold verifyOnePresentation
  split
  · exact Extends.refl _
  · exact Extends.refl _
  · dsimp only
    split
    · exact Extends.refl _
    · split
      · exact ⟨fun id revoked => by simp [RevocationRepository.revoke, revoked], fun _ => id⟩
      · split <;> exact Extends.refl _

theorem isAttested_fst {attestations : Finset String} {ak : AttestKey}
    (attested : (isAttested W attestations ak).1 = true) :
    InAttestedSet W attestations ak.keyHex := by
  unfold isAttested at attested
  split at attested
  · exact .inl ‹_›
  · unfold attestationOnChain at attested
    split at attested
    · exact .inr ⟨_, ‹_›⟩
    · cases attested

theorem isAttested_snd {attestations : Finset String} {ak : AttestKey} {keyHex : String}
    (attested : InAttestedSet W (isAttested W attestations ak).2 keyHex) :
    InAttestedSet W attestations keyHex := by
  unfold isAttested at attested
  split at attested
  · exact attested
  · unfold attestationOnChain at attested
    split at attested
    · rename_i confirmed
      cases attested with
      | inl member =>
        rcases Finset.mem_insert.mp member with rfl | old
        · exact .inr ⟨_, confirmed⟩
        · exact .inl old
      | inr onChain => exact .inr onChain
    · exact attested

/-! ## One entry of `vp_token` -/

section

variable (W) (request : VerifyDcqlRequest) (mirrors : Mirrors)

/-- The presentation passes, and the key the query stands for is attested. -/
def PresentationSatisfies (q : DcqlCredentialQuery) (presentation : String) : Prop :=
  ∃ outcome ak, Passes W mirrors request.challenge request.audience presentation outcome ∧
    keyFor W request q presentation outcome = .ok ak ∧
    InAttestedSet W mirrors.attestations ak.keyHex

/-- What a valid entry shows: it passes, and satisfies the query its id selects. -/
def EntryValid (entry : String × List String) : Prop :=
  ∃ presentation, entry.2 = [presentation] ∧
    (∃ outcome, Passes W mirrors request.challenge request.audience presentation outcome) ∧
    ∀ q, queryById request.query.credentials entry.1 = some q →
      PresentationSatisfies W request mirrors q presentation

end

variable {request : VerifyDcqlRequest} {mirrors mirrors' : Mirrors}

theorem EntryValid.of_extends {entry : String × List String}
    (grown : Extends W mirrors mirrors') (valid : EntryValid W request mirrors' entry) :
    EntryValid W request mirrors entry := by
  obtain ⟨presentation, single, ⟨outcome, passes⟩, satisfied⟩ := valid
  refine ⟨presentation, single, ⟨outcome, passes.of_extends grown⟩, ?_⟩
  intro q selected
  obtain ⟨outcome, ak, passes, derived, attested⟩ := satisfied q selected
  exact ⟨outcome, ak, passes.of_extends grown, derived, grown.attested _ attested⟩

theorem checkQuery_extends (attestations : Finset String) (q : DcqlCredentialQuery)
    (presentation : String) (outcome : PresentationOutcome) (keyHex : String)
    (attested : InAttestedSet W
      (checkQuery W request attestations q presentation outcome).2 keyHex) :
    InAttestedSet W attestations keyHex := by
  unfold checkQuery at attested
  split at attested
  · dsimp only at attested
    split at attested <;> exact isAttested_snd attested
  · exact attested

/-- What one entry does to the mirrors, whatever its verdict. -/
theorem verifyEntry_extends (credId : String) (presentations : List String) :
    Extends W mirrors (verifyEntry W request mirrors credId presentations).2 := by
  unfold verifyEntry
  split
  · rename_i presentation
    have first := verifyOnePresentation_extends (W := W) mirrors request.challenge
      request.audience presentation
    split
    · rename_i returns
      rwa [returns] at first
    · rename_i outcome after returns
      rw [returns] at first
      dsimp only at first ⊢
      split
      · refine first.trans ⟨fun _ => id, fun keyHex attested => ?_⟩
        exact checkQuery_extends _ _ _ _ keyHex attested
      · exact first
  · exact Extends.refl _
  · exact Extends.refl _

theorem checkQuery_valid {q : DcqlCredentialQuery} {presentation : String}
    {outcome : PresentationOutcome} {attestations : Finset String}
    (valid : (checkQuery W request attestations q presentation outcome).1.valid = true) :
    ∃ ak, keyFor W request q presentation outcome = .ok ak ∧
      InAttestedSet W attestations ak.keyHex := by
  unfold checkQuery at valid
  split at valid
  · rename_i ak derived
    dsimp only at valid
    split at valid
    · exact ⟨ak, derived, isAttested_fst ‹_›⟩
    · simp [failResponse] at valid
  · simp [failResponse] at valid

theorem verifyEntry_valid {credId : String} {presentations : List String}
    {response : VerifyResponse}
    (returns : (verifyEntry W request mirrors credId presentations).1 = .ok response)
    (valid : response.valid = true) :
    EntryValid W request mirrors (credId, presentations) := by
  unfold verifyEntry at returns
  split at returns
  · rename_i presentation
    split at returns
    · cases returns
    · rename_i outcome after verified
      by_cases passed : outcome.response.valid = true
      · have passes : Passes W mirrors request.challenge request.audience presentation outcome :=
          ⟨by rw [verified], passed⟩
        obtain rfl : mirrors = after := congrArg Prod.snd (passes.returns.symm.trans verified)
        refine ⟨presentation, rfl, ⟨outcome, passes⟩, ?_⟩
        intro q selected
        simp only [passed, selected, Except.ok.injEq] at returns
        subst returns
        obtain ⟨ak, derived, attested⟩ := checkQuery_valid valid
        exact ⟨outcome, ak, passes, derived, attested⟩
      · simp only [Bool.not_eq_true] at passed
        simp only [passed, Except.ok.injEq] at returns
        rw [← returns, passed] at valid
        cases valid
  · simp only [Except.ok.injEq] at returns
    simp [← returns, failResponse] at valid
  · simp only [Except.ok.injEq] at returns
    simp [← returns, failResponse] at valid

/-! ## The whole token -/

/-- The run lemma: when every response is valid, every entry was, against the first mirrors. -/
theorem verifyEntries_valid {rows : List (String × List String)}
    {responses : List (String × VerifyResponse)}
    (returns : verifyEntries W request mirrors rows = (.ok responses, mirrors'))
    (allValid : ∀ entry ∈ responses, entry.2.valid = true) :
    (∀ row ∈ rows, EntryValid W request mirrors row) ∧
      responses.map Prod.fst = rows.map Prod.fst := by
  induction rows generalizing mirrors responses with
  | nil =>
    simp only [verifyEntries, Prod.mk.injEq, Except.ok.injEq] at returns
    simp [← returns.1]
  | cons row rest ih =>
    obtain ⟨credId, presentations⟩ := row
    have grown : Extends W mirrors (verifyEntry W request mirrors credId presentations).2 :=
      verifyEntry_extends credId presentations
    simp only [verifyEntries] at returns
    split at returns
    · cases returns
    · rename_i response after first
      rw [first] at grown
      split at returns
      · cases returns
      · rename_i tail last others
        simp only [Prod.mk.injEq, Except.ok.injEq] at returns
        obtain ⟨rfl, rfl⟩ := returns
        obtain ⟨rows, ids⟩ := ih others fun entry member =>
          allValid entry (List.mem_cons_of_mem _ member)
        refine ⟨?_, by simp [ids]⟩
        intro row member
        rcases List.mem_cons.mp member with rfl | later
        · exact verifyEntry_valid (by rw [first]) (allValid _ List.mem_cons_self)
        · exact (rows row later).of_extends grown

/-- An entry whose keys are all in the mirror already. -/
def EntryMirrored (W : World) (request : VerifyDcqlRequest) (mirrors : Mirrors)
    (entry : String × List String) : Prop :=
  ∃ presentation outcome, entry.2 = [presentation] ∧
    Passes W mirrors request.challenge request.audience presentation outcome ∧
    ∀ q, queryById request.query.credentials entry.1 = some q →
      ∃ ak, keyFor W request q presentation outcome = .ok ak ∧ ak.keyHex ∈ mirrors.attestations

theorem verifyEntry_of_mirrored {credId : String} {presentations : List String}
    (mirrored : EntryMirrored W request mirrors (credId, presentations)) :
    ∃ response, verifyEntry W request mirrors credId presentations = (.ok response, mirrors) ∧
      response.valid = true := by
  obtain ⟨presentation, outcome, single, passes, keys⟩ := mirrored
  obtain rfl : presentations = [presentation] := single
  have valid := passes.2
  refine ⟨outcome.response, ?_, valid⟩
  unfold verifyEntry
  dsimp only
  rw [passes.returns]
  dsimp only
  rw [valid]
  cases selected : queryById request.query.credentials credId with
  | none => rfl
  | some q =>
    obtain ⟨ak, derived, member⟩ := keys q selected
    have attested : isAttested W mirrors.attestations ak = (true, mirrors.attestations) := by
      rw [isAttested, if_pos member]
    simp only [checkQuery, derived, attested, if_true]

theorem verifyEntries_of_mirrored {rows : List (String × List String)}
    (mirrored : ∀ row ∈ rows, EntryMirrored W request mirrors row) :
    ∃ responses, verifyEntries W request mirrors rows = (.ok responses, mirrors) ∧
      responses.map Prod.fst = rows.map Prod.fst ∧ ∀ entry ∈ responses, entry.2.valid = true := by
  induction rows with
  | nil => exact ⟨[], rfl, rfl, by simp⟩
  | cons row rest ih =>
    obtain ⟨credId, presentations⟩ := row
    obtain ⟨response, first, valid⟩ := verifyEntry_of_mirrored (mirrored _ List.mem_cons_self)
    obtain ⟨responses, others, ids, allValid⟩ := ih fun row member =>
      mirrored row (List.mem_cons_of_mem _ member)
    refine ⟨(credId, response) :: responses, ?_, by simp [ids], ?_⟩
    · simp only [verifyEntries, first, others]
    · intro entry member
      rcases List.mem_cons.mp member with rfl | later
      · exact valid
      · exact allValid entry later

/-! ## Verdicts -/

theorem satisfiedIds_of_valid {perCredential : List (String × VerifyResponse)}
    (allValid : ∀ entry ∈ perCredential, entry.2.valid = true) :
    satisfiedIds perCredential = perCredential.map Prod.fst := by
  rw [satisfiedIds, List.filter_eq_self.mpr allValid]

theorem conclude_valid {query : DcqlRequest} {perCredential : List (String × VerifyResponse)} :
    (conclude query perCredential).valid = true ↔
      checkCredentialSets query (perCredential.map Prod.fst) = .ok () ∧
        ∀ entry ∈ perCredential, entry.2.valid = true := by
  by_cases allValid : ∀ entry ∈ perCredential, entry.2.valid = true
  · rw [← satisfiedIds_of_valid allValid]
    cases solved : checkCredentialSets query (satisfiedIds perCredential) with
    | ok u => simp [conclude, solved]
    | error e => simp [conclude, solved]
  · constructor
    · intro valid
      simp only [conclude, Bool.and_eq_true, List.all_eq_true] at valid
      exact absurd valid.2 allValid
    · intro valid
      exact absurd valid.2 allValid

theorem takeChallenge_mirrors (svc : Service) (now : Time) (challenge : String) :
    (svc.takeChallenge now challenge).1.mirrors = svc.mirrors := by
  unfold Service.takeChallenge
  split <;> rfl

variable {svc svc' : Service}

/-- A valid verdict comes from valid entries whose ids the solver accepts. -/
theorem verifyDcql_valid {response : VerifyDcqlResponse}
    (returns : verifyDcql W svc request = (.ok response, svc'))
    (valid : response.valid = true) :
    (∀ row ∈ request.vpToken.rows, EntryValid W request svc.mirrors row) ∧
      checkCredentialSets request.query (request.vpToken.rows.map Prod.fst) = .ok () := by
  unfold verifyDcql at returns
  split at returns
  · simp only [Prod.mk.injEq, Except.ok.injEq] at returns
    simp [← returns.1, failAll] at valid
  · dsimp only at returns
    split at returns
    · rw [takeChallenge_mirrors] at returns
      split at returns
      · cases returns
      · rename_i entries
        simp only [Prod.mk.injEq, Except.ok.injEq] at returns
        rw [← returns.1, conclude_valid] at valid
        obtain ⟨rows, ids⟩ := verifyEntries_valid entries valid.2
        exact ⟨rows, ids ▸ valid.1⟩
    · simp only [Prod.mk.injEq, Except.ok.injEq] at returns
      simp [← returns.1, failAll] at valid

theorem verifyDcql_of_mirrored (running : W.challengeQuery = .ok ())
    (fresh : (svc.takeChallenge W.now request.challenge).2 = true)
    (mirrored : ∀ row ∈ request.vpToken.rows, EntryMirrored W request svc.mirrors row)
    (solved : checkCredentialSets request.query (request.vpToken.rows.map Prod.fst) = .ok ()) :
    ∃ response svc', verifyDcql W svc request = (.ok response, svc') ∧
      response.valid = true := by
  obtain ⟨responses, entries, ids, allValid⟩ := verifyEntries_of_mirrored mirrored
  refine ⟨conclude request.query responses,
    { (svc.takeChallenge W.now request.challenge).1 with mirrors := svc.mirrors }, ?_,
    conclude_valid.mpr ⟨ids ▸ solved, allValid⟩⟩
  simp [verifyDcql, running, fresh, takeChallenge_mirrors, entries]

end

/-! ## Satisfied queries -/

section

variable (W : World) (request : VerifyDcqlRequest) (mirrors : Mirrors)

/-- The element has its own presentation, which passes and whose key is attested. -/
def Satisfied (q : DcqlCredentialQuery) : Prop :=
  ∃ presentation, (q.id, [presentation]) ∈ request.vpToken.rows ∧
    PresentationSatisfies W request mirrors q presentation

/-- The id names an element of the query, and every element it names is satisfied. -/
def NamesSatisfied (id : String) : Prop :=
  (∃ q ∈ request.query.credentials, q.id = id) ∧
    ∀ q ∈ request.query.credentials, q.id = id → Satisfied W request mirrors q

structure DcqlSatisfied : Prop where
  credentials : request.query.credentialSets = none →
    ∀ q ∈ request.query.credentials, Satisfied W request mirrors q
  sets : ∀ set ∈ requiredSets request.query.credentialSets,
    Covers (NamesSatisfied W request mirrors) set

end

/-! ## Ids that identify -/

/-- Whatever ids are presented, the ones that name a single element fill what they all fill. -/
structure Identifying (ids : List String) (sets : Option (List DcqlCredentialSet)) : Prop where
  distinct : sets = none → ids.Nodup
  filled : ∀ presented : List String,
    (∀ set ∈ requiredSets sets, Covers (· ∈ presented) set) →
    ∀ set ∈ requiredSets sets, Covers (fun id => id ∈ presented ∧ ids.count id = 1) set

/-- Every valid verdict on a query of this shape is right, in every world and state. -/
def SoundFor (ids : List String) (sets : Option (List DcqlCredentialSet)) : Prop :=
  ∀ (W : World) (svc svc' : Service) (request : VerifyDcqlRequest)
    (response : VerifyDcqlResponse),
    request.query.credentials.map DcqlCredentialQuery.id = ids →
    request.query.credentialSets = sets →
    verifyDcql W svc request = (.ok response, svc') → response.valid = true →
    DcqlSatisfied W request svc.mirrors

theorem queryById_cons (q : DcqlCredentialQuery) (rest : List DcqlCredentialQuery) (id : String) :
    queryById (q :: rest) id =
      (queryById rest id).or (if q.id = id then some q else none) := by
  by_cases named : q.id = id <;> simp [queryById, named]

theorem queryById_eq_none {credentials : List DcqlCredentialQuery} {id : String} :
    queryById credentials id = none ↔ id ∉ credentials.map DcqlCredentialQuery.id := by
  simp [queryById, List.find?_eq_none]

theorem queryById_eq_some {credentials : List DcqlCredentialQuery} {id : String}
    {q : DcqlCredentialQuery} (selected : queryById credentials id = some q) :
    q ∈ credentials ∧ q.id = id :=
  ⟨by simpa using List.mem_of_find?_eq_some selected, by simpa using List.find?_some selected⟩

/-- An id that occurs once selects the element that has it. -/
theorem queryById_of_count_one {credentials : List DcqlCredentialQuery} {q : DcqlCredentialQuery}
    (member : q ∈ credentials)
    (once : (credentials.map DcqlCredentialQuery.id).count q.id = 1) :
    queryById credentials q.id = some q := by
  induction credentials with
  | nil => cases member
  | cons first rest ih =>
    rw [queryById_cons]
    rw [List.map_cons, List.count_cons] at once
    by_cases named : first.id = q.id
    · have absent : q.id ∉ rest.map DcqlCredentialQuery.id := by
        rw [← List.count_eq_zero]
        simpa [named] using once
      have here : q = first := by
        rcases List.mem_cons.mp member with rfl | later
        · rfl
        · exact absurd (List.mem_map.mpr ⟨q, later, rfl⟩) absent
      rw [queryById_eq_none.mpr absent, here]
      simp
    · have later : q ∈ rest := by
        rcases List.mem_cons.mp member with rfl | later
        · exact absurd rfl named
        · exact later
      have onceLater : (rest.map DcqlCredentialQuery.id).count q.id = 1 := by
        simpa [named] using once
      simp [ih later onceLater]

/-- A presented element that its id selects is satisfied. -/
theorem satisfied_of_selected {W : World} {request : VerifyDcqlRequest} {mirrors : Mirrors}
    (valid : ∀ row ∈ request.vpToken.rows, EntryValid W request mirrors row)
    {q : DcqlCredentialQuery} (presented : q.id ∈ request.vpToken.rows.map Prod.fst)
    (selected : queryById request.query.credentials q.id = some q) :
    Satisfied W request mirrors q := by
  obtain ⟨⟨id, presentations⟩, row, rfl⟩ := List.mem_map.mp presented
  obtain ⟨presentation, single, _, satisfied⟩ := valid _ row
  refine ⟨presentation, ?_, satisfied q selected⟩
  rw [show presentations = [presentation] from single] at row
  exact row

theorem sound_of_identifying {ids : List String} {sets : Option (List DcqlCredentialSet)}
    (identifying : Identifying ids sets) : SoundFor ids sets := by
  rintro W svc svc' request response rfl rfl returns valid
  obtain ⟨entries, solved⟩ := verifyDcql_valid returns valid
  obtain ⟨allPresented, covered⟩ := checkCredentialSets_eq_ok.mp solved
  constructor
  · intro absent q member
    have once := List.count_eq_one_of_mem (identifying.distinct absent)
      (List.mem_map.mpr ⟨q, member, rfl⟩)
    exact satisfied_of_selected entries (allPresented absent q member)
      (queryById_of_count_one member once)
  · intro set required
    refine (identifying.filled _ covered set required).mono ?_
    rintro id ⟨presented, once⟩
    have named : id ∈ request.query.credentials.map DcqlCredentialQuery.id :=
      List.count_pos_iff.mp (by omega)
    refine ⟨by simpa using named, ?_⟩
    rintro q member rfl
    exact satisfied_of_selected entries presented (queryById_of_count_one member once)

/-! ## Keys of a verified credential -/

/-- A query that constrains nothing but the predicate. -/
def plainQuery (id : String) (predicate : OwlPredicate) : DcqlCredentialQuery :=
  ⟨id, "dc+sd-jwt", none, [], some predicate⟩

theorem keyFor_plainQuery {W : World} {request : VerifyDcqlRequest} {id : String}
    {predicate : OwlPredicate} {presentation issuerHex : String} {verified : Verified}
    {ak : AttestKey} :
    keyFor W request (plainQuery id predicate) presentation
        (passedOutcome W presentation issuerHex verified) = .ok ak ↔
      ∃ key, predicateKey W.hashes (utcMonth W.now) id (owlRootHex W.primitives presentation)
          request.verifier predicate = .ok (key, ak.kind) ∧
        ak.keyHex = hexEncode key.toList := by
  simp only [keyFor, passedOutcome, Option.getD_some, credentialIdHex_credentialId,
    Except.toOption, deriveAttestKey_eq_ok, plainQuery, vctAllowed, trimStart0x_hexEncode,
    hexDecode_hexEncode, Option.some.injEq, true_and]
  constructor
  · rintro ⟨_, predicate, key, rfl, derived, hex⟩
    exact ⟨key, derived, hex⟩
  · rintro ⟨key, derived, hex⟩
    exact ⟨⟨_, rfl⟩, predicate, key, rfl, derived, hex⟩

@[simp] theorem owlRootAnchor_hexEncode (root : Bytes32) :
    owlRootAnchor (some (hexEncode root.toList)) = some root := by
  simp [owlRootAnchor]

/-! ## A world in which the sample credential verifies -/

def sampleIssuerHex : String := hexEncode (List.replicate 32 1)

/-- A trusted issuer, a reachable chain, and nothing revoked or attested on it. -/
def sampleWorld (now : Time) : World where
  primitives := samplePrimitives sampleKnown
  hashes := sampleHashes
  now := now
  resolve iss :=
    if iss = sampleIssue.iss then .ok ⟨iss, sampleIssuerHex, .ed25519, "00"⟩
    else .error "HTTP status client error (404 Not Found)"
  getCommitment _ := .ok none
  trustedIssuers := .ok [sampleIssuerHex]
  isIssuerTrusted _ := .ok false
  chainRevoked _ := .ok false
  statusListRevoked _ _ _ := .ok false
  isAttestedOnChain _ _ := .ok false
  challengeQuery := .ok ()
  chainWrite _ := .ok ()

def sampleMirrors (attestations : Finset String) : Mirrors :=
  ⟨RevocationRepository.initializeCache Table.empty, attestations⟩

/-- One pending challenge, the one the sample presentation is bound to. -/
def sampleService (now : Time) (attestations : Finset String) : Service where
  mirrors := sampleMirrors attestations
  challenges := Table.empty.insert ⟨sampleKb.nonce, now + 300, false⟩
  sessions := Table.empty

theorem sample_fresh (now : Time) (attestations : Finset String) :
    ((sampleService now attestations).takeChallenge now sampleKb.nonce).2 = true := by
  have live : (PendingChallenge.mk sampleKb.nonce (now + 300) false).isLive now = true := by
    simp [PendingChallenge.isLive]
  simp [Service.takeChallenge, sampleService, Challenges.validateServerChallenge,
    Table.find_insert, live]

/-- The issuer's key is resolved, trusted and decoded. -/
theorem sample_issuerKey (now : Time) {presentation : String}
    (peeked : peekIss (samplePrimitives sampleKnown) presentation = .ok sampleIssue.iss) :
    issuerKey (sampleWorld now) presentation =
      .ok (sampleIssuerHex, sampleIssue.issuer.publicKey (samplePrimitives sampleKnown)) := by
  simp only [issuerKey, bind_eq_ok, mapErr_eq_ok, ensure_eq_ok, pure_eq_ok, exists_const]
  refine ⟨_, peeked, ⟨sampleIssue.iss, sampleIssuerHex, .ed25519, "00"⟩, by simp [sampleWorld],
    rfl, (), ?_, [sampleIssuerHex], rfl, (), ?_, _, ?_, rfl⟩
  · simp [anchorCheck, sampleWorld]
  · simp [issuerTrust, eqIgnoreAsciiCase]
  · simp only [PublicKey.fromHex, bind_eq_ok, okOr_eq_ok]
    exact ⟨List.replicate 32 1, hexDecode_hexEncode _, rfl⟩

theorem sample_checked (now : Time) :
    ∃ root verified, sampleOwlRoot = some root ∧
      checkPresentation (sampleWorld now) sampleKb.nonce (some sampleKb.aud) samplePresentation =
        .ok (sampleIssuerHex, sampleIssue.issuer.publicKey (samplePrimitives sampleKnown),
          verified) ∧
      verified.status = none ∧
      owlRootHex (samplePrimitives sampleKnown) samplePresentation =
        some (hexEncode root.toList) := by
  obtain ⟨v, _, _, _, _, root, hroot, accepted, returned, _⟩ := sample_accepted
  have peeked : peekIss (samplePrimitives sampleKnown) samplePresentation =
      .ok sampleIssue.iss := by
    rw [accepted.peekIss_eq, returned.iss]
  refine ⟨root, v, hroot, ?_, returned.status, by rw [accepted.owlRootHex_eq, returned.owlRoot]⟩
  simp only [checkPresentation, bind_eq_ok, mapErr_eq_ok, pure_eq_ok]
  exact ⟨_, sample_issuerKey now peeked, v, verify_of_accepted accepted, rfl⟩

theorem sample_unrevoked (now : Time) (attestations : Finset String) {verified : Verified}
    (status : verified.status = none) (issuerPk : PublicKey) :
    Unrevoked (sampleWorld now) (sampleMirrors attestations).revocations.cache samplePresentation
      issuerPk verified where
  cached := by
    rw [sampleMirrors, RevocationRepository.initializeCache_coherent]
    rfl
  chain := by
    have decoded := credentialIdHex_credentialId (P := samplePrimitives sampleKnown)
      (H := sampleHashes) samplePresentation
    simp [isCredentialRevoked, sampleWorld, decoded]
  status := by simp [statusRevoked, status]

/-- The key recorded for `email_verified` on the sample credential. -/
def sampleEmailKeyHex : String :=
  (sampleOwlRoot.map fun root => hexEncode (emailVerifiedKey sampleHashes root).toList).getD ""

theorem sample_kyc_ne_email :
    sampleOwlRoot.all (fun root =>
      kycKey sampleHashes root 1 != emailVerifiedKey sampleHashes root) = true := by
  rw [sampleOwlRoot, owlRootForClaims, owlClaimsRoot, merkleRootOf_eq_sparseRoot]
  decide +kernel

/-! ## Shapes that do not identify -/

/-- A query with these ids: `email_verified` at the last occurrence of an id, which is the one
    the verdict looks at, and a `kyc_gte` nobody proved at the earlier ones. -/
def shapeQuery : List String → List DcqlCredentialQuery
  | [] => []
  | id :: rest =>
    plainQuery id (if id ∈ rest then .kycGte 1 else .emailVerified) :: shapeQuery rest

theorem shapeQuery_ids (ids : List String) :
    (shapeQuery ids).map DcqlCredentialQuery.id = ids := by
  induction ids with
  | nil => rfl
  | cons id rest ih => simp [shapeQuery, plainQuery, ih]

theorem queryById_shapeQuery {ids : List String} {id : String} {q : DcqlCredentialQuery}
    (selected : queryById (shapeQuery ids) id = some q) : q = plainQuery id .emailVerified := by
  induction ids with
  | nil => simp [queryById, shapeQuery] at selected
  | cons first rest ih =>
    rw [shapeQuery, queryById_cons] at selected
    cases later : queryById (shapeQuery rest) id with
    | some q' =>
      rw [later, Option.some_or] at selected
      exact ih (later.trans selected)
    | none =>
      rw [queryById_eq_none, shapeQuery_ids] at later
      rw [queryById_eq_none.mpr (by rwa [shapeQuery_ids]), Option.none_or] at selected
      by_cases named : first = id
      · subst named
        simpa [later, plainQuery] using selected.symm
      · simp [plainQuery, named] at selected

theorem exists_kyc_of_repeated {ids : List String} {id : String} (repeated : 2 ≤ ids.count id) :
    plainQuery id (.kycGte 1) ∈ shapeQuery ids := by
  induction ids with
  | nil => simp at repeated
  | cons first rest ih =>
    rw [List.count_cons] at repeated
    by_cases named : first = id
    · subst named
      have later : first ∈ rest := List.count_pos_iff.mp (by simpa using repeated)
      simp [shapeQuery, later]
    · exact List.mem_cons_of_mem _ (ih (by simpa [named] using repeated))

/-- The sample presentation under each of the ids. -/
def shapeToken (presented : List String) : VpToken where
  rows := presented.dedup.map fun id => (id, [samplePresentation])
  unique := by
    rw [List.map_map]
    simpa [Function.comp_def] using presented.nodup_dedup

theorem shapeToken_ids (presented : List String) :
    (shapeToken presented).rows.map Prod.fst = presented.dedup := by
  simp [shapeToken, Function.comp_def]

def shapeRequest (ids : List String) (sets : Option (List DcqlCredentialSet))
    (presented : List String) : VerifyDcqlRequest where
  vpToken := shapeToken presented
  challenge := sampleKb.nonce
  audience := some sampleKb.aud
  verifierId := none
  query := ⟨shapeQuery ids, sets⟩

def shapeService (now : Time) : Service := sampleService now {sampleEmailKeyHex}

section

variable {ids : List String} {sets : Option (List DcqlCredentialSet)} {presented : List String}

theorem shape_mirrored (now : Time) :
    ∀ row ∈ (shapeRequest ids sets presented).vpToken.rows,
      EntryMirrored (sampleWorld now) (shapeRequest ids sets presented)
        (shapeService now).mirrors row := by
  intro row member
  obtain ⟨id, _, rfl⟩ := List.mem_map.mp member
  obtain ⟨root, verified, hroot, checked, status, rootHex⟩ := sample_checked now
  refine ⟨samplePresentation, _, rfl, passes_iff.mpr ⟨_, _, verified, checked,
    sample_unrevoked now _ status _, rfl⟩, fun q selected => ?_⟩
  obtain rfl := queryById_shapeQuery selected
  refine ⟨⟨sampleEmailKeyHex, "email"⟩, keyFor_plainQuery.mpr ⟨emailVerifiedKey sampleHashes root,
    ?_, by simp [sampleEmailKeyHex, hroot]⟩, Finset.mem_singleton_self _⟩
  simp only [predicateKey, bind_eq_ok, pure_eq_ok, anchorFor, okOr_eq_ok]
  refine ⟨root, ?_, rfl⟩
  rw [show owlRootHex (sampleWorld now).primitives samplePresentation =
    some (hexEncode root.toList) from rootHex, owlRootAnchor_hexEncode]

/-- The verdict on a shape is valid whenever the presented ids fill it. -/
theorem shape_valid (now : Time) (all : sets = none → ids ⊆ presented)
    (covered : ∀ set ∈ requiredSets sets, Covers (· ∈ presented) set) :
    ∃ response svc', verifyDcql (sampleWorld now) (shapeService now)
        (shapeRequest ids sets presented) = (.ok response, svc') ∧ response.valid = true := by
  refine verifyDcql_of_mirrored rfl (sample_fresh now _) (shape_mirrored now) ?_
  rw [show (shapeRequest ids sets presented).vpToken = shapeToken presented from rfl,
    shapeToken_ids, checkCredentialSets_eq_ok]
  constructor
  · intro absent q member
    rw [List.mem_dedup]
    refine all absent ?_
    rw [← shapeQuery_ids ids]
    exact List.mem_map.mpr ⟨q, member, rfl⟩
  · intro set required
    exact (covered set required).mono fun id listed => List.mem_dedup.mpr listed

/-- The unproved element is not satisfied. -/
theorem shape_not_satisfied (now : Time) (id : String) :
    ¬ Satisfied (sampleWorld now) (shapeRequest ids sets presented) (shapeService now).mirrors
      (plainQuery id (.kycGte 1)) := by
  rintro ⟨presentation, row, outcome, ak, passes, derived, attested⟩
  obtain ⟨_, _, shown⟩ := List.mem_map.mp row
  obtain rfl : samplePresentation = presentation := by
    simp only [Prod.mk.injEq, List.cons.injEq, and_true] at shown
    exact shown.2
  obtain ⟨_, _, verified, checked, _, rfl⟩ := passes_iff.mp passes
  obtain ⟨root, _, hroot, _, _, rootHex⟩ := sample_checked now
  obtain ⟨key, derived, hex⟩ := keyFor_plainQuery.mp derived
  rw [show owlRootHex (sampleWorld now).primitives samplePresentation =
    some (hexEncode root.toList) from rootHex] at derived
  simp only [predicateKey, bind_eq_ok, pure_eq_ok, anchorFor, okOr_eq_ok, owlRootAnchor_hexEncode,
    Option.some.injEq, Prod.mk.injEq] at derived
  obtain ⟨_, rfl, rfl, _⟩ := derived
  have mirrored : ak.keyHex = sampleEmailKeyHex := by
    rcases attested with member | ⟨kind, onChain⟩
    · exact Finset.mem_singleton.mp member
    · simp [sampleWorld] at onChain
  rw [hex, sampleEmailKeyHex, hroot, Option.map_some, Option.getD_some] at mirrored
  have same := Vector.toList_inj.mp (hexEncode_injective mirrored)
  have differ := sample_kyc_ne_email
  rw [hroot, Option.all_some, bne_iff_ne] at differ
  exact differ same

end

/-- Verdicts on queries of a shape are sound exactly when its ids identify its elements. -/
theorem dcql_sound_iff_identifying (ids : List String)
    (sets : Option (List DcqlCredentialSet)) :
    SoundFor ids sets ↔ Identifying ids sets := by
  constructor
  · intro sound
    have satisfied (presented : List String) (all : sets = none → ids ⊆ presented)
        (covered : ∀ set ∈ requiredSets sets, Covers (· ∈ presented) set) :
        DcqlSatisfied (sampleWorld 0) (shapeRequest ids sets presented)
          (shapeService 0).mirrors := by
      obtain ⟨response, svc', returns, valid⟩ := shape_valid 0 all covered
      exact sound _ _ _ _ _ (shapeQuery_ids ids) rfl returns valid
    constructor
    · rintro rfl
      rw [List.nodup_iff_count_le_one]
      intro id
      by_contra repeated
      have facts := satisfied ids (fun _ => List.Subset.refl _) (by simp [requiredSets])
      exact shape_not_satisfied 0 id
        (facts.credentials rfl _ (exists_kyc_of_repeated (by omega)))
    · intro presented covered set required
      have some : sets ≠ none := by
        rintro rfl
        simp [requiredSets] at required
      have facts := satisfied presented (fun absent => absurd absent some) covered
      refine (facts.sets set required).mono ?_
      rintro id ⟨⟨q, member, rfl⟩, all⟩
      constructor
      · obtain ⟨presentation, row, _⟩ := all q member rfl
        have listed : q.id ∈ (shapeToken presented).rows.map Prod.fst :=
          List.mem_map.mpr ⟨_, row, rfl⟩
        rwa [shapeToken_ids, List.mem_dedup] at listed
      · have named : q.id ∈ ids := by
          rw [← shapeQuery_ids ids]
          exact List.mem_map.mpr ⟨q, member, rfl⟩
        have positive := List.count_pos_iff.mpr named
        by_contra repeated
        exact shape_not_satisfied 0 q.id
          (all _ (exists_kyc_of_repeated (by omega)) rfl)
  · exact sound_of_identifying

/-- Two elements share an id, one presentation satisfies the second, and the verdict is valid
    although the first is not satisfied. -/
theorem dcql_duplicate_ids_accepted :
    ∃ response svc', verifyDcql (sampleWorld 1750000000) (shapeService 1750000000)
        (shapeRequest ["identity", "identity"] none ["identity"]) = (.ok response, svc') ∧
      response.valid = true ∧
      ¬ DcqlSatisfied (sampleWorld 1750000000)
        (shapeRequest ["identity", "identity"] none ["identity"])
        (shapeService 1750000000).mirrors := by
  obtain ⟨response, svc', returns, valid⟩ :=
    @shape_valid ["identity", "identity"] none ["identity"] 1750000000 (by simp)
      (by simp [requiredSets])
  refine ⟨response, svc', returns, valid, fun facts => ?_⟩
  exact shape_not_satisfied 1750000000 "identity"
    (facts.credentials rfl _ (exists_kyc_of_repeated (by decide)))

end OwlId.Verification
