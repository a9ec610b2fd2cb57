import Mathlib
import OwlId.Sdk.EnsuredTuples

/-! # Presenting credentials

`present` answers a DCQL request: it picks a credential for each id that is needed, ensures the
attestations the query requires, and only then unlocks the holder's key and signs.  In every run
a signature comes after evidence that each tuple its query requires is attested, and a token that
is returned is one the server's solver accepts.
-/

namespace OwlId.Sdk

open OwlId.Lib OwlId.ProofSystem Traced
open OwlId.Verification (DcqlCredentialQuery DcqlRequest)

/-! ## The wallet -/

structure WalletPresentRequest where
  dcql : DcqlRequest
  aud : String
  nonce : String
  verifierId : Option String
  overrides : Option (List (String × String))

structure UsedCredential where
  dcqlId : String
  credentialId : String
  disclosures : List String
deriving DecidableEq

/-- Each value of the token is an array of the one presentation. -/
structure WalletPresentResult where
  vpToken : List (String × String)
  used : List UsedCredential
  attested : List EnsureResult

/-- The runtime with the wallet's storage, its passkey and its signer.  What is read from storage
    may be absent or empty. -/
structure WalletRuntime (σ Snapshot : Type) extends Runtime σ Snapshot where
  listCredentials : σ → Except String (List WalletCredential) × σ
  passkeyResolver : σ → Except String (Option String) × σ
  getCredentialKeyWrapped : String → σ → Except String (Option String) × σ
  openHolderKey : Option String → String → σ → Except String String × σ
  presentSdJwtVc : WalletCredential → String → List String → String → String →
    Except String String

/-- `unlocked` is the request for the holder's key, which prompts for the passkey. -/
inductive PresentEvent where
  | listed (credentials : List WalletCredential)
  | ensured (its : List Iteration)
  | unlocked (pick : ChosenCredential)
  | signed (pick : ChosenCredential) (presentation : String)

/-- `vpToken[id] = [presentation]`: a key keeps its place, and `__proto__` is no key. -/
def putPresentation (id presentation : String) (token : List (String × String)) :
    List (String × String) :=
  if id = "__proto__" then token
  else if token.any (fun entry => entry.1 == id) then
    token.map fun entry => if entry.1 = id then (id, presentation) else entry
  else token ++ [(id, presentation)]

def couldNotProve (missing : List String) : String :=
  "Couldn't prove " ++ ", ".intercalate missing ++ " on Midnight for this credential — " ++
    "the attestation could not be generated. Try again; if it keeps failing, " ++
    "request a fresh credential."

section

variable {σ Snapshot : Type} (R : WalletRuntime σ Snapshot) (W : WalletWorld) (H : Hashes)
  (N : Numerals) (req : WalletPresentRequest)

def queryOf (dcqlId : String) : Option DcqlCredentialQuery :=
  req.dcql.credentials.find? fun c => c.id == dcqlId

def requiredFor (dcqlId : String) : Option (List RequiredAttestation) :=
  (queryOf req dcqlId).map fun query => requiredAttestationsFor query req.verifierId

/-- One round of the loop: attest, unlock, sign. -/
def presentPick (passkeyId : Option String) (pick : ChosenCredential)
    (result : WalletPresentResult) : Traced σ PresentEvent String WalletPresentResult := do
  let id := pick.credential.credentialId
  let doc ← ofExcept (okOr (walletCredentialToProofJson W pick.credential)
    ("Unparseable SD-JWT VC for " ++ id))
  let required := requiredFor req pick.dcqlId
  let results ← within PresentEvent.ensured
    (ensureCredentialPredicatesAttested R.toRuntime H N doc required)
  ofExcept (ensure (unattestedRequiredPredicates required results = [])
    (couldNotProve (unattestedRequiredPredicates required results)))
  let stored ← fallible (R.getCredentialKeyWrapped id)
  let wrapped ← ofExcept (okOr (truthy stored) ("Missing holder key for credential " ++ id))
  record (.unlocked pick)
  let holderKeyHex ← fallible (R.openHolderKey passkeyId wrapped)
  let presentation ← ofExcept
    (R.presentSdJwtVc pick.credential holderKeyHex pick.disclosures req.aud req.nonce)
  record (.signed pick presentation)
  return ⟨putPresentation pick.dcqlId presentation result.vpToken,
    result.used ++ [⟨pick.dcqlId, id, pick.disclosures⟩], result.attested ++ results⟩

def presentAll (passkeyId : Option String) :
    List ChosenCredential → WalletPresentResult → Traced σ PresentEvent String WalletPresentResult
  | [], result => pure result
  | pick :: rest, result => do
    let after ← presentPick R W H N req passkeyId pick result
    presentAll passkeyId rest after

def present : Traced σ PresentEvent String WalletPresentResult := do
  let credentials ← fallible R.listCredentials
  record (.listed credentials)
  let summary := matchDcqlAgainst W credentials req.dcql
  ofExcept (ensure (summary.satisfiable = true)
    (summary.reason.getD "DCQL request unsatisfied by wallet"))
  let passkeyId ← fallible R.passkeyResolver
  let chosen ← ofExcept (chooseAcrossSets W summary req.dcql req.overrides)
  presentAll R W H N req passkeyId chosen ⟨[], [], []⟩

end

/-! ## Picks -/

section

variable {W : WalletWorld} {credentials : List WalletCredential} {query : DcqlRequest}

/-- The pick is a credential of the wallet that answers the query its id finds. -/
def Answers (W : WalletWorld) (credentials : List WalletCredential) (query : DcqlRequest)
    (pick : ChosenCredential) (cq : DcqlCredentialQuery) : Prop :=
  query.credentials.find? (fun c => c.id == pick.dcqlId) = some cq ∧
    pick.credential ∈ credentials ∧ credentialSatisfies W pick.credential cq = true

theorem chooseFor_answers {overrides : Option (List (String × String))} {id : String}
    {pick : ChosenCredential}
    (chosen : chooseFor W (matchDcqlAgainst W credentials query) overrides id = .ok pick) :
    pick.dcqlId = id ∧ ∃ cq, Answers W credentials query pick cq := by
  simp only [chooseFor, bind_eq_ok, okOr_eq_ok, pure_eq_ok] at chosen
  obtain ⟨entry, found, newest, first, rfl⟩ := chosen
  refine ⟨rfl, ?_⟩
  rw [entryFor, matchDcqlAgainst, List.find?_map] at found
  obtain ⟨cq, here, rfl⟩ := Option.map_eq_some_iff.mp found
  have sorted := List.mergeSort_perm (matchEntry W credentials cq).candidates fun a b =>
    W.localeCompare b.issuedAt a.issuedAt ≤ 0
  have newestMember := sorted.mem_iff.mp (List.mem_of_head? first)
  refine ⟨cq, here, ?_⟩
  rw [← mem_matchEntry_candidates]
  cases explicit : (overrideId overrides id).bind fun chosen =>
      (matchEntry W credentials cq).candidates.find? fun c => c.credentialId == chosen with
  | none => exact newestMember
  | some other =>
    obtain ⟨_, _, member⟩ := Option.bind_eq_some_iff.mp explicit
    exact List.mem_of_find?_eq_some member

theorem chooseAcrossSets_answers {overrides : Option (List (String × String))}
    {chosen : List ChosenCredential}
    (chose : chooseAcrossSets W (matchDcqlAgainst W credentials query) query overrides =
      .ok chosen) :
    chosen.map ChosenCredential.dcqlId =
        idsNeeded (matchDcqlAgainst W credentials query) query ∧
      ∀ pick ∈ chosen, ∃ cq, Answers W credentials query pick cq := by
  rw [chooseAcrossSets, mapM_eq_ok] at chose
  generalize idsNeeded (matchDcqlAgainst W credentials query) query = ids at chose
  induction chose with
  | nil => exact ⟨rfl, fun pick member => absurd member List.not_mem_nil⟩
  | @cons id pick ids picks first rest ih =>
    obtain ⟨same, answers⟩ := chooseFor_answers first
    refine ⟨by rw [List.map_cons, same, ih.1], List.forall_mem_cons.mpr ⟨answers, ih.2⟩⟩

end

/-! ## Evidence -/

/-- A query requires one tuple at most, with all its bounds. -/
theorem unambiguous_required (query : DcqlCredentialQuery) (verifierId : Option String) :
    Unambiguous (requiredAttestationsFor query verifierId) := by
  have alone (r : RequiredAttestation)
      (bounded : r.predicate = "age" ∨ r.predicate = "age_range" ∨ r.predicate = "kyc" →
        r.tuple.isSome = true) : Unambiguous [r] :=
    ⟨fun a ha b hb _ => by rw [List.mem_singleton.mp ha, List.mem_singleton.mp hb],
      fun a ha => by rw [List.mem_singleton.mp ha]; exact bounded⟩
  rw [requiredAttestationsFor]
  cases readOwlPredicate query with
  | none => exact ⟨fun r member => absurd member List.not_mem_nil,
      fun r member => absurd member List.not_mem_nil⟩
  | some ext =>
    cases ext with
    | ageGte threshold => exact alone _ fun _ => rfl
    | ageRange min max => exact alone _ fun _ => rfl
    | kycGte threshold => exact alone _ fun _ => rfl
    | nationalityIn countries => exact alone _ (by simp)
    | residencyIn countries => exact alone _ (by simp)
    | emailVerified => exact alone _ (by simp)
    | uniquePersonhood epoch appId => exact alone _ (by simp)

section

variable {σ Snapshot : Type} {R : WalletRuntime σ Snapshot} {W : WalletWorld} {H : Hashes}
  {N : Numerals} {req : WalletPresentRequest}

/-- The iterations ensured every tuple that the pick's query requires, under the root of the
    pick's credential. -/
def AllEnsured (H : Hashes) (req : WalletPresentRequest) (pick : ChosenCredential)
    (its : List Iteration) : Prop :=
  ∀ r ∈ (requiredFor req pick.dcqlId).getD [], ∃ tuple owlRoot, r.tuple = some tuple ∧
    pick.credential.sdJwtVc.bind SdJwtVc.owlRootHex = some owlRoot ∧
    ∃ it ∈ its, Ensured H owlRoot tuple it.trace

theorem allEnsured_of_rounds {pick : ChosenCredential} {doc : CredentialJson}
    {its : List Iteration} {results : List EnsureResult}
    (stored : walletCredentialToProofJson W pick.credential = some doc)
    (rounds : ∀ it ∈ its, RoundTrace H N doc (requiredFor req pick.dcqlId) it.stamped it.result
      it.trace)
    (reported : ∀ result ∈ results, ∃ it ∈ its, it.result = .ok result)
    (complete : unattestedRequiredPredicates (requiredFor req pick.dcqlId) results = []) :
    AllEnsured H req pick its := by
  have root : pick.credential.sdJwtVc.bind SdJwtVc.owlRootHex = doc.owlRoot := by
    rw [walletCredentialToProofJson, Option.map_eq_some_iff] at stored
    obtain ⟨vc, parsed, rfl⟩ := stored
    rw [parsed]
    rfl
  intro r among
  rw [requiredFor] at rounds complete among
  cases query : queryOf req pick.dcqlId with
  | none =>
    rw [query] at among
    cases among
  | some cq =>
    rw [query, Option.map_some] at rounds complete among
    rcases ensured_of_rounds (unambiguous_required cq req.verifierId) rounds reported among with
      missing | ⟨tuple, owlRoot, asks, rooted, ensured⟩
    · rw [complete] at missing
      cases missing
    · exact ⟨tuple, owlRoot, asks, root.trans rooted, ensured⟩

/-- A round unlocks the key and signs on such evidence only. -/
inductive PickTrace (H : Hashes) (req : WalletPresentRequest) (pick : ChosenCredential)
    (result : WalletPresentResult) : Except String WalletPresentResult → List PresentEvent → Prop
  | unparsed (e : String) : PickTrace H req pick result (.error e) []
  | refused (e : String) (its : List Iteration) :
    PickTrace H req pick result (.error e) [.ensured its]
  | locked (e : String) (its : List Iteration) (evidence : AllEnsured H req pick its) :
    PickTrace H req pick result (.error e) [.ensured its, .unlocked pick]
  | signed (its : List Iteration) (presentation : String) (attested : List EnsureResult)
      (evidence : AllEnsured H req pick its) :
    PickTrace H req pick result
      (.ok ⟨putPresentation pick.dcqlId presentation result.vpToken,
        result.used ++ [⟨pick.dcqlId, pick.credential.credentialId, pick.disclosures⟩], attested⟩)
      [.ensured its, .unlocked pick, .signed pick presentation]

theorem presentPick_ensures (passkeyId : Option String) (pick : ChosenCredential)
    (result : WalletPresentResult) :
    Ensures (presentPick R W H N req passkeyId pick result) (PickTrace H req pick result) := by
  refine ensures_ofExcept (fun e _ => .unparsed e) fun doc stored => ?_
  rw [okOr_eq_ok] at stored
  refine ensure_ensures.within.bind ?_ ?_
  · rintro e t ⟨its, rfl, _⟩
    exact .refused e its
  · rintro results t ⟨its, rfl, rounds, reported⟩
    refine ensures_ofExcept (fun e _ => .refused e its) fun _ complete => ?_
    have evidence := allEnsured_of_rounds stored (fun it member => (rounds it member).2)
      (reported results rfl) (ensure_eq_ok.mp complete)
    refine ensures_fallible (fun e => .refused e its) fun _ stored _ => ?_
    refine ensures_ofExcept (fun e _ => .refused e its) fun wrapped _ => ?_
    refine ensures_record ?_
    refine ensures_fallible (fun e => .locked e its evidence) fun _ holderKeyHex _ => ?_
    refine ensures_ofExcept (fun e _ => .locked e its evidence) fun presentation _ => ?_
    exact ensures_record (ensures_pure (.signed its presentation _ evidence))

/-! ## The token -/

theorem mem_putPresentation {id presentation : String} {token : List (String × String)}
    {entry : String × String} (member : entry ∈ putPresentation id presentation token) :
    entry = (id, presentation) ∨ entry ∈ token := by
  rw [putPresentation] at member
  split at member
  · exact .inr member
  · split at member
    · obtain ⟨other, before, rfl⟩ := List.mem_map.mp member
      split
      · exact .inl rfl
      · exact .inr before
    · simpa [or_comm] using member

theorem putPresentation_key {id presentation : String} {token : List (String × String)}
    (isKey : id ≠ "__proto__") :
    id ∈ (putPresentation id presentation token).map Prod.fst := by
  rw [putPresentation, if_neg isKey]
  split
  · rename_i held
    obtain ⟨entry, member, same⟩ := List.any_eq_true.mp held
    rw [beq_iff_eq] at same
    exact List.mem_map.mpr ⟨_, List.mem_map_of_mem member, by rw [if_pos same]⟩
  · simp

theorem putPresentation_keeps {id presentation : String} {token : List (String × String)}
    {other : String} (held : other ∈ token.map Prod.fst) :
    other ∈ (putPresentation id presentation token).map Prod.fst := by
  obtain ⟨entry, member, rfl⟩ := List.mem_map.mp held
  rw [putPresentation]
  split
  · exact held
  · split
    · refine List.mem_map.mpr ⟨_, List.mem_map_of_mem member, ?_⟩
      split
      · rename_i same
        exact same.symm
      · rfl
    · rw [List.map_append]
      exact List.mem_append_left _ held

/-! ## Whole runs -/

/-- What must have happened before an event. -/
def Backed (H : Hashes) (req : WalletPresentRequest) (past : List PresentEvent) :
    PresentEvent → Prop
  | .listed _ => past = []
  | .ensured _ => past ≠ []
  | .unlocked pick => ∃ early its, past = early ++ [.ensured its] ∧ AllEnsured H req pick its
  | .signed pick _ => ∃ early, past = early ++ [.unlocked pick]

/-- The token and the list of what was used tell of the signatures in the trace. -/
structure Tells (picks : List ChosenCredential) (result : WalletPresentResult)
    (trace : List PresentEvent) : Prop where
  used : result.used.map UsedCredential.dcqlId = picks.map ChosenCredential.dcqlId
  keyed : ∀ pick ∈ picks, pick.dcqlId ≠ "__proto__" →
    pick.dcqlId ∈ result.vpToken.map Prod.fst
  backed : ∀ entry ∈ result.vpToken, ∃ pick ∈ picks, pick.dcqlId = entry.1 ∧
    .signed pick entry.2 ∈ trace

theorem PickTrace.each {pick : ChosenCredential} {result : WalletPresentResult}
    {r : Except String WalletPresentResult} {trace past : List PresentEvent}
    (run : PickTrace H req pick result r trace) (begun : past ≠ []) :
    Each (Backed H req) past trace := by
  cases run with
  | unparsed e => trivial
  | refused e its => exact ⟨begun, trivial⟩
  | locked e its evidence => exact ⟨begun, ⟨past, its, rfl, evidence⟩, trivial⟩
  | signed its presentation attested evidence =>
    exact ⟨begun, ⟨past, its, rfl, evidence⟩, ⟨past ++ [.ensured its], rfl⟩, trivial⟩

theorem PickTrace.tells {pick : ChosenCredential} {result after : WalletPresentResult}
    {trace before : List PresentEvent} {picks : List ChosenCredential}
    (run : PickTrace H req pick result (.ok after) trace) (told : Tells picks result before) :
    Tells (picks ++ [pick]) after (before ++ trace) := by
  cases run with
  | signed its presentation attested evidence =>
    refine ⟨by simp [told.used], ?_, ?_⟩
    · intro other among isKey
      rcases List.mem_append.mp among with earlier | last
      · exact putPresentation_keeps (told.keyed other earlier isKey)
      · rw [List.mem_singleton] at last
        subst last
        exact putPresentation_key isKey
    · intro entry member
      rcases mem_putPresentation member with rfl | earlier
      · exact ⟨pick, by simp, rfl, by simp⟩
      · obtain ⟨other, among, same, signed⟩ := told.backed entry earlier
        exact ⟨other, List.mem_append_left _ among, same, List.mem_append_left _ signed⟩

/-- The loop, by induction on the picks that are left. -/
theorem presentAll_ensures (passkeyId : Option String) (left : List ChosenCredential)
    (result : WalletPresentResult) :
    Ensures (presentAll R W H N req passkeyId left result) fun r trace =>
      (∀ past, past ≠ [] → Each (Backed H req) past trace) ∧
      (∀ event ∈ trace, ∀ pick, event = .unlocked pick → pick ∈ left) ∧
      ∀ final, r = .ok final → ∀ done before, Tells done result before →
        Tells (done ++ left) final (before ++ trace) := by
  induction left generalizing result with
  | nil =>
    refine ensures_pure ⟨fun _ _ => trivial, fun _ none => absurd none List.not_mem_nil, ?_⟩
    intro final same done before told
    obtain rfl := Except.ok.inj same
    simpa using told
  | cons pick rest ih =>
    have picked {r : Except String WalletPresentResult} {t : List PresentEvent}
        (run : PickTrace H req pick result r t) :
        ∀ event ∈ t, ∀ other, event = .unlocked other → other ∈ pick :: rest := by
      rintro event member other rfl
      cases run <;> simp_all
    refine (presentPick_ensures passkeyId pick result).bind ?_ ?_
    · intro e t run
      refine ⟨fun past begun => run.each begun, picked run, fun final impossible => ?_⟩
      cases impossible
    · intro after t run
      refine (ih after).mono ?_
      rintro r t' ⟨each, unlocked, tells⟩
      refine ⟨fun past begun => each_append.mpr ⟨run.each begun, each _ (by simp [begun])⟩, ?_, ?_⟩
      · intro event member other same
        rcases List.mem_append.mp member with first | later
        · exact picked run event first other same
        · exact List.mem_cons_of_mem _ (unlocked event later other same)
      · intro final finished done before told
        have whole := tells final finished (done ++ [pick]) (before ++ t) (run.tells told)
        simpa [List.append_assoc] using whole

/-- What a whole run did. -/
structure PresentRun (R : WalletRuntime σ Snapshot) (W : WalletWorld) (H : Hashes)
    (req : WalletPresentRequest) (r : Except String WalletPresentResult)
    (trace : List PresentEvent) : Prop where
  each : Each (Backed H req) [] trace
  unlocked : ∀ pick, .unlocked pick ∈ trace → ∃ credentials cq later,
    trace = .listed credentials :: later ∧ Answers W credentials req.dcql pick cq
  told : ∀ final, r = .ok final →
    Verification.checkCredentialSets req.dcql (final.used.map UsedCredential.dcqlId) = .ok () ∧
    ∃ picks, Tells picks final trace

theorem present_ensures : Ensures (present R W H N req) (PresentRun R W H req) := by
  have early (credentials : List WalletCredential) (e : String) :
      PresentRun R W H req (.error e) [.listed credentials] :=
    ⟨⟨rfl, trivial⟩, fun pick member => by simp at member,
      fun final impossible => by cases impossible⟩
  refine ensures_fallible (fun e => ⟨trivial, fun pick none => absurd none List.not_mem_nil,
    fun final impossible => by cases impossible⟩) fun _ credentials _ => ?_
  refine ensures_record ?_
  refine ensures_ofExcept (fun e _ => early credentials e) fun _ satisfiable => ?_
  refine ensures_fallible (fun e => early credentials e) fun _ passkeyId _ => ?_
  refine ensures_ofExcept (fun e _ => early credentials e) fun chosen chose => ?_
  obtain ⟨ids, answers⟩ := chooseAcrossSets_answers chose
  refine (presentAll_ensures passkeyId chosen ⟨[], [], []⟩).mono ?_
  rintro r trace ⟨each, picked, tells⟩
  refine ⟨⟨rfl, each _ (by simp)⟩, ?_, ?_⟩
  · intro pick member
    have later : PresentEvent.unlocked pick ∈ trace := by simpa using member
    obtain ⟨cq, answered⟩ := answers pick (picked _ later pick rfl)
    exact ⟨credentials, cq, trace, rfl, answered⟩
  · intro final finished
    have told : Tells chosen final (.listed credentials :: trace) :=
      tells final finished [] [.listed credentials] ⟨rfl, by simp, by simp⟩
    refine ⟨?_, chosen, told⟩
    rw [told.used, ids]
    exact idsNeeded_accepted (ensure_eq_ok.mp satisfiable)

end

/-- In every run, whatever storage, passkey, service and prover answer: the holder's key is asked
    for, and a presentation signed, only for a credential of the wallet that answers the query,
    and right after the orchestrator ensured each tuple this query requires under the root of the
    credential.  When the run returns, the server's solver accepts the ids that were used, and the
    token has a signature of this run under each. -/
theorem signed_only_when_attested {σ Snapshot : Type} (R : WalletRuntime σ Snapshot)
    (W : WalletWorld) (H : Hashes) (N : Numerals) (req : WalletPresentRequest) (s : σ) :
    (∀ earlier later pick,
      (present R W H N req s).2.1 = earlier ++ .unlocked pick :: later →
      ∃ credentials cq early its, earlier = early ++ [.ensured its] ∧
        .listed credentials ∈ earlier ∧ Answers W credentials req.dcql pick cq ∧
        ∀ r ∈ requiredAttestationsFor cq req.verifierId, ∃ tuple owlRoot,
          r.tuple = some tuple ∧
          pick.credential.sdJwtVc.bind SdJwtVc.owlRootHex = some owlRoot ∧
          ∃ it ∈ its, Ensured H owlRoot tuple it.trace) ∧
    (∀ earlier later pick presentation,
      (present R W H N req s).2.1 = earlier ++ .signed pick presentation :: later →
      ∃ early, earlier = early ++ [.unlocked pick]) ∧
    ∀ result, (present R W H N req s).1 = .ok result →
      Verification.checkCredentialSets req.dcql (result.used.map UsedCredential.dcqlId) = .ok () ∧
      (∀ u ∈ result.used, u.dcqlId ≠ "__proto__" →
        ∃ presentation, (u.dcqlId, presentation) ∈ result.vpToken) ∧
      ∀ entry ∈ result.vpToken, ∃ pick, pick.dcqlId = entry.1 ∧
        .signed pick entry.2 ∈ (present R W H N req s).2.1 := by
  have run := @present_ensures _ _ R W H N req s
  refine ⟨?_, ?_, ?_⟩
  · intro earlier later pick split
    obtain ⟨early, its, before, evidence⟩ := run.each.at_split split
    rw [List.nil_append] at before
    obtain ⟨credentials, cq, rest, begins, answers⟩ := run.unlocked pick (by rw [split]; simp)
    have required : requiredFor req pick.dcqlId =
        some (requiredAttestationsFor cq req.verifierId) := by
      rw [requiredFor, queryOf, answers.1]
      rfl
    rw [AllEnsured, required] at evidence
    refine ⟨credentials, cq, early, its, before, ?_, answers, evidence⟩
    rw [begins, before] at split
    cases early with
    | nil => cases split
    | cons first more =>
      obtain ⟨rfl, _⟩ := List.cons.inj split
      simp [before]
  · intro earlier later pick presentation split
    obtain ⟨early, before⟩ := run.each.at_split split
    exact ⟨early, by simpa using before⟩
  · intro result returned
    obtain ⟨accepted, picks, told⟩ := run.told result returned
    refine ⟨accepted, ?_, ?_⟩
    · intro u among isKey
      have named : u.dcqlId ∈ picks.map ChosenCredential.dcqlId := by
        rw [← told.used]
        exact List.mem_map_of_mem among
      obtain ⟨pick, chosen, same⟩ := List.mem_map.mp named
      rw [← same] at isKey
      obtain ⟨entry, member, key⟩ := List.mem_map.mp (told.keyed pick chosen isKey)
      exact ⟨entry.2, by rwa [← same, ← key]⟩
    · intro entry member
      obtain ⟨pick, _, same, signed⟩ := told.backed entry member
      exact ⟨pick, same, signed⟩

end OwlId.Sdk
