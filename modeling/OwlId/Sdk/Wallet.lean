import Mathlib
import OwlId.Lib.Doubles
import OwlId.Lib.JsText
import OwlId.Verification.Dcql
import OwlId.Sdk.Routing

/-! # The wallet's DCQL solver

The wallet lists the credentials that answer each credential query, decides whether the
request can be satisfied, and picks one credential for each id it needs.  The server
later solves the same `credential_sets` over the ids that were presented.
`wallet_selection_agrees` says that the wallet's verdict is the server's: a request it
calls satisfiable is answered by a choice the server accepts, and for one it calls
unsatisfiable no choice is.
-/

namespace OwlId.Sdk

open OwlId.Lib OwlId.ProofSystem
open OwlId.Verification (DcqlClaimQuery DcqlCredentialQuery DcqlCredentialSet DcqlRequest Covers
  requiredSets)

/-! ## Credentials -/

/-- An entry of the issued `owl_attestation` claim. -/
structure OwlAttestationRef where
  predicate : String
  threshold : Option Nat
  minAge : Option Nat
  maxAge : Option Nat
  epoch : Option String
  appId : Option String
  country : Option String
deriving DecidableEq

/-- What the wallet reads off a parsed SD-JWT VC.  `owlAttestation` is `none` where the claim is
not disclosed or is no array. -/
structure SdJwtVc where
  credentialIdHex : String
  owlRootHex : Option String
  disclosuresRaw : List ClaimEntry
  owlAttestation : Option (List OwlAttestationRef)

/-- `sdJwtVc` is what `SdJwtVc.parse` makes of the stored text, `none` where it throws. -/
structure WalletCredential where
  credentialId : String
  sdJwtVc : Option SdJwtVc
  issuedAt : String
  verifiedClaims : List (String × Json)
  -- the id is the text of a digest
  identified : credentialId ≠ ""

/-- What the wallet takes from the language and from tables of its own. -/
structure WalletWorld extends CountriesList where
  /-- `BY_ALPHA2`: the registered two-letter codes. -/
  byAlpha2 : String → Bool
  alpha3ToAlpha2 : String → Option String

/-! ## Matching -/

/-- The predicate a verifier asks for; thresholds and ages are JavaScript numbers. -/
inductive SdkOwlPredicate where
  | ageGte (threshold : Nat)
  | ageRange (min max : Nat)
  | kycGte (threshold : Nat)
  | nationalityIn (countries : List String)
  | residencyIn (countries : List String)
  | emailVerified
  | uniquePersonhood (epoch appId : String)
deriving DecidableEq

/-- A `u64` on the wire is read as the nearest double. -/
def readPredicate : Verification.OwlPredicate → SdkOwlPredicate
  | .ageGte threshold => .ageGte (roundDouble threshold.toNat)
  | .ageRange min max => .ageRange min.toNat max.toNat
  | .kycGte threshold => .kycGte (roundDouble threshold.toNat)
  | .nationalityIn countries => .nationalityIn countries
  | .residencyIn countries => .residencyIn countries
  | .emailVerified => .emailVerified
  | .uniquePersonhood epoch appId => .uniquePersonhood epoch appId

def readOwlPredicate (query : DcqlCredentialQuery) : Option SdkOwlPredicate :=
  query.owlPredicate.map readPredicate

/-- Whether some ref of the predicate has a country in the list, in any case. -/
def countryCovered (refs : List OwlAttestationRef) (predicate : String)
    (countries : List String) : Bool :=
  refs.any fun r => r.predicate == predicate &&
    r.country.any fun country => (countries.map toUpperCase).contains (toUpperCase country)

/-- Some ref satisfies the predicate the verifier asks for. -/
def owlPredicateCovered (refs : List OwlAttestationRef) : SdkOwlPredicate → Bool
  | .ageGte _ => refs.any fun r => r.predicate == "age"
  | .ageRange _ _ => refs.any fun r => r.predicate == "age_range"
  | .kycGte threshold =>
    refs.any fun r => r.predicate == "kyc" && r.threshold == some threshold
  | .nationalityIn countries => countryCovered refs "nationality" countries
  | .residencyIn countries => countryCovered refs "residency" countries
  | .emailVerified => refs.any fun r => r.predicate == "email_verified"
  | .uniquePersonhood _ _ => refs.any fun r => r.predicate == "unique_personhood"

/-- Some ref matches what a path of the older requests is routed to. -/
def attestationCovers (refs : List OwlAttestationRef) : SdkRoutedPredicate → Bool
  | .ageGte _ => refs.any fun r => r.predicate == "age"
  | .ageRange _ _ => refs.any fun r => r.predicate == "age_range"
  | .kycGte threshold => refs.any fun r => r.predicate == "kyc" &&
      r.threshold.any fun stamped => JsNumber.integer stamped == threshold
  | .nationalityIn countries => stampCovered "nationality" countries
  | .residencyIn countries => stampCovered "residency" countries
  | .emailVerified => refs.any fun r => r.predicate == "email_verified"
  | .uniquePersonhood _ _ => refs.any fun r => r.predicate == "unique_personhood"
where
  -- the routed codes are upper case
  stampCovered (predicate : String) (countries : List String) : Bool :=
    refs.any fun r => r.predicate == predicate &&
      r.country.any fun country => countries.contains (toUpperCase country)

section

variable (W : WalletWorld)

/-- A claim without a path asks for nothing; one that is not routed is not supported. -/
def claimCovered (refs : List OwlAttestationRef) (claim : DcqlClaimQuery) : Bool :=
  match claim.path.head? with
  | some path0 => (routeClaim W.toCountriesList path0 claim.values).any (attestationCovers refs)
  | none => true

def toAlpha2 (value : String) : Option String :=
  let upper := toUpperCase (jsTrim value)
  if utf16Length upper = 2 ∧ W.byAlpha2 upper = true then some upper
  else if utf16Length upper = 3 then W.alpha3ToAlpha2 upper
  else none

def alpha2OrUndefined (value : Option Json) : Option String :=
  (value.bind Json.asStr).bind (toAlpha2 W)

/-- `a ?? b`: `null` counts as absent. -/
def nullish (a b : Option Json) : Option Json :=
  match a with
  | none | some .null => b
  | some value => some value

def nationalityAlpha2 (claims : List (String × Json)) : Option String :=
  alpha2OrUndefined W (claims.lookup "nationality")

def residentAlpha2 (claims : List (String × Json)) : Option String :=
  alpha2OrUndefined W (nullish (claims.lookup "residentCountry") (claims.lookup "country"))

/-- The country of a ref that has none is taken from the stored claims. -/
def backfill (claims : List (String × Json)) (r : OwlAttestationRef) : OwlAttestationRef :=
  if r.country.any (· ≠ "") then r
  else if r.predicate = "nationality" ∧ (nationalityAlpha2 W claims).any (· ≠ "") then
    { r with country := nationalityAlpha2 W claims }
  else if r.predicate = "residency" ∧ (residentAlpha2 W claims).any (· ≠ "") then
    { r with country := residentAlpha2 W claims }
  else r

/-- The refs lifted off the credential, none where it does not parse. -/
def readOwlAttestations (cred : WalletCredential) : List OwlAttestationRef :=
  match cred.sdJwtVc.bind SdJwtVc.owlAttestation with
  | some refs => refs.map (backfill W cred.verifiedClaims)
  | none => []

def credentialSatisfies (cred : WalletCredential) (query : DcqlCredentialQuery) : Bool :=
  if query.format ≠ "dc+sd-jwt" then false
  else
    let refs := readOwlAttestations W cred
    match readOwlPredicate query with
    | some ext => owlPredicateCovered refs ext
    | none => query.claims.all (claimCovered W refs)

end

/-! ## The verdict -/

structure DcqlMatchEntry where
  dcqlId : String
  candidates : List WalletCredential
  disclosures : List String

structure DcqlMatchSummary where
  entries : List DcqlMatchEntry
  satisfiable : Bool
  reason : Option String

structure SetCheckResult where
  ok : Bool
  reason : Option String
deriving DecidableEq

/-- Claim values are never disclosed. -/
def disclosuresForQuery (_query : DcqlCredentialQuery) : List String := []

/-- A character as `JSON.stringify` writes it. -/
def stringifyChar : Char → String
  | '"' => "\\\""
  | '\\' => "\\\\"
  | '\n' => "\\n"
  | '\r' => "\\r"
  | '\t' => "\\t"
  | '\x08' => "\\b"
  | '\x0c' => "\\f"
  | c => if c.toNat < 32 then "\\u00" ++ hexEncode [UInt8.ofNat c.toNat] else c.toString

def stringifyString (s : String) : String :=
  "\"" ++ String.join (s.toList.map stringifyChar) ++ "\""

def stringifyRow (row : List String) : String :=
  "[" ++ ",".intercalate (row.map stringifyString) ++ "]"

def stringifyOptions (options : List (List String)) : String :=
  "[" ++ ",".intercalate (options.map stringifyRow) ++ "]"

def anyRowOk (satisfied : List String) (set : DcqlCredentialSet) : Bool :=
  set.options.any fun row => row.all fun id => satisfied.contains id

/-- The first credential, or the first required set, that is not satisfied. -/
def checkCredentialSets (query : DcqlRequest) (satisfied : List String) : SetCheckResult :=
  match query.credentialSets with
  | none =>
    match query.credentials.find? fun cq => !satisfied.contains cq.id with
    | some cq => ⟨false, some ("DCQL credential " ++ cq.id ++ " unsatisfied")⟩
    | none => ⟨true, none⟩
  | some sets =>
    match sets.find? fun set => set.required.getD true && !anyRowOk satisfied set with
    | some set =>
      ⟨false, some ("DCQL credential_set unsatisfied: " ++ stringifyOptions set.options)⟩
    | none => ⟨true, none⟩

section

variable (W : WalletWorld) (credentials : List WalletCredential)

def matchEntry (cq : DcqlCredentialQuery) : DcqlMatchEntry :=
  ⟨cq.id, credentials.filter (credentialSatisfies W · cq), disclosuresForQuery cq⟩

def hasCandidates (entry : DcqlMatchEntry) : Bool := !entry.candidates.isEmpty

def satisfiedIds (entries : List DcqlMatchEntry) : List String :=
  (entries.filter hasCandidates).map DcqlMatchEntry.dcqlId

def matchDcqlAgainst (query : DcqlRequest) : DcqlMatchSummary :=
  let entries := query.credentials.map (matchEntry W credentials)
  let result := checkCredentialSets query (satisfiedIds entries)
  ⟨entries, result.ok, result.reason⟩

end

/-! ## The choice -/

structure ChosenCredential where
  dcqlId : String
  credential : WalletCredential
  disclosures : List String

def entryFor (summary : DcqlMatchSummary) (id : String) : Option DcqlMatchEntry :=
  summary.entries.find? fun entry => entry.dcqlId == id

/-- The first row of a set whose ids all have candidates. -/
def firstRow (summary : DcqlMatchSummary) (set : DcqlCredentialSet) : Option (List String) :=
  set.options.find? fun row => row.all fun id =>
    (summary.entries.find? fun entry => entry.dcqlId == id && hasCandidates entry).isSome

/-- One row of each set, without repetitions, or every id when there are no sets. -/
def idsNeeded (summary : DcqlMatchSummary) (query : DcqlRequest) : List String :=
  match query.credentialSets with
  | some sets => (sets.flatMap fun set => (firstRow summary set).getD []).eraseDups
  | none => query.credentials.map DcqlCredentialQuery.id

/-- `overrides?.[id]`, where the empty text counts as none. -/
def overrideId (overrides : Option (List (String × String))) (id : String) : Option String :=
  (overrides.bind fun table => table.lookup id).filter (· ≠ "")

def noCandidate (id : String) : String :=
  "DCQL id " ++ id ++ " has no candidate (set solver bug?)"

section

variable (W : WalletWorld)

def newestFirst (candidates : List WalletCredential) : List WalletCredential :=
  candidates.mergeSort fun a b => W.localeCompare b.issuedAt a.issuedAt ≤ 0

def chooseFor (summary : DcqlMatchSummary) (overrides : Option (List (String × String)))
    (id : String) : Except String ChosenCredential := do
  let entry ← okOr (entryFor summary id) (noCandidate id)
  let newest ← okOr (newestFirst W entry.candidates).head? (noCandidate id)
  let explicit := (overrideId overrides id).bind fun chosen =>
    entry.candidates.find? fun c => c.credentialId == chosen
  return ⟨id, explicit.getD newest, entry.disclosures⟩

def chooseAcrossSets (summary : DcqlMatchSummary) (query : DcqlRequest)
    (overrides : Option (List (String × String))) : Except String (List ChosenCredential) :=
  (idsNeeded summary query).mapM (chooseFor W summary overrides)

end

/-! ## What the verdict means -/

section

variable {W : WalletWorld} {credentials : List WalletCredential} {query : DcqlRequest}

/-- The credential is in the wallet and answers the query of this id. -/
def Candidate (W : WalletWorld) (credentials : List WalletCredential) (query : DcqlRequest)
    (id : String) (c : WalletCredential) : Prop :=
  c ∈ credentials ∧ ∃ cq ∈ query.credentials, cq.id = id ∧ credentialSatisfies W c cq = true

theorem mem_matchEntry_candidates {cq : DcqlCredentialQuery} {c : WalletCredential} :
    c ∈ (matchEntry W credentials cq).candidates ↔
      c ∈ credentials ∧ credentialSatisfies W c cq = true := by
  simp [matchEntry]

theorem hasCandidates_matchEntry {cq : DcqlCredentialQuery} :
    hasCandidates (matchEntry W credentials cq) = true ↔
      ∃ c ∈ credentials, credentialSatisfies W c cq = true := by
  rw [hasCandidates, Bool.not_eq_true', List.isEmpty_eq_false_iff_exists_mem]
  simp only [mem_matchEntry_candidates]

theorem mem_satisfiedIds {id : String} :
    id ∈ satisfiedIds (matchDcqlAgainst W credentials query).entries ↔
      ∃ c, Candidate W credentials query id c := by
  simp only [satisfiedIds, matchDcqlAgainst, List.mem_map, List.mem_filter, Candidate]
  constructor
  · rintro ⟨_, ⟨⟨cq, asked, rfl⟩, some⟩, rfl⟩
    obtain ⟨c, held, satisfies⟩ := hasCandidates_matchEntry.mp some
    exact ⟨c, held, cq, asked, rfl, satisfies⟩
  · rintro ⟨c, held, cq, asked, rfl, satisfies⟩
    exact ⟨_, ⟨⟨cq, asked, rfl⟩, hasCandidates_matchEntry.mpr ⟨c, held, satisfies⟩⟩, rfl⟩

/-! ### The two solvers -/

theorem anyRowOk_eq {satisfied : List String} {set : DcqlCredentialSet} :
    anyRowOk satisfied set = true ↔ Covers (· ∈ satisfied) set := by
  simp [anyRowOk, Covers]

/-- The wallet's solver accepts the ids that the server's accepts. -/
theorem checkCredentialSets_ok {satisfied : List String} :
    (checkCredentialSets query satisfied).ok = true ↔
      Verification.checkCredentialSets query satisfied = .ok () := by
  rw [Verification.checkCredentialSets_eq_ok]
  unfold checkCredentialSets
  cases sets : query.credentialSets with
  | none =>
    cases failing : query.credentials.find? fun cq => !satisfied.contains cq.id with
    | none =>
      have all := List.find?_eq_none.mp failing
      simpa [requiredSets] using all
    | some cq =>
      have missing : cq.id ∉ satisfied := by simpa using List.find?_some failing
      simp only [Bool.false_eq_true, false_iff]
      exact fun accepted => missing (accepted.1 trivial cq (List.mem_of_find?_eq_some failing))
  | some list =>
    cases failing : list.find? fun set =>
        set.required.getD true && !anyRowOk satisfied set with
    | none =>
      have all := List.find?_eq_none.mp failing
      simp only [failing, true_iff, reduceCtorEq, false_implies, true_and]
      intro set member
      obtain ⟨listed, required⟩ := List.mem_filter.mp member
      have passes := all set listed
      rw [DcqlCredentialSet.isRequired] at required
      rw [required, Bool.true_and, Bool.not_eq_true', Bool.not_eq_false] at passes
      exact anyRowOk_eq.mp passes
    | some set =>
      have failed := List.find?_some failing
      rw [Bool.and_eq_true, Bool.not_eq_true'] at failed
      simp only [failing, Bool.false_eq_true, false_iff]
      intro accepted
      have listed := List.mem_of_find?_eq_some failing
      have covered := accepted.2 set (List.mem_filter.mpr ⟨listed, failed.1⟩)
      rw [anyRowOk_eq.mpr covered] at failed
      exact Bool.noConfusion failed.2

/-- More ids satisfy no less. -/
theorem accepts_mono {ids ids' : List String} (more : ids ⊆ ids')
    (accepted : Verification.checkCredentialSets query ids = .ok ()) :
    Verification.checkCredentialSets query ids' = .ok () := by
  rw [Verification.checkCredentialSets_eq_ok] at accepted ⊢
  exact ⟨fun none cq asked => more (accepted.1 none cq asked),
    fun set required => (accepted.2 set required).mono fun _ inside => more inside⟩

/-! ### The choice that is made -/

/-- What `Array.from(new Set(…))` returns repeats nothing. -/
theorem eraseDups_nodup (ids : List String) : ids.eraseDups.Nodup := by
  induction length : ids.length using Nat.strong_induction_on generalizing ids with
  | _ n ih =>
    cases ids with
    | nil => exact List.nodup_nil
    | cons id rest =>
      rw [List.eraseDups_cons, List.nodup_cons]
      refine ⟨?_, ih _ ?_ _ rfl⟩
      · simp
      · -- only later repetitions are dropped from the rest
        have shorter := List.length_filter_le (fun other => !other == id) rest
        rw [← length, List.length_cons]
        omega

theorem isSome_find_entry {id : String} :
    ((matchDcqlAgainst W credentials query).entries.find? fun entry =>
        entry.dcqlId == id && hasCandidates entry).isSome = true ↔
      ∃ c, Candidate W credentials query id c := by
  rw [← mem_satisfiedIds, List.find?_isSome, satisfiedIds]
  simp only [Bool.and_eq_true, beq_iff_eq, List.mem_map, List.mem_filter, and_assoc, and_comm]

/-- Ids that are distinct find their own entry. -/
theorem entryFor_eq (distinct : (query.credentials.map DcqlCredentialQuery.id).Nodup)
    {cq : DcqlCredentialQuery} (asked : cq ∈ query.credentials) :
    entryFor (matchDcqlAgainst W credentials query) cq.id = some (matchEntry W credentials cq) := by
  unfold entryFor matchDcqlAgainst
  rw [List.find?_map]
  cases found : query.credentials.find? ((fun entry => entry.dcqlId == cq.id) ∘
      matchEntry W credentials) with
  | none =>
    have differs := List.find?_eq_none.mp found cq asked
    exact absurd (by simp [matchEntry]) differs
  | some other =>
    have same : other.id = cq.id := by simpa [matchEntry] using List.find?_some found
    rw [List.inj_on_of_nodup_map distinct (List.mem_of_find?_eq_some found) asked same]
    rfl

theorem idsNeeded_nodup (distinct : (query.credentials.map DcqlCredentialQuery.id).Nodup)
    (summary : DcqlMatchSummary) : (idsNeeded summary query).Nodup := by
  unfold idsNeeded
  split
  · exact eraseDups_nodup _
  · exact distinct

/-- A row that is chosen names only ids with candidates. -/
theorem firstRow_candidates {set : DcqlCredentialSet} {row : List String}
    (chosen : firstRow (matchDcqlAgainst W credentials query) set = some row) :
    row ∈ set.options ∧ ∀ id ∈ row, ∃ c, Candidate W credentials query id c := by
  refine ⟨List.mem_of_find?_eq_some chosen, ?_⟩
  have passes := List.find?_some chosen
  rw [List.all_eq_true] at passes
  exact fun id named => isSome_find_entry.mp (passes id named)

/-- A set that the candidates cover has such a row. -/
theorem firstRow_of_covers {set : DcqlCredentialSet}
    (covered : Covers (fun id => ∃ c, Candidate W credentials query id c) set) :
    ∃ row, firstRow (matchDcqlAgainst W credentials query) set = some row := by
  obtain ⟨row, listed, all⟩ := covered
  rw [← Option.isSome_iff_exists, firstRow, List.find?_isSome]
  refine ⟨row, listed, ?_⟩
  rw [List.all_eq_true]
  exact fun id named => isSome_find_entry.mpr (all id named)

/-- A satisfiable request needs only ids that have candidates. -/
theorem idsNeeded_candidates
    (satisfiable : (matchDcqlAgainst W credentials query).satisfiable = true) :
    ∀ id ∈ idsNeeded (matchDcqlAgainst W credentials query) query,
      ∃ c, Candidate W credentials query id c := by
  have accepted := (Verification.checkCredentialSets_eq_ok.mp
    (checkCredentialSets_ok.mp satisfiable)).1
  unfold idsNeeded
  cases sets : query.credentialSets with
  | none =>
    intro id needed
    obtain ⟨cq, asked, rfl⟩ := List.mem_map.mp needed
    exact mem_satisfiedIds.mp (accepted sets cq asked)
  | some list =>
    intro id needed
    rw [List.mem_eraseDups, List.mem_flatMap] at needed
    obtain ⟨set, _, inRow⟩ := needed
    cases row : firstRow (matchDcqlAgainst W credentials query) set with
    | none => simp [row] at inRow
    | some ids =>
      rw [row, Option.getD_some] at inRow
      exact (firstRow_candidates row).2 id inRow

/-- The server accepts the ids the wallet needs. -/
theorem idsNeeded_accepted
    (satisfiable : (matchDcqlAgainst W credentials query).satisfiable = true) :
    Verification.checkCredentialSets query
      (idsNeeded (matchDcqlAgainst W credentials query) query) = .ok () := by
  have accepted := Verification.checkCredentialSets_eq_ok.mp (checkCredentialSets_ok.mp satisfiable)
  rw [Verification.checkCredentialSets_eq_ok]
  constructor
  · intro none cq asked
    rw [idsNeeded, none]
    exact List.mem_map_of_mem asked
  · intro set required
    have covered := (accepted.2 set required).mono fun id => mem_satisfiedIds.mp
    obtain ⟨row, chosen⟩ := firstRow_of_covers covered
    refine ⟨row, (firstRow_candidates chosen).1, fun id named => ?_⟩
    obtain ⟨listed, _⟩ := List.mem_filter.mp required
    unfold idsNeeded
    cases sets : query.credentialSets with
    | none => simp [sets] at listed
    | some list =>
      rw [sets, Option.getD_some] at listed
      rw [List.mem_eraseDups, List.mem_flatMap]
      exact ⟨set, listed, by rwa [chosen, Option.getD_some]⟩

/-- The pick answers its query, and is the holder's override where that is a candidate. -/
structure Suits (W : WalletWorld) (credentials : List WalletCredential) (query : DcqlRequest)
    (overrides : Option (List (String × String))) (pick : ChosenCredential) : Prop where
  candidate : Candidate W credentials query pick.dcqlId pick.credential
  overridden : ∀ c, Candidate W credentials query pick.dcqlId c →
    overrideId overrides pick.dcqlId = some c.credentialId →
      pick.credential.credentialId = c.credentialId

/-- What is chosen for an id that has candidates. -/
theorem chooseFor_eq_ok (distinct : (query.credentials.map DcqlCredentialQuery.id).Nodup)
    (overrides : Option (List (String × String))) {id : String}
    (some : ∃ c, Candidate W credentials query id c) :
    ∃ pick, chooseFor W (matchDcqlAgainst W credentials query) overrides id = .ok pick ∧
      pick.dcqlId = id ∧ Suits W credentials query overrides pick := by
  obtain ⟨c, held, cq, asked, rfl, satisfies⟩ := some
  have entry := @entryFor_eq W credentials query distinct cq asked
  have sorted := List.mergeSort_perm (matchEntry W credentials cq).candidates fun a b =>
    W.localeCompare b.issuedAt a.issuedAt ≤ 0
  -- every member of the entry answers the query the entry was made for
  have candidate (other : WalletCredential)
      (member : other ∈ (matchEntry W credentials cq).candidates) :
      Candidate W credentials query cq.id other := by
    obtain ⟨inWallet, answers⟩ := mem_matchEntry_candidates.mp member
    exact ⟨inWallet, cq, asked, rfl, answers⟩
  cases first : (newestFirst W (matchEntry W credentials cq).candidates).head? with
  | none =>
    rw [newestFirst, List.head?_eq_none_iff] at first
    have member := mem_matchEntry_candidates.mpr ⟨held, satisfies⟩
    rw [← sorted.mem_iff, first] at member
    cases member
  | some newest =>
    have newestMember := sorted.mem_iff.mp (List.mem_of_head? first)
    cases explicit : (overrideId overrides cq.id).bind fun chosen =>
        (matchEntry W credentials cq).candidates.find? fun c => c.credentialId == chosen with
    | none =>
      refine ⟨⟨cq.id, newest, (matchEntry W credentials cq).disclosures⟩,
        by simp [chooseFor, entry, first, okOr, explicit], rfl, candidate _ newestMember, ?_⟩
      rintro other ⟨otherHeld, cq', asked', same, answers⟩ override
      obtain rfl := List.inj_on_of_nodup_map distinct asked' asked same
      rw [override, Option.bind_some, List.find?_eq_none] at explicit
      exact absurd (beq_self_eq_true other.credentialId)
        (explicit other (mem_matchEntry_candidates.mpr ⟨otherHeld, answers⟩))
    | some picked =>
      obtain ⟨chosen, override, found⟩ := Option.bind_eq_some_iff.mp explicit
      refine ⟨⟨cq.id, picked, (matchEntry W credentials cq).disclosures⟩,
        by simp [chooseFor, entry, first, okOr, explicit], rfl,
        candidate _ (List.mem_of_find?_eq_some found), ?_⟩
      intro other _ override'
      have named : picked.credentialId = chosen := by simpa using List.find?_some found
      rw [override, Option.some.injEq] at override'
      exact named.trans override'

/-- A satisfiable request is answered by distinct candidates that the server accepts, each the
holder's override where that is one; for an unsatisfiable request no ids with candidates are
accepted. -/
theorem wallet_selection_agrees (W : WalletWorld) (credentials : List WalletCredential)
    (query : DcqlRequest) (overrides : Option (List (String × String)))
    (distinct : (query.credentials.map DcqlCredentialQuery.id).Nodup) :
    ((matchDcqlAgainst W credentials query).satisfiable = true →
      ∃ chosen, chooseAcrossSets W (matchDcqlAgainst W credentials query) query overrides =
          .ok chosen ∧
        (chosen.map ChosenCredential.dcqlId).Nodup ∧
        (∀ pick ∈ chosen, Suits W credentials query overrides pick) ∧
        Verification.checkCredentialSets query (chosen.map ChosenCredential.dcqlId) = .ok ()) ∧
    ((matchDcqlAgainst W credentials query).satisfiable = false →
      ∀ ids, (∀ id ∈ ids, ∃ c, Candidate W credentials query id c) →
        Verification.checkCredentialSets query ids ≠ .ok ()) := by
  constructor
  · intro satisfiable
    obtain ⟨chosen, choice, ids, suit⟩ := exists_mapM_eq_ok fun id needed =>
      chooseFor_eq_ok distinct overrides (idsNeeded_candidates satisfiable id needed)
    refine ⟨chosen, choice, ?_, suit, ?_⟩
    · rw [ids]
      exact idsNeeded_nodup distinct _
    · rw [ids]
      exact idsNeeded_accepted satisfiable
  · intro unsatisfiable ids candidates accepted
    have inside : ids ⊆ satisfiedIds (matchDcqlAgainst W credentials query).entries :=
      fun id member => mem_satisfiedIds.mpr (candidates id member)
    -- the ids with candidates would satisfy the sets as well
    have satisfiable : (matchDcqlAgainst W credentials query).satisfiable = true :=
      checkCredentialSets_ok.mpr (accepts_mono inside accepted)
    rw [satisfiable] at unsatisfiable
    cases unsatisfiable

/-! ### A sample -/

def sampleWalletWorld : WalletWorld where
  countries := [("DE", "Germany"), ("NL", "Netherlands")]
  localeCompare a b := if a < b then -1 else if a = b then 0 else 1
  byAlpha2 code := code == "NL" || code == "DE"
  alpha3ToAlpha2 code := if code = "NLD" then some "NL" else none

def sampleCredential : WalletCredential where
  credentialId := "c1"
  sdJwtVc := some ⟨"01", none, [], some [⟨"age", none, none, none, none, none, none⟩]⟩
  issuedAt := "2026-01-01T00:00:00Z"
  verifiedClaims := []
  identified := by decide

def sampleQuery : DcqlRequest where
  credentials := [⟨"over18", "dc+sd-jwt", none, [], some (.ageGte 18)⟩,
    ⟨"kyc", "dc+sd-jwt", none, [], some (.kycGte 2)⟩]
  credentialSets := some [⟨[["kyc"], ["over18"]], none⟩, ⟨[["kyc"]], some false⟩]

/-- The optional set is left out and the required one is met by its second row. -/
theorem wallet_selection_agrees_at_sample :
    (sampleQuery.credentials.map DcqlCredentialQuery.id).Nodup ∧
    ∃ chosen, chooseAcrossSets sampleWalletWorld
        (matchDcqlAgainst sampleWalletWorld [sampleCredential] sampleQuery) sampleQuery none =
          .ok chosen ∧
      Verification.checkCredentialSets sampleQuery (chosen.map ChosenCredential.dcqlId) =
        .ok () := by
  have distinct : (sampleQuery.credentials.map DcqlCredentialQuery.id).Nodup := by decide
  have satisfiable : (matchDcqlAgainst sampleWalletWorld [sampleCredential]
      sampleQuery).satisfiable = true := by decide
  obtain ⟨chosen, choice, _, _, accepted⟩ :=
    (wallet_selection_agrees sampleWalletWorld [sampleCredential] sampleQuery none distinct).1
      satisfiable
  exact ⟨distinct, chosen, choice, accepted⟩

end

end OwlId.Sdk
