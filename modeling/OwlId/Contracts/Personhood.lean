import Mathlib
import OwlId.Contracts.PredicateSoundness

/-! # The unique-personhood contract

One person may hold many credentials, all committing the same `personhoodSecret`.
The contract records an attestation only together with a nullifier derived from
the secret and the campaign, and refuses a nullifier it has seen, so a secret is
good for one attestation a campaign whichever credential carries it.
-/

namespace OwlId.Contracts

open OwlId.Lib
open OwlId.ProofSystem

/-! ## The contract -/

structure PersonhoodLedger extends Ledger where
  nullifiers : Finset Bytes32

/-- Arguments and witnesses of `attestUniquePersonhood`. -/
structure PersonhoodCall where
  personhoodSecret : Bytes32
  claimSalt : Bytes32
  claimPath : MerkleTreePath
  owlRoot : Bytes32
  epoch : Bytes32
  appId : Bytes32

inductive PersonhoodTxCall where
  | attest (call : PersonhoodCall)
  | admin (call : AdminCall)

structure PersonhoodTransaction where
  caller : ZswapCoinPublicKey
  call : PersonhoodTxCall

section Circuit

variable (H : Hashes)

def PersonhoodCall.nullifier (call : PersonhoodCall) : Bytes32 :=
  persistentHash H
    [pad32 "owlid:nullifier:uniq:", call.personhoodSecret, call.epoch, call.appId]

def PersonhoodCall.param (call : PersonhoodCall) : Bytes32 :=
  persistentHash H [call.epoch, call.appId]

def PersonhoodCall.key (call : PersonhoodCall) : Bytes32 :=
  keyOf H (pad32 "owlid:attest:uniq:") call.owlRoot (call.param H)

def attestUniquePersonhood (ledger : PersonhoodLedger) (call : PersonhoodCall) :
    Circuit PersonhoodLedger := do
  ledger.access.assertNotPaused
  assert (call.owlRoot ≠ zero32) "zero owlRoot"
  bindClaim H "personhoodSecret" "claim commitment != personhoodSecret witness" call.owlRoot
    call.personhoodSecret call.claimSalt call.claimPath
  assert (call.nullifier H ∉ ledger.nullifiers) "personhood replay"
  let nullifiers := insert (call.nullifier H) ledger.nullifiers
  let log ← ledger.log.record (call.key H)
  return { ledger with log, nullifiers }

def PersonhoodTransaction.execute (ledger : PersonhoodLedger) (tx : PersonhoodTransaction) :
    Circuit PersonhoodLedger :=
  match tx.call with
  | .attest call => attestUniquePersonhood H ledger call
  | .admin call => do
    let access ← call.execute ledger.access tx.caller
    return { ledger with access }

def PersonhoodLedger.step (ledger : PersonhoodLedger) (tx : PersonhoodTransaction) :
    PersonhoodLedger :=
  match tx.execute H ledger with
  | .ok ledger' => ledger'
  | .error _ => ledger

def deployPersonhood (initialOwner : KeyOrAddress) : Circuit PersonhoodLedger := do
  let ledger ← deploy initialOwner
  return { ledger with nullifiers := ∅ }

/-! ## Accepted calls -/

/-- The attest call of a transaction, when its circuit returns. -/
def acceptedBy (ledger : PersonhoodLedger) (tx : PersonhoodTransaction) : List PersonhoodCall :=
  match tx.call, tx.execute H ledger with
  | .attest call, .ok _ => [call]
  | _, _ => []

/-- The accepted attest calls of a run, in order. -/
def accepted (ledger : PersonhoodLedger) : List PersonhoodTransaction → List PersonhoodCall
  | [] => []
  | tx :: rest => acceptedBy H ledger tx ++ accepted (ledger.step H tx) rest

/-- What a call is accepted for at most once. -/
def PersonhoodCall.scope (call : PersonhoodCall) : Bytes32 × Bytes32 × Bytes32 :=
  (call.personhoodSecret, call.epoch, call.appId)

theorem accepted_concat (ledger : PersonhoodLedger) (txs : List PersonhoodTransaction)
    (tx : PersonhoodTransaction) :
    accepted H ledger (txs ++ [tx]) =
      accepted H ledger txs ++ acceptedBy H (Runs.run (PersonhoodLedger.step H) ledger txs) tx := by
  induction txs generalizing ledger with
  | nil => simp [accepted]
  | cons first rest ih => simp [accepted, ih, Runs.run]

end Circuit

/-! ## One transaction -/

variable {H : Hashes}

/-- The call opens a commitment of its secret under its root. -/
structure PersonhoodCall.Bound (H : Hashes) (call : PersonhoodCall) : Prop where
  leaf : call.claimPath.leaf =
    claimCommit H "personhoodSecret" call.personhoodSecret call.claimSalt
  root : call.owlRoot = frToLeBytes32 (merkleTreePathRoot H call.claimPath)

theorem attestUniquePersonhood_returns {ledger ledger' : PersonhoodLedger} {call : PersonhoodCall}
    (returns : attestUniquePersonhood H ledger call = .ok ledger') :
    call.Bound H ∧ call.nullifier H ∉ ledger.nullifiers ∧
      ledger'.nullifiers = insert (call.nullifier H) ledger.nullifiers ∧
      ledger.log.record (call.key H) = .ok ledger'.log := by
  simp only [attestUniquePersonhood, bind_eq_ok, Access.assertNotPaused, ensure_eq_ok,
    bindClaim_eq_ok, pure_eq_ok, exists_const] at returns
  obtain ⟨_, _, ⟨leaf, root⟩, fresh, log, recorded, rfl⟩ := returns
  exact ⟨⟨leaf, root⟩, fresh, rfl, recorded⟩

/-- A transaction either changes neither set or is one accepted call. -/
theorem personhood_step_cases (ledger : PersonhoodLedger) (tx : PersonhoodTransaction) :
    (acceptedBy H ledger tx = [] ∧ (ledger.step H tx).log = ledger.log ∧
      (ledger.step H tx).nullifiers = ledger.nullifiers) ∨
    ∃ call, tx.call = .attest call ∧ acceptedBy H ledger tx = [call] ∧ call.Bound H ∧
      call.nullifier H ∉ ledger.nullifiers ∧
      (ledger.step H tx).nullifiers = insert (call.nullifier H) ledger.nullifiers ∧
      ledger.log.record (call.key H) = .ok (ledger.step H tx).log := by
  unfold PersonhoodLedger.step acceptedBy
  cases called : tx.call with
  | attest call =>
    cases outcome : tx.execute H ledger with
    | error message => exact .inl ⟨rfl, rfl, rfl⟩
    | ok ledger' =>
      simp only [PersonhoodTransaction.execute, called] at outcome
      obtain ⟨bound, fresh, nullifiers, recorded⟩ := attestUniquePersonhood_returns outcome
      exact .inr ⟨call, rfl, rfl, bound, fresh, nullifiers, recorded⟩
  | admin call =>
    cases outcome : tx.execute H ledger with
    | error message => exact .inl ⟨rfl, rfl, rfl⟩
    | ok ledger' =>
      simp only [PersonhoodTransaction.execute, called, bind_eq_ok, pure_eq_ok] at outcome
      obtain ⟨access, _, rfl⟩ := outcome
      exact .inl ⟨rfl, rfl, rfl⟩

/-! ## Whole runs -/

/-- The two sets against the calls accepted so far. -/
structure Registered (H : Hashes) (calls : List PersonhoodCall) (ledger : PersonhoodLedger) :
    Prop where
  bound : ∀ call ∈ calls, call.Bound H
  nullified : ∀ call ∈ calls, call.nullifier H ∈ ledger.nullifiers
  once : (calls.map (PersonhoodCall.nullifier H)).Nodup
  keys : ∀ key ∈ ledger.log.attestations, ∃ call ∈ calls, key = call.key H
  card : ledger.log.attestations.card ≤ ledger.nullifiers.card
  coherent : ledger.log.Coherent

theorem step_registered {calls : List PersonhoodCall} {ledger : PersonhoodLedger}
    (tx : PersonhoodTransaction) (registered : Registered H calls ledger) :
    Registered H (calls ++ acceptedBy H ledger tx) (ledger.step H tx) := by
  rcases personhood_step_cases (H := H) ledger tx with
    ⟨none, log, nullifiers⟩ | ⟨call, _, one, bound, fresh, nullifiers, recorded⟩
  · rw [none, List.append_nil]
    exact ⟨registered.bound, nullifiers ▸ registered.nullified, registered.once,
      log ▸ registered.keys, by rw [log, nullifiers]; exact registered.card,
      log ▸ registered.coherent⟩
  · rw [one]
    have keys := Attestations.record_attestations recorded
    refine ⟨?_, ?_, ?_, ?_, ?_, Attestations.record_coherent recorded registered.coherent⟩
    · intro other member
      rcases List.mem_append.mp member with old | new
      · exact registered.bound other old
      · exact List.mem_singleton.mp new ▸ bound
    · intro other member
      rw [nullifiers, Finset.mem_insert]
      rcases List.mem_append.mp member with old | new
      · exact .inr (registered.nullified other old)
      · exact .inl (by rw [List.mem_singleton.mp new])
    · have unused : call.nullifier H ∉ calls.map (PersonhoodCall.nullifier H) := by
        intro member
        obtain ⟨other, old, same⟩ := List.mem_map.mp member
        exact fresh (same ▸ registered.nullified other old)
      simpa [List.nodup_append, registered.once] using unused
    · intro key member
      rw [keys, Finset.mem_insert] at member
      rcases member with rfl | old
      · exact ⟨call, by simp, rfl⟩
      · obtain ⟨other, past, same⟩ := registered.keys key old
        exact ⟨other, by simp [past], same⟩
    · rw [keys, nullifiers, Finset.card_insert_of_notMem fresh]
      exact le_trans (Finset.card_insert_le _ _) (Nat.add_le_add_right registered.card 1)

theorem deployPersonhood_eq_ok {owner : KeyOrAddress} {ledger : PersonhoodLedger}
    (deployed : deployPersonhood owner = .ok ledger) :
    ledger.log = .empty ∧ ledger.nullifiers = ∅ := by
  simp only [deployPersonhood, bind_eq_ok, pure_eq_ok] at deployed
  obtain ⟨base, returned, rfl⟩ := deployed
  exact ⟨deploy_log returned, rfl⟩

theorem run_registered {owner : KeyOrAddress} {ledger : PersonhoodLedger}
    (deployed : deployPersonhood owner = .ok ledger) (txs : List PersonhoodTransaction) :
    Registered H (accepted H ledger txs) (Runs.run (PersonhoodLedger.step H) ledger txs) := by
  obtain ⟨log, nullifiers⟩ := deployPersonhood_eq_ok deployed
  induction txs using List.reverseRecOn with
  | nil =>
    refine ⟨by simp [accepted], by simp [accepted], by simp [accepted], ?_, ?_, ?_⟩
    · simp [log, Attestations.empty]
    · simp [log, Attestations.empty]
    · simpa [log] using Attestations.empty_coherent
  | append_singleton txs tx ih =>
    rw [accepted_concat, Runs.run_concat]
    exact step_registered tx ih

/-! ## One attestation a secret and campaign -/

section Inputs

variable (H : Hashes)

/-- What deriving the key of a campaign hashes. -/
def campaignInputs (owlRoot epoch appId : Bytes32) : List HashInput :=
  [wordsInput [pad32 tagUniquePersonhood, owlRoot, hashPair H epoch appId],
    wordsInput [epoch, appId]]

def PersonhoodCall.inputs (call : PersonhoodCall) : List HashInput :=
  campaignInputs H call.owlRoot call.epoch call.appId ++
    commitInput "personhoodSecret" call.personhoodSecret call.claimSalt ::
      pathInputs H call.claimPath

def PersonhoodTransaction.inputs (tx : PersonhoodTransaction) : List HashInput :=
  match tx.call with
  | .attest call => call.inputs H
  | .admin _ => []

def personhoodInputs (txs : List PersonhoodTransaction) : List HashInput :=
  txs.flatMap (PersonhoodTransaction.inputs H)

end Inputs

/-- Every personhood secret of the credential is the given one. -/
def CommitsOnly (secret : Bytes32) (entries : List ClaimEntry) : Prop :=
  ∀ entry ∈ entries, entry.name = "personhoodSecret" →
    ∀ value, claimValue32 entry.name entry.value = some value → value = secret

theorem inputs_of_accepted {ledger : PersonhoodLedger} {txs : List PersonhoodTransaction}
    {call : PersonhoodCall} (member : call ∈ accepted H ledger txs) :
    call.inputs H ⊆ personhoodInputs H txs := by
  induction txs generalizing ledger with
  | nil => simp [accepted] at member
  | cons tx rest ih =>
    rw [accepted, List.mem_append] at member
    rcases member with now | later
    · rcases personhood_step_cases (H := H) ledger tx with ⟨none, _⟩ | ⟨other, called, one, _⟩
      · simp [none] at now
      · rw [one, List.mem_singleton] at now
        subst now
        simp [personhoodInputs, PersonhoodTransaction.inputs, called]
    · exact List.subset_append_of_subset_right _ (ih later)

/-- A recorded campaign key of a credential was recorded for the credential's secret. -/
theorem accepted_of_recorded {calls : List PersonhoodCall} {ledger : PersonhoodLedger}
    {inputs : List HashInput} {entries : List ClaimEntry} {owlRoot secret epoch appId : Bytes32}
    (registered : Registered H calls ledger)
    (hashed : ∀ call ∈ calls, call.inputs H ⊆ inputs)
    (free : CollisionFree H
      (inputs ++ (campaignInputs H owlRoot epoch appId ++ credentialInputs H entries)))
    (root : owlRootForClaims H entries = some owlRoot) (secrets : CommitsOnly secret entries)
    (recorded : uniquePersonhoodKey H owlRoot epoch appId ∈ ledger.log.attestations) :
    ∃ call ∈ calls, call.owlRoot = owlRoot ∧ call.scope = (secret, epoch, appId) := by
  obtain ⟨call, member, keyEq⟩ := registered.keys _ recorded
  have mine : ∀ input ∈ call.inputs H, input ∈ inputs ++
      (campaignInputs H owlRoot epoch appId ++ credentialInputs H entries) :=
    fun input h => List.mem_append_left _ (hashed call member h)
  have words := free.words
    [pad32 tagUniquePersonhood, owlRoot, hashPair H epoch appId]
    [pad32 tagUniquePersonhood, call.owlRoot, hashPair H call.epoch call.appId]
    (by simp [campaignInputs]) (mine _ (by simp [PersonhoodCall.inputs, campaignInputs])) keyEq
  simp only [List.cons.injEq, and_true, true_and] at words
  have scope := free.words _ _ (by simp [campaignInputs])
    (mine _ (by simp [PersonhoodCall.inputs, campaignInputs])) words.2
  simp only [List.cons.injEq, and_true] at scope
  obtain ⟨leaf, callRoot⟩ := registered.bound call member
  have opened := entry_of_path (by decide)
    (free.mono (append_subset_append
      (List.Subset.trans (List.subset_append_right _ _) (hashed call member))
      (List.subset_append_right _ _)))
    leaf (callRoot ▸ words.1 ▸ root)
  obtain ⟨entry, issued, name, bears, _⟩ := opened
  have secretEq := secrets entry issued name _ bears
  exact ⟨call, member, words.1.symm, by
    rw [PersonhoodCall.scope, secretEq, ← scope.1, ← scope.2]⟩

/-- Sybil resistance over every run from deployment. -/
theorem personhood_sybil_resistant (H : Hashes) {owner : KeyOrAddress}
    {ledger₀ : PersonhoodLedger} (deployed : deployPersonhood owner = .ok ledger₀)
    (txs : List PersonhoodTransaction) :
    let ledger := Runs.run (PersonhoodLedger.step H) ledger₀ txs
    -- A secret, epoch and application are accepted together at most once.
    ((accepted H ledger₀ txs).map PersonhoodCall.scope).Nodup ∧
    -- Of all credentials of one secret, at most one is attested in a campaign.
    (∀ secret epoch appId entries₁ owlRoot₁ entries₂ owlRoot₂,
      owlRootForClaims H entries₁ = some owlRoot₁ → CommitsOnly secret entries₁ →
      owlRootForClaims H entries₂ = some owlRoot₂ → CommitsOnly secret entries₂ →
      CollisionFree H (personhoodInputs H txs ++
        (campaignInputs H owlRoot₁ epoch appId ++ credentialInputs H entries₁)) →
      CollisionFree H (personhoodInputs H txs ++
        (campaignInputs H owlRoot₂ epoch appId ++ credentialInputs H entries₂)) →
      uniquePersonhoodKey H owlRoot₁ epoch appId ∈ ledger.log.attestations →
      uniquePersonhoodKey H owlRoot₂ epoch appId ∈ ledger.log.attestations →
      owlRoot₁ = owlRoot₂) ∧
    ledger.log.attestations.card ≤ ledger.nullifiers.card ∧
    ledger.log.attestCount = ledger.log.attestations.card := by
  intro ledger
  have registered : Registered H (accepted H ledger₀ txs) ledger := run_registered deployed txs
  have once : ((accepted H ledger₀ txs).map PersonhoodCall.scope).Nodup := by
    -- The nullifier is a function of the scope, and nullifiers do not repeat.
    refine List.Nodup.of_map (fun scope => persistentHash H
      [pad32 "owlid:nullifier:uniq:", scope.1, scope.2.1, scope.2.2]) ?_
    rw [List.map_map]
    exact registered.once
  refine ⟨once, ?_, registered.card, registered.coherent.count⟩
  intro secret epoch appId entries₁ owlRoot₁ entries₂ owlRoot₂ root₁ only₁ root₂ only₂ free₁ free₂
    recorded₁ recorded₂
  have hashed : ∀ call ∈ accepted H ledger₀ txs, call.inputs H ⊆ personhoodInputs H txs :=
    fun call member => inputs_of_accepted member
  obtain ⟨call₁, member₁, rfl, scope₁⟩ :=
    accepted_of_recorded registered hashed free₁ root₁ only₁ recorded₁
  obtain ⟨call₂, member₂, rfl, scope₂⟩ :=
    accepted_of_recorded registered hashed free₂ root₂ only₂ recorded₂
  rw [List.inj_on_of_nodup_map once member₁ member₂ (scope₁.trans scope₂.symm)]

/-! ### One person, two credentials -/

def sampleSecret : String := String.ofList (List.replicate 64 '5')

def personEntries (salt : String) : List ClaimEntry :=
  [⟨"personhoodSecret", salt, .string sampleSecret⟩]

def personLeaf (salt : String) : Bytes32 :=
  claimCommit sampleHashes "personhoodSecret" (Vector.replicate 32 0x55)
    (salt32For sampleHashes salt)

def personRoot (salt : String) : Bytes32 :=
  frToLeBytes32 (merkleTreePathRoot sampleHashes (lonePath sampleHashes (personLeaf salt)))

def personTransaction (salt : String) : PersonhoodTransaction where
  caller := pad32 "holder"
  call := .attest
    { personhoodSecret := Vector.replicate 32 0x55
      claimSalt := salt32For sampleHashes salt
      claimPath := lonePath sampleHashes (personLeaf salt)
      owlRoot := personRoot salt
      epoch := pad32 "2025"
      appId := pad32 "vote" }

def personLedger : PersonhoodLedger :=
  ⟨⟨⟨.inl (pad32 "owner"), true, false⟩, .empty⟩, ∅⟩

def personRun : List PersonhoodTransaction :=
  [personTransaction "salt one", personTransaction "salt two"]

theorem person_bears : claimValue32 "personhoodSecret" (.string sampleSecret) =
    some (Vector.replicate 32 0x55) := by
  decide

theorem personRoot_issued (salt : String) :
    owlRootForClaims sampleHashes (personEntries salt) = some (personRoot salt) :=
  owlRootForClaims_singleton person_bears

theorem person_commitsOnly (salt : String) :
    CommitsOnly (Vector.replicate 32 0x55) (personEntries salt) := by
  intro entry member _ value bears
  obtain rfl := List.mem_singleton.mp member
  exact Option.some.inj (bears.symm.trans person_bears)

/-- What concerns one of the two credentials. -/
def personSaltInputs (salt : String) : List HashInput :=
  campaignInputs sampleHashes (personRoot salt) (pad32 "2025") (pad32 "vote") ++
    (commitInput "personhoodSecret" (Vector.replicate 32 0x55) (salt32For sampleHashes salt) ::
      sparseInputs sampleHashes [personLeaf salt])

theorem person_collisionFree : ∀ salt ∈ ["salt one", "salt two"],
    CollisionFree sampleHashes (personhoodInputs sampleHashes personRun ++
      (campaignInputs sampleHashes (personRoot salt) (pad32 "2025") (pad32 "vote") ++
        credentialInputs sampleHashes (personEntries salt))) := by
  have free : CollisionFree sampleHashes (personhoodInputs sampleHashes personRun ++
      ["salt one", "salt two"].flatMap personSaltInputs) :=
    sampleHashes_collisionFree (by decide +kernel)
  intro salt member
  refine free.mono (append_subset_append (List.Subset.refl _) ?_)
  have here : personSaltInputs salt ⊆ ["salt one", "salt two"].flatMap personSaltInputs :=
    fun input inside => List.mem_flatMap.mpr ⟨salt, member, inside⟩
  exact List.Subset.trans (append_subset_append (List.Subset.refl _)
    (credentialInputs_singleton person_bears)) here

def personAfter : PersonhoodLedger :=
  Runs.run (PersonhoodLedger.step sampleHashes) personLedger personRun

theorem person_deployed : deployPersonhood (.inl (pad32 "owner")) = .ok personLedger := by
  simp only [deployPersonhood, bind_eq_ok, pure_eq_ok]
  exact ⟨_, sample_deployed, rfl⟩

theorem person_recorded :
    uniquePersonhoodKey sampleHashes (personRoot "salt one") (pad32 "2025") (pad32 "vote") ∈
      personAfter.log.attestations := by
  decide +kernel

theorem personRoot_ne : personRoot "salt one" ≠ personRoot "salt two" := by
  decide +kernel

/-- The second credential of the same person is refused. -/
theorem personhood_sybil_resistant_at_sample :
    uniquePersonhoodKey sampleHashes (personRoot "salt one") (pad32 "2025") (pad32 "vote") ∈
        personAfter.log.attestations ∧
      uniquePersonhoodKey sampleHashes (personRoot "salt two") (pad32 "2025") (pad32 "vote") ∉
        personAfter.log.attestations := by
  obtain ⟨_, unique, _⟩ := personhood_sybil_resistant sampleHashes person_deployed personRun
  refine ⟨person_recorded, fun second => personRoot_ne ?_⟩
  exact unique (Vector.replicate 32 0x55) (pad32 "2025") (pad32 "vote") _ _ _ _
    (personRoot_issued _) (person_commitsOnly _)
    (personRoot_issued _) (person_commitsOnly _)
    (person_collisionFree _ (by simp)) (person_collisionFree _ (by simp))
    person_recorded second

end OwlId.Contracts
