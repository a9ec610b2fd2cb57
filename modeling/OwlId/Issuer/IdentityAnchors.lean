import Mathlib
import OwlId.Lib.JsText
import OwlId.Lib.Runs
import OwlId.Contracts.IdentityRegistry
import OwlId.ProofSystem.SdJwtSoundness
import OwlId.ProofSystem.SdJwtRoundTrip
import OwlId.Issuer.Issuance

/-! # Anchors of a batch

Every credential of a batch gets a task that registers it in the identity registry.  The tasks
share one DID hash, the hash of the owner's key, and the registry takes one active commitment
for a DID: of the tasks that arrive, the first one writes and the others are refused.
-/

namespace OwlId.Issuer

open OwlId.Lib OwlId.Contracts OwlId.ProofSystem
open OwlId.Contracts.Identities (IdentityCall Changed)

structure IdentityAnchorArgs where
  didHash : String
  commitment : String
  issuerKeyHash : String

/-- What the tasks of a batch share: the owner, and the key the credentials were signed with. -/
structure MintedBatch where
  ownerPublicKey : String
  issuerPrivateKey : String
  issuerKeypair : KeyPair
  loaded : (hexDecode issuerPrivateKey).bind KeyPair.fromBytes = some issuerKeypair

section

variable (P : Primitives) (H : Hashes)

def credentialIdentityAnchorArgs (ownerPublicKey credentialId issuerPrivateKeyHex : String) :
    Option IdentityAnchorArgs := do
  let keyBytes ← hexDecode issuerPrivateKeyHex
  let keypair ← KeyPair.fromBytes keyBytes
  let issuerKeyHash := hexEncode (H.sha256 (asBytes (keypair.publicKey P).toHex)).toList
  some {
    didHash := hexEncode (H.sha256 (asBytes ownerPublicKey)).toList
    commitment := credentialId
    issuerKeyHash }

/-- What the task spawned for a credential sends; a bad id or key only ends the task. -/
def anchorTask (batch : MintedBatch) (vc : String) : Option IdentityAnchorArgs := do
  let credId ← (credentialIdHex P (credentialId H vc)).toOption
  credentialIdentityAnchorArgs P H batch.ownerPublicKey credId batch.issuerPrivateKey

/-- The sidecar's route: the call it makes, whose arguments are 32-byte words. -/
def registerIdentityCall (args : IdentityAnchorArgs) : Option IdentityCall := do
  let didHash ← tryInto32 (hexToBytes args.didHash)
  let commitment ← tryInto32 (hexToBytes args.commitment)
  let issuerKeyHash ← tryInto32 (hexToBytes args.issuerKeyHash)
  some (.registerIdentity didHash commitment issuerKeyHash)

/-- The sidecar that submits the calls. -/
structure SidecarKeys where
  caller : ZswapCoinPublicKey
  ownerSecretKey : Bytes32

/-- A task reaches the registry.  That its call failed is only logged. -/
def arrive (sidecar : SidecarKeys) (batch : MintedBatch) (registry : Identities) (vc : String) :
    Identities :=
  match (anchorTask P H batch vc).bind registerIdentityCall with
  | some call => registry.step H ⟨sidecar.caller, sidecar.ownerSecretKey, call⟩
  | none => registry

/-- The registry after the tasks of these credentials have arrived, in this order. -/
def arrived (sidecar : SidecarKeys) (batch : MintedBatch) (registry : Identities)
    (arrivals : List String) : Identities :=
  Runs.run (arrive P H sidecar batch) registry arrivals

/-- A credential is only minted with a key that the tasks can load. -/
theorem minted_loads {P : Primitives} {H : Hashes} {run : IssuanceRun}
    {issuerPrivateKey ownerPublicKey issuerPublicUrl vc : String}
    {keyAlgorithm : SignatureAlgorithm} {attributes : ClaimMap} {personhood : Bool}
    (minted : issueCredentialDirect P H run issuerPrivateKey ownerPublicKey keyAlgorithm attributes
      issuerPublicUrl personhood = .ok vc) :
    ∃ batch : MintedBatch, batch.issuerPrivateKey = issuerPrivateKey ∧
      batch.ownerPublicKey = ownerPublicKey := by
  simp only [issueCredentialDirect, bind_eq_ok, okOr_eq_ok] at minted
  obtain ⟨bytes, decoded, keypair, loaded, _⟩ := minted
  have both : (hexDecode issuerPrivateKey).bind KeyPair.fromBytes = some keypair := by
    rw [decoded, Option.bind_some, loaded]
  exact ⟨⟨ownerPublicKey, issuerPrivateKey, keypair, both⟩, rfl, rfl⟩

/-! ## What a task registers -/

/-- The credential id as the registries know it. -/
def commitmentOf (vc : String) : Bytes32 := H.sha256 (asBytes (issuerJwt vc))

def MintedBatch.didHash (batch : MintedBatch) : Bytes32 := H.sha256 (asBytes batch.ownerPublicKey)

def MintedBatch.issuerKeyHash (batch : MintedBatch) : Bytes32 :=
  H.sha256 (asBytes (batch.issuerKeypair.publicKey P).toHex)

/-- Both hashes that all tasks of the batch share pass the contract's checks. -/
def MintedBatch.Usable (batch : MintedBatch) : Prop :=
  batch.didHash H ≠ zero32 ∧ batch.issuerKeyHash P H ≠ zero32

instance (batch : MintedBatch) : Decidable (batch.Usable P H) := inferInstanceAs (Decidable (_ ∧ _))

/-- The commitment of the first task to arrive that has one. -/
def firstCommitment (arrivals : List String) : Option Bytes32 :=
  (arrivals.map (commitmentOf H)).find? fun commitment => commitment ≠ zero32

variable {P H}

theorem tryInto32_hex (digest : Bytes32) :
    tryInto32 (hexToBytes (hexEncode digest.toList)) = some digest := by
  rw [hexToBytes_of_decode (hexDecode_hexEncode digest.toList), tryInto32, dif_pos (by simp)]
  rfl

theorem anchorTask_call (batch : MintedBatch) (vc : String) :
    (anchorTask P H batch vc).bind registerIdentityCall =
      some (.registerIdentity (batch.didHash H) (commitmentOf H vc) (batch.issuerKeyHash P H)) := by
  obtain ⟨bytes, decoded, keypair⟩ := Option.bind_eq_some_iff.mp batch.loaded
  have args : anchorTask P H batch vc = some {
      didHash := hexEncode (batch.didHash H).toList
      commitment := hexEncode (commitmentOf H vc).toList
      issuerKeyHash := hexEncode (batch.issuerKeyHash P H).toList } := by
    rw [anchorTask, credentialIdHex_credentialId]
    simp only [Except.toOption, Option.bind_eq_bind, Option.bind_some, credentialIdentityAnchorArgs,
      decoded, keypair]
    rfl
  rw [args, Option.bind_some, registerIdentityCall]
  simp only [tryInto32_hex, Option.bind_eq_bind, Option.bind_some]

/-! ## What the registry makes of it -/

variable {sidecar : SidecarKeys} {batch : MintedBatch}

theorem arrive_eq (registry : Identities) (vc : String) :
    arrive P H sidecar batch registry vc = registry.step H ⟨sidecar.caller, sidecar.ownerSecretKey,
      .registerIdentity (batch.didHash H) (commitmentOf H vc) (batch.issuerKeyHash P H)⟩ := by
  rw [arrive, anchorTask_call]

/-- While the DID has an active commitment every task is refused. -/
theorem arrive_refused {registry : Identities} (vc : String)
    (active : registry.commitmentStatuses.get? (batch.didHash H) = some .active) :
    arrive P H sidecar batch registry vc = registry := by
  rw [arrive_eq]
  rcases Identities.step_cases H registry ⟨sidecar.caller, sidecar.ownerSecretKey,
      .registerIdentity (batch.didHash H) (commitmentOf H vc) (batch.issuerKeyHash P H)⟩ with
    unchanged | ⟨_, changed⟩
  · exact unchanged
  · generalize Identities.step H registry _ = after at changed ⊢
    cases changed with
    | registerIdentity _ idle => exact absurd active idle

/-- A DID that is not known is registered when no argument is zero. -/
theorem registerIdentity_fresh {registry after : Identities}
    {sk didHash commitment issuerKeyHash : Bytes32} (running : registry.access.isPaused = false)
    (fresh : registry.commitmentStatuses.get? didHash = none) :
    registry.registerIdentity H sk didHash commitment issuerKeyHash = .ok after ↔
      (didHash ≠ zero32 ∧ commitment ≠ zero32 ∧ issuerKeyHash ≠ zero32) ∧
        registry.registered didHash commitment issuerKeyHash (deriveOwnerHash H sk) = after := by
  have unknown : registry.commitmentStatuses.member didHash = false := by
    rw [LedgerMap.member, fresh, Option.isSome_none]
  simp only [Identities.registerIdentity, Access.assertNotPaused, bind_eq_ok, ensure_eq_ok, unknown,
    Bool.false_eq_true, if_false, pure_eq_ok, running, exists_const, true_and, and_assoc,
    Identities.addCommitment_eq]
  rfl

/-- The first task of a DID is taken when nothing that it sends is zero. -/
theorem arrive_first {registry : Identities} (vc : String)
    (running : registry.access.isPaused = false)
    (fresh : registry.commitmentStatuses.get? (batch.didHash H) = none) :
    arrive P H sidecar batch registry vc =
      if batch.Usable P H ∧ commitmentOf H vc ≠ zero32 then
        registry.registered (batch.didHash H) (commitmentOf H vc) (batch.issuerKeyHash P H)
          (deriveOwnerHash H sidecar.ownerSecretKey)
      else registry := by
  rw [arrive_eq, Identities.step, Identities.execute]
  split
  · next after returns =>
    obtain ⟨⟨did, commitment, issuer⟩, rfl⟩ := (registerIdentity_fresh running fresh).mp returns
    rw [if_pos ⟨⟨did, issuer⟩, commitment⟩]
  · next message failed =>
    rw [if_neg]
    rintro ⟨⟨did, issuer⟩, commitment⟩
    have returns : registry.registerIdentity H sidecar.ownerSecretKey (batch.didHash H)
        (commitmentOf H vc) (batch.issuerKeyHash P H) = .ok _ :=
      (registerIdentity_fresh running fresh).mpr ⟨⟨did, commitment, issuer⟩, rfl⟩
    cases returns.symm.trans failed

/-- The commitment that the tasks leave behind, if any: the first one of a batch whose shared hashes
    can be used. -/
def MintedBatch.taken (P : Primitives) (H : Hashes) (batch : MintedBatch) (arrivals : List String) :
    Option Bytes32 :=
  if batch.Usable P H then firstCommitment H arrivals else none

theorem taken_concat (arrivals : List String) (vc : String) :
    batch.taken P H (arrivals ++ [vc]) = (batch.taken P H arrivals).or
      (if batch.Usable P H ∧ commitmentOf H vc ≠ zero32 then some (commitmentOf H vc)
        else none) := by
  by_cases usable : batch.Usable P H
  · by_cases zero : commitmentOf H vc = zero32
    · simp [MintedBatch.taken, usable, firstCommitment, zero]
    · simp [MintedBatch.taken, usable, firstCommitment, zero]
  · simp [MintedBatch.taken, usable]

/-- What the registry holds after some arrivals, of which one may have been taken. -/
inductive Holds (H : Hashes) (before : Identities) (batch : MintedBatch) :
    Option Bytes32 → Identities → Prop where
  | untouched : Holds H before batch none before
  | taken {commitment : Bytes32} {after : Identities}
      (active : after.commitmentStatuses.get? (batch.didHash H) = some .active)
      (registered : after.registeredCommitments =
        insert commitment before.registeredCommitments) :
      Holds H before batch (some commitment) after

theorem arrived_holds (registry : Identities) (arrivals : List String)
    (running : registry.access.isPaused = false)
    (fresh : registry.commitmentStatuses.get? (batch.didHash H) = none) :
    Holds H registry batch (batch.taken P H arrivals)
      (arrived P H sidecar batch registry arrivals) := by
  refine Runs.run_history (fun history after => Holds H registry batch (batch.taken P H history) after)
    ?_ ?_ arrivals
  · have start : batch.taken P H [] = none := by simp [MintedBatch.taken, firstCommitment]
    rw [start]
    exact .untouched
  · intro history after vc holds
    rw [taken_concat]
    generalize batch.taken P H history = before at holds ⊢
    cases holds with
    | untouched =>
      rw [Option.none_or, arrive_first vc running fresh]
      split
      · exact .taken (by simp [Identities.registered]) rfl
      · exact .untouched
    | taken active registered =>
      rw [Option.some_or, arrive_refused vc active]
      exact .taken active registered

/-- The ids that are registered afterwards are those that were and the one that was taken. -/
theorem registered_arrived (registry : Identities) (arrivals : List String) (id : Bytes32)
    (running : registry.access.isPaused = false)
    (fresh : registry.commitmentStatuses.get? (batch.didHash H) = none) :
    (arrived P H sidecar batch registry arrivals).isCommitmentRegistered id = true ↔
      registry.isCommitmentRegistered id = true ∨ batch.taken P H arrivals = some id := by
  have holds : Holds H registry batch _ (arrived P H sidecar batch registry arrivals) :=
    arrived_holds registry arrivals running fresh
  generalize batch.taken P H arrivals = chosen at holds ⊢
  generalize arrived P H sidecar batch registry arrivals = after at holds ⊢
  simp only [Identities.isCommitmentRegistered, decide_eq_true_eq]
  cases holds with
  | untouched => simp
  | taken _ registered => rw [registered, Finset.mem_insert, Option.some.injEq, or_comm, @eq_comm _ id]

/-! ## Main result -/

/-- After the tasks of a batch for a DID that was not registered have arrived, in whatever order,
    every credential id is registered exactly when each of them was registered before or is the one
    that arrived first. -/
theorem batch_anchored_iff (P : Primitives) (H : Hashes) (sidecar : SidecarKeys)
    (batch : MintedBatch) (registry : Identities) (arrivals : List String)
    (running : registry.access.isPaused = false)
    (fresh : registry.commitmentStatuses.get? (batch.didHash H) = none) :
    (∀ vc ∈ arrivals, (arrived P H sidecar batch registry arrivals).isCommitmentRegistered
        (commitmentOf H vc) = true) ↔
      ∀ vc ∈ arrivals, registry.isCommitmentRegistered (commitmentOf H vc) = true ∨
        (batch.Usable P H ∧ firstCommitment H arrivals = some (commitmentOf H vc)) := by
  simp only [registered_arrived registry arrivals _ running fresh, MintedBatch.taken,
    Option.ite_none_right_eq_some]

/-- Of a batch with different ids, none of which was registered, all are anchored only when there is
    one. -/
theorem fresh_batch_anchored (sidecar : SidecarKeys) {registry : Identities}
    {arrivals : List String} (running : registry.access.isPaused = false)
    (fresh : registry.commitmentStatuses.get? (batch.didHash H) = none)
    (distinct : (arrivals.map (commitmentOf H)).Nodup)
    (unknown : ∀ vc ∈ arrivals, registry.isCommitmentRegistered (commitmentOf H vc) = false)
    (anchored : ∀ vc ∈ arrivals,
      (arrived P H sidecar batch registry arrivals).isCommitmentRegistered (commitmentOf H vc)) :
    arrivals.length ≤ 1 := by
  have first : ∀ id ∈ arrivals.map (commitmentOf H), firstCommitment H arrivals = some id := by
    intro id member
    obtain ⟨vc, minted, rfl⟩ := List.mem_map.mp member
    rcases (registered_arrived registry arrivals _ running fresh).mp (anchored vc minted) with
      before | taken
    · exact absurd before (by simp [unknown vc minted])
    · exact (Option.ite_none_right_eq_some.mp taken).2
  rw [← List.length_map (commitmentOf H)]
  rcases ids : arrivals.map (commitmentOf H) with - | ⟨id, - | ⟨other, rest⟩⟩
  · exact Nat.zero_le 1
  · exact Nat.le_refl 1
  · rw [ids] at distinct first
    have same := (first id (by simp)).symm.trans (first other (by simp))
    exact absurd (Option.some.inj same) (by simp_all)

/-- And where no hash is zero, the only one is anchored. -/
theorem fresh_batch_anchored_iff (sidecar : SidecarKeys) {registry : Identities}
    {arrivals : List String} (running : registry.access.isPaused = false)
    (fresh : registry.commitmentStatuses.get? (batch.didHash H) = none)
    (distinct : (arrivals.map (commitmentOf H)).Nodup)
    (unknown : ∀ vc ∈ arrivals, registry.isCommitmentRegistered (commitmentOf H vc) = false)
    (usable : batch.Usable P H) (nonzero : ∀ vc ∈ arrivals, commitmentOf H vc ≠ zero32) :
    (∀ vc ∈ arrivals, (arrived P H sidecar batch registry arrivals).isCommitmentRegistered
      (commitmentOf H vc) = true) ↔ arrivals.length ≤ 1 := by
  refine ⟨fresh_batch_anchored sidecar running fresh distinct unknown, fun one vc member => ?_⟩
  obtain ⟨only, rfl⟩ : ∃ only, arrivals = [only] := by
    have some : arrivals.length ≠ 0 := by
      rintro empty
      rw [List.length_eq_zero_iff.mp empty] at member
      cases member
    exact List.length_eq_one_iff.mp (by omega)
  obtain rfl := List.mem_singleton.mp member
  have taken : batch.taken P H [vc] = some (commitmentOf H vc) := by
    rw [MintedBatch.taken, if_pos usable]
    simp [firstCommitment, nonzero vc member]
  exact (registered_arrived registry [vc] _ running fresh).mpr (.inr taken)

/-! ## A batch of two -/

def sampleBatch : MintedBatch where
  ownerPublicKey := hexEncode (List.replicate 32 7)
  issuerPrivateKey := hexEncode (List.replicate 32 5)
  issuerKeypair := ⟨.ed25519, List.replicate 32 5⟩
  loaded := by
    rw [hexDecode_hexEncode, Option.bind_some]
    rfl

def sampleSidecar : SidecarKeys := ⟨padBytes [2], padBytes [3]⟩

/-- Two credentials that differ in their status index. -/
def firstOfBatch : String := "eyJhbGciOiJFZERTQSJ9.eyJpZHgiOjF9.AA~"

def secondOfBatch : String := "eyJhbGciOiJFZERTQSJ9.eyJpZHgiOjJ9.AQ~"

theorem commitments_differ :
    commitmentOf sampleHashes firstOfBatch ≠ commitmentOf sampleHashes secondOfBatch := by
  intro same
  exact absurd (sampleDigest_eq same) (by decide)

theorem sampleBatch_usable (P : Primitives) : sampleBatch.Usable P sampleHashes :=
  ⟨sampleHashes_ne_zero _, sampleHashes_ne_zero _⟩

theorem firstCommitment_sample (rest : List String) :
    firstCommitment sampleHashes (firstOfBatch :: rest) =
      some (commitmentOf sampleHashes firstOfBatch) := by
  have nonzero : commitmentOf sampleHashes firstOfBatch ≠ zero32 := sampleHashes_ne_zero _
  simp [firstCommitment, nonzero]

theorem batch_anchored_iff_at_sample :
    (arrived (samplePrimitives []) sampleHashes sampleSidecar sampleBatch
      Identities.sampleIdentities [firstOfBatch]).isCommitmentRegistered
        (commitmentOf sampleHashes firstOfBatch) = true := by
  refine (batch_anchored_iff _ sampleHashes sampleSidecar sampleBatch Identities.sampleIdentities
    [firstOfBatch] rfl rfl).mpr ?_ firstOfBatch (List.mem_singleton_self _)
  intro vc member
  obtain rfl := List.mem_singleton.mp member
  exact .inr ⟨sampleBatch_usable _, firstCommitment_sample []⟩

/-- The second of two credentials is never anchored. -/
theorem second_not_anchored :
    Identities.sampleIdentities.access.isPaused = false ∧
      Identities.sampleIdentities.commitmentStatuses.get? (sampleBatch.didHash sampleHashes) = none ∧
      ¬ ∀ vc ∈ [firstOfBatch, secondOfBatch],
        (arrived (samplePrimitives []) sampleHashes sampleSidecar sampleBatch
          Identities.sampleIdentities [firstOfBatch, secondOfBatch]).isCommitmentRegistered
            (commitmentOf sampleHashes vc) = true := by
  refine ⟨rfl, rfl, fun anchored => ?_⟩
  have registered := (registered_arrived Identities.sampleIdentities _ _ rfl rfl).mp
    (anchored secondOfBatch (by simp))
  rw [MintedBatch.taken, if_pos (sampleBatch_usable _), firstCommitment_sample] at registered
  rcases registered with before | taken
  · exact absurd before (by simp [Identities.isCommitmentRegistered, Identities.sampleIdentities])
  · exact commitments_differ (Option.some.inj taken)

end

end OwlId.Issuer
