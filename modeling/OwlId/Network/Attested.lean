import Mathlib
import OwlId.Sdk.LandedKeys
import OwlId.Sidecar.DiffApply
import OwlId.Verification.DcqlSoundness

/-! # From the contracts to the verifier's mirror

The contracts take transactions from anybody.  The sidecar keeps a copy of each contract's set of
attested keys, which may lag behind, and announces what is new to the verification service, which
keeps a mirror of its own and asks the sidecar about keys that the mirror does not have.  Whatever
the order in which these parties act, the mirror and the sidecar's answers name recorded keys only.
-/

namespace OwlId.Network

open OwlId.Lib OwlId.ProofSystem OwlId.Contracts OwlId.Sidecar OwlId.Verification
open OwlId.Sdk (PredicateKind contractKind)

/-! ## The contracts -/

/-- The predicate contracts, each with the transactions since its deployment. -/
structure Chain where
  genesis : Kind → Ledger
  deployed : ∀ kind, ∃ owner, deploy owner = .ok (genesis kind)
  transactions : (kind : Kind) → List (Transaction kind)
  personhoodGenesis : PersonhoodLedger
  personhoodDeployed : ∃ owner, deployPersonhood owner = .ok personhoodGenesis
  personhoodTransactions : List PersonhoodTransaction

namespace Chain

def submit (chain : Chain) {kind : Kind} (tx : Transaction kind) : Chain :=
  { chain with
    transactions := Function.update chain.transactions kind (chain.transactions kind ++ [tx]) }

def submitPersonhood (chain : Chain) (tx : PersonhoodTransaction) : Chain :=
  { chain with personhoodTransactions := chain.personhoodTransactions ++ [tx] }

section

variable (H : Hashes) (chain : Chain)

def ledger (kind : Kind) : Ledger :=
  Runs.run (Ledger.step H) (chain.genesis kind) (chain.transactions kind)

def personhood : PersonhoodLedger :=
  Runs.run (PersonhoodLedger.step H) chain.personhoodGenesis chain.personhoodTransactions

/-- The contract that the service's paths call so has recorded the key. -/
def Records (path : String) (key : Bytes32) : Prop :=
  (∃ kind, (contractKind kind).path = path ∧ key ∈ (chain.ledger H kind).log.attestations) ∨
    PredicateKind.personhood.path = path ∧ key ∈ (chain.personhood H).log.attestations

/-- The hex text of a recorded key. -/
def RecordsHex (hex : String) : Prop := ∃ path key, chain.Records H path key ∧ hex = bytesHex key

end

/-- The second chain has recorded all that the first has. -/
def Extended (H : Hashes) (chain chain' : Chain) : Prop :=
  ∀ path key, chain.Records H path key → chain'.Records H path key

variable {H : Hashes} {chain : Chain}

theorem submit_self {kind : Kind} (tx : Transaction kind) :
    (chain.submit tx).transactions kind = chain.transactions kind ++ [tx] :=
  Function.update_self ..

theorem submit_other {kind other : Kind} (different : other ≠ kind) (tx : Transaction kind) :
    (chain.submit tx).transactions other = chain.transactions other :=
  Function.update_of_ne different ..

theorem ledger_submit {kind : Kind} (tx : Transaction kind) (other : Kind) (key : Bytes32)
    (recorded : key ∈ (chain.ledger H other).log.attestations) :
    key ∈ ((chain.submit tx).ledger H other).log.attestations := by
  by_cases same : other = kind
  · subst same
    rw [ledger, submit_self, Runs.run_append]
    exact Sdk.run_keeps recorded [tx]
  · rw [ledger, submit_other same]
    exact recorded

theorem extended_submit {kind : Kind} (tx : Transaction kind) :
    chain.Extended H (chain.submit tx) := by
  intro path key recorded
  cases recorded with
  | inl predicate =>
    obtain ⟨other, here, recorded⟩ := predicate
    exact .inl ⟨other, here, ledger_submit tx other key recorded⟩
  | inr personhood => exact .inr personhood

theorem extended_submitPersonhood (tx : PersonhoodTransaction) :
    chain.Extended H (chain.submitPersonhood tx) := by
  intro path key recorded
  cases recorded with
  | inl predicate => exact .inl predicate
  | inr personhood =>
    obtain ⟨here, recorded⟩ := personhood
    refine .inr ⟨here, ?_⟩
    rw [Chain.personhood, submitPersonhood, Runs.run_append]
    exact Sdk.personhood_run_keeps recorded [tx]

theorem Extended.refl : chain.Extended H chain := fun _ _ recorded => recorded

theorem Extended.trans {chain' chain'' : Chain} (first : chain.Extended H chain')
    (second : chain'.Extended H chain'') : chain.Extended H chain'' :=
  fun path key recorded => second path key (first path key recorded)

theorem Extended.hex {chain' : Chain} {hex : String} (grown : chain.Extended H chain')
    (recorded : chain.RecordsHex H hex) : chain'.RecordsHex H hex := by
  obtain ⟨path, key, held, same⟩ := recorded
  exact ⟨path, key, grown path key held, same⟩

end Chain

/-! ## The parties -/

structure Net where
  chain : Chain
  /-- The sidecar's copy of each contract's set, by path. -/
  copies : String → List Bytes32
  /-- What the sidecar has written to the service's event stream. -/
  inFlight : List SidecarEvent
  issuers : IssuerTable
  service : Service

def paths : List String :=
  [PredicateKind.age, .kyc, .residency, .email, .nationality, .ageRange, .personhood].map
    PredicateKind.path

/-- The attestation topic of a new stream. -/
def attestationSnapshot (copies : String → List Bytes32) : List SidecarEvent :=
  paths.flatMap fun path => snapshotAttestations (copies path)

def withAttestations (service : Service) (attestations : Finset String) : Service :=
  { service with mirrors := { service.mirrors with attestations } }

/-- `handle` on the tables of the service. -/
def Net.handleEvent (net : Net) (event : SidecarEvent) : Net :=
  let replica := handle
    ⟨net.service.mirrors.revocations, net.issuers, net.service.mirrors.attestations⟩ event
  { net with
    issuers := replica.issuers
    service := { net.service with mirrors := ⟨replica.revocations, replica.attestations⟩ } }

/-- What a request reads from outside is what the network says. -/
structure Reads (H : Hashes) (W : World) (net : Net) : Prop where
  hashes : W.hashes = H
  clock : ∃ clock : ClockReading, clock.month = utcMonth W.now
  /-- The sidecar answers from its copy. -/
  attested : ∀ path key, W.isAttestedOnChain path (bytesHex key) = .ok true →
    key ∈ net.copies path

/-- One step of one party. -/
inductive Step (H : Hashes) (net : Net) : Net → Prop where
  | transact {kind : Kind} (tx : Transaction kind) :
    Step H net { net with chain := net.chain.submit tx }
  | transactPersonhood (tx : PersonhoodTransaction) :
    Step H net { net with chain := net.chain.submitPersonhood tx }
  /-- The sidecar learns of a state of a contract, of now or of some time ago. -/
  | observe (path : String) (prev : Option (List Bytes32)) (next : List Bytes32)
    (recorded : ∀ key ∈ next, net.chain.Records H path key) :
    Step H net { net with
      copies := Function.update net.copies path next
      inFlight := net.inFlight ++ diffPredicate prev next }
  | announce (event : SidecarEvent) (registry : attestationWrite event = none) :
    Step H net { net with inFlight := net.inFlight ++ [event] }
  /-- A new stream begins with a snapshot; before the first the mirror is emptied. -/
  | connect (first : Bool) (registries : List SidecarEvent)
    (others : ∀ event ∈ registries, attestationWrite event = none) :
    Step H net { net with
      inFlight := registries ++ attestationSnapshot net.copies
      service := if first then withAttestations net.service ∅ else net.service }
  | deliver (event : SidecarEvent) (rest : List SidecarEvent)
    (next : net.inFlight = event :: rest) :
    Step H net { net.handleEvent event with inFlight := rest }
  | verify (W : World) (request : VerifyDcqlRequest) (reads : Reads H W net) :
    Step H net { net with service := (verifyDcql W net.service request).2 }
  | check (W : World) (request : CheckPredicateRequest) (reads : Reads H W net) :
    Step H net { net with
      service := withAttestations net.service
        (checkPredicateAttested W net.service.mirrors.attestations request).2 }
  /-- No other endpoint adds an attested key. -/
  | serve (service : Service)
    (kept : service.mirrors.attestations ⊆ net.service.mirrors.attestations) :
    Step H net { net with service }

/-- Nothing has been announced or mirrored yet. -/
structure Initial (net : Net) : Prop where
  copies : ∀ path, net.copies path = []
  inFlight : net.inFlight = []
  attestations : net.service.mirrors.attestations = ∅

/-! ## What a request adds to the mirror -/

section

variable {W : World}

/-- The key was in the mirror, or some contract's copy has it. -/
def Confirmed (W : World) (attestations : Finset String) (hex : String) : Prop :=
  hex ∈ attestations ∨ ∃ path key, W.isAttestedOnChain path (bytesHex key) = .ok true ∧
    hex = bytesHex key

theorem attestationOnChain_confirmed {attestations : Finset String} {path hex : String}
    {key : Bytes32} (added : hex ∈ (attestationOnChain W attestations path (bytesHex key)).2) :
    Confirmed W attestations hex := by
  rw [attestationOnChain] at added
  split at added
  · rename_i confirmed
    rcases Finset.mem_insert.mp added with rfl | old
    · exact .inr ⟨path, key, confirmed, rfl⟩
    · exact .inl old
  · exact .inl added

theorem isAttested_confirmed {attestations : Finset String} {path hex : String} {key : Bytes32}
    (added : hex ∈ (isAttested W attestations ⟨bytesHex key, path⟩).2) :
    Confirmed W attestations hex := by
  rw [isAttested] at added
  split at added
  · exact .inl added
  · exact attestationOnChain_confirmed added

theorem checkQuery_confirmed {request : VerifyDcqlRequest} {attestations : Finset String}
    {q : DcqlCredentialQuery} {presentation hex : String} {outcome : PresentationOutcome}
    (added : hex ∈ (checkQuery W request attestations q presentation outcome).2) :
    Confirmed W attestations hex := by
  rw [checkQuery] at added
  split at added
  · rename_i ak derived
    obtain ⟨_, _, _, _, _, key, _, _, same⟩ := (deriveAttestKey_eq_ok _ _).mp derived
    cases ak with
    | mk keyHex kind =>
      obtain rfl : keyHex = bytesHex key := same
      dsimp only at added
      split at added <;> exact isAttested_confirmed added
  · exact .inl added

theorem verifyOnePresentation_attestations (mirrors : Mirrors) (challenge : String)
    (audience : Option String) (presentation : String) :
    (verifyOnePresentation W mirrors challenge audience presentation).2.attestations =
      mirrors.attestations := by
  unfold verifyOnePresentation
  split
  · rfl
  · rfl
  · dsimp only
    split
    · rfl
    · split
      · rfl
      · split <;> rfl

theorem verifyEntry_confirmed {request : VerifyDcqlRequest} {mirrors : Mirrors} {credId : String}
    {presentations : List String} {hex : String}
    (added : hex ∈ (verifyEntry W request mirrors credId presentations).2.attestations) :
    Confirmed W mirrors.attestations hex := by
  unfold verifyEntry at added
  split at added
  · rename_i presentation
    have kept := verifyOnePresentation_attestations (W := W) mirrors request.challenge
      request.audience presentation
    split at added
    · rename_i returns
      rw [returns] at kept
      rw [show mirrors.attestations = _ from kept.symm]
      exact .inl added
    · rename_i returns
      rw [returns] at kept
      rw [show mirrors.attestations = _ from kept.symm]
      split at added
      · exact checkQuery_confirmed added
      · exact .inl added
  · exact .inl added
  · exact .inl added

theorem Confirmed.trans {first second : Finset String} {hex : String}
    (later : Confirmed W second hex) (earlier : ∀ hex ∈ second, Confirmed W first hex) :
    Confirmed W first hex := by
  cases later with
  | inl held => exact earlier hex held
  | inr onChain => exact .inr onChain

theorem verifyEntries_confirmed {request : VerifyDcqlRequest} {mirrors : Mirrors}
    {rows : List (String × List String)} {hex : String}
    (added : hex ∈ (verifyEntries W request mirrors rows).2.attestations) :
    Confirmed W mirrors.attestations hex := by
  induction rows generalizing mirrors with
  | nil => exact .inl added
  | cons row rest ih =>
    obtain ⟨credId, presentations⟩ := row
    have one : ∀ hex ∈ (verifyEntry W request mirrors credId presentations).2.attestations,
        Confirmed W mirrors.attestations hex := fun hex held => verifyEntry_confirmed held
    rw [verifyEntries] at added
    split at added
    · rename_i returns
      rw [returns] at one
      exact one hex added
    · rename_i returns
      rw [returns] at one
      refine Confirmed.trans (ih ?_) one
      split at added <;> rename_i others <;> rw [others] <;> exact added

theorem verifyDcql_confirmed {service : Service} {request : VerifyDcqlRequest} {hex : String}
    (added : hex ∈ (verifyDcql W service request).2.mirrors.attestations) :
    Confirmed W service.mirrors.attestations hex := by
  rw [verifyDcql] at added
  split at added
  · exact .inl added
  · dsimp only at added
    split at added
    · have entries : ∀ hex ∈ (verifyEntries W request service.mirrors
          request.vpToken.rows).2.attestations, Confirmed W service.mirrors.attestations hex :=
        fun hex held => verifyEntries_confirmed held
      rw [takeChallenge_mirrors] at added
      split at added <;> rename_i returns <;> rw [returns] at entries <;> exact entries hex added
    · rw [takeChallenge_mirrors] at added
      exact .inl added

theorem checkPredicateAttested_confirmed {attestations : Finset String}
    {request : CheckPredicateRequest} {hex : String}
    (added : hex ∈ (checkPredicateAttested W attestations request).2) :
    Confirmed W attestations hex := by
  rw [checkPredicateAttested] at added
  split at added
  · exact .inl added
  · rename_i key _
    dsimp only at added
    split at added
    · exact .inl added
    · split at added
      · exact attestationOnChain_confirmed added
      · exact .inl added

end

/-! ## The mirror names recorded keys -/

/-- Whatever names a key outside the contracts names a recorded one. -/
structure Backed (H : Hashes) (net : Net) : Prop where
  copies : ∀ path, ∀ key ∈ net.copies path, net.chain.Records H path key
  inFlight : ∀ hex, .attestation hex ∈ net.inFlight → net.chain.RecordsHex H hex
  mirrored : ∀ hex ∈ net.service.mirrors.attestations, net.chain.RecordsHex H hex

variable {H : Hashes} {net net' : Net}

theorem Initial.backed (initial : Initial net) : Backed H net where
  copies path key held := by simp [initial.copies] at held
  inFlight hex announced := by simp [initial.inFlight] at announced
  mirrored hex held := by simp [initial.attestations] at held

theorem Backed.extended {chain : Chain} (backed : Backed H net)
    (grown : net.chain.Extended H chain) : Backed H { net with chain } where
  copies path key held := grown path key (backed.copies path key held)
  inFlight hex announced := grown.hex (backed.inFlight hex announced)
  mirrored hex held := grown.hex (backed.mirrored hex held)

/-- A request adds keys that the sidecar confirms. -/
theorem Backed.confirmed {W : World} {hex : String} (backed : Backed H net) (reads : Reads H W net)
    (confirmed : Confirmed W net.service.mirrors.attestations hex) :
    net.chain.RecordsHex H hex := by
  rcases confirmed with held | ⟨path, key, onChain, same⟩
  · exact backed.mirrored hex held
  · exact ⟨path, key, backed.copies path key (reads.attested path key onChain), same⟩

theorem Backed.observe (backed : Backed H net) (path : String) (prev : Option (List Bytes32))
    {next : List Bytes32} (recorded : ∀ key ∈ next, net.chain.Records H path key) :
    Backed H { net with
      copies := Function.update net.copies path next
      inFlight := net.inFlight ++ diffPredicate prev next } where
  copies other key held := by
    have held : key ∈ Function.update net.copies path next other := held
    by_cases same : other = path
    · subst same
      rw [Function.update_self] at held
      exact recorded key held
    · rw [Function.update_of_ne same] at held
      exact backed.copies other key held
  inFlight hex announced := by
    rcases List.mem_append.mp announced with earlier | now
    · exact backed.inFlight hex earlier
    · obtain ⟨key, fresh, same⟩ := List.mem_map.mp now
      obtain rfl := SidecarEvent.attestation.inj same
      exact ⟨path, key, recorded key (List.mem_filter.mp fresh).1, rfl⟩
  mirrored := backed.mirrored

theorem Backed.snapshot (backed : Backed H net) {hex : String}
    (announced : .attestation hex ∈ attestationSnapshot net.copies) :
    net.chain.RecordsHex H hex := by
  obtain ⟨path, _, among⟩ := List.mem_flatMap.mp announced
  obtain ⟨key, held, same⟩ := List.mem_map.mp among
  obtain rfl := SidecarEvent.attestation.inj same
  exact ⟨path, key, backed.copies path key held, rfl⟩

/-- No registry event is an attestation. -/
theorem not_attestation {events : List SidecarEvent} {hex : String}
    (others : ∀ event ∈ events, attestationWrite event = none) :
    SidecarEvent.attestation hex ∉ events := by
  intro among
  cases others _ among

theorem Backed.handleEvent {event : SidecarEvent} {rest : List SidecarEvent}
    (backed : Backed H net) (next : net.inFlight = event :: rest) :
    Backed H { net.handleEvent event with inFlight := rest } where
  copies := backed.copies
  inFlight hex announced := by
    refine backed.inFlight hex ?_
    rw [next]
    exact List.mem_cons_of_mem _ announced
  mirrored hex held := by
    cases event with
    | attestation attestKey =>
      rcases Finset.mem_insert.mp held with rfl | old
      · refine backed.inFlight _ ?_
        rw [next]
        exact List.mem_cons_self
      · exact backed.mirrored hex old
    | issuer publicKeyHash status publicKey name => exact backed.mirrored hex held
    | revocation rootHash status issuerKeyHash reason => exact backed.mirrored hex held

/-- One step of any party keeps the mirror backed, and the contracts forget nothing. -/
theorem step_backed (step : Step H net net') (backed : Backed H net) :
    Backed H net' ∧ net.chain.Extended H net'.chain := by
  cases step with
  | transact tx => exact ⟨backed.extended (Chain.extended_submit tx), Chain.extended_submit tx⟩
  | transactPersonhood tx =>
    exact ⟨backed.extended (Chain.extended_submitPersonhood tx),
      Chain.extended_submitPersonhood tx⟩
  | observe path prev next recorded => exact ⟨backed.observe path prev recorded, .refl⟩
  | announce event registry =>
    refine ⟨⟨backed.copies, ?_, backed.mirrored⟩, .refl⟩
    intro hex announced
    rcases List.mem_append.mp announced with earlier | now
    · exact backed.inFlight hex earlier
    · exact absurd now (not_attestation (by simpa using registry))
  | connect first registries others =>
    refine ⟨⟨backed.copies, ?_, ?_⟩, .refl⟩
    · intro hex announced
      rcases List.mem_append.mp announced with registry | among
      · exact absurd registry (not_attestation others)
      · exact backed.snapshot among
    · intro hex held
      cases first with
      | false => exact backed.mirrored hex held
      | true => exact absurd held (Finset.notMem_empty hex)
  | deliver event rest next => exact ⟨backed.handleEvent next, .refl⟩
  | verify W request reads =>
    refine ⟨⟨backed.copies, backed.inFlight, ?_⟩, .refl⟩
    intro hex held
    exact backed.confirmed reads (verifyDcql_confirmed held)
  | check W request reads =>
    refine ⟨⟨backed.copies, backed.inFlight, ?_⟩, .refl⟩
    intro hex held
    exact backed.confirmed reads (checkPredicateAttested_confirmed held)
  | serve service kept =>
    exact ⟨⟨backed.copies, backed.inFlight, fun hex held => backed.mirrored hex (kept held)⟩, .refl⟩

/-- Every order of steps of the parties. -/
def Reaches (H : Hashes) : Net → Net → Prop := Relation.ReflTransGen (Step H)

theorem reaches_backed (reached : Reaches H net net') (backed : Backed H net) :
    Backed H net' ∧ net.chain.Extended H net'.chain := by
  induction reached with
  | refl => exact ⟨backed, .refl⟩
  | tail _ step ih =>
    obtain ⟨held, grown⟩ := step_backed step ih.1
    exact ⟨held, ih.2.trans grown⟩

end OwlId.Network
