import Mathlib
import OwlId.Verification.EventMirror

/-! # Diffs and the mirror

The sidecar announces the difference of two ledgers, and the verification service
applies what is announced to its mirror of the first.  `diff_then_apply_iff` says
when the result is the mirror of the second: the revocation ledger always arrives,
but an ACTIVE issuer or an attestation that is gone is not announced, so it stays.
Neither can happen when the second ledger is reached from the first
(`Kept.of_run`).
-/

namespace OwlId.Sidecar

open OwlId.Lib OwlId.Lib.Writes OwlId.Contracts OwlId.ProofSystem OwlId.Verification

/-! ## What a ledger says -/

/-- The key an entry of the issuer ledger is announced under. -/
def announcedKey (ledger : Issuers) (keyHash : Bytes32) : String :=
  bytesHex ((ledger.issuerKeys.get? keyHash).getD zero32)

/-- Whether the key is that of an ACTIVE issuer. -/
def trustedIn (ledger : Option Issuers) (key : String) : Bool :=
  match ledger with
  | none => false
  | some ledger => ledger.issuerStatuses.rows.any fun entry =>
      decide (entry.2 = .active) && decide (announcedKey ledger entry.1 = key)

def mirrorStatus : CredentialStatus → RevocationStatus
  | .active => .active
  | .revoked => .revoked
  | .suspended => .suspended

/-- The status of a credential by its hex id; one that is not in the ledger is active. -/
def statusIn (ledger : Option Registry) (id : String) : RevocationStatus :=
  match ledger with
  | none => .active
  | some ledger =>
    match ledger.credentialStatuses.rows.find? fun entry => decide (bytesHex entry.1 = id) with
    | some entry => mirrorStatus entry.2
    | none => .active

def attestedIn (attestations : Option (List Bytes32)) (key : String) : Bool :=
  decide (key ∈ (attestations.getD []).map bytesHex)

theorem mem_rows {V : Type} {map : LedgerMap V} {key : Bytes32} {value : V} :
    (key, value) ∈ map.rows ↔ map.get? key = some value := by
  constructor
  · intro member
    have found : map.find key = some (key, value) := Table.find_eq_some.mpr ⟨member, rfl⟩
    rw [LedgerMap.get?, found, Option.map_some]
  · intro found
    obtain ⟨⟨other, stored⟩, hit, same⟩ := Option.map_eq_some_iff.mp found
    obtain ⟨member, here⟩ := Table.find_eq_some.mp hit
    have key_eq : other = key := here
    have value_eq : stored = value := same
    rw [← key_eq, ← value_eq]
    exact member

/-! ## Revocations -/

theorem statusIn_bytesHex (ledger : Registry) (rootHash : Bytes32) :
    statusIn (some ledger) (bytesHex rootHash) =
      ((ledger.credentialStatuses.get? rootHash).map mirrorStatus).getD .active := by
  have entry : (ledger.credentialStatuses.rows.find? fun entry =>
      decide (bytesHex entry.1 = bytesHex rootHash)) = ledger.credentialStatuses.find rootHash := by
    simp [Table.find]
  rw [statusIn, entry, LedgerMap.get?]
  cases ledger.credentialStatuses.find rootHash with
  | none => rfl
  | some entry => rfl

/-- Only hex ids name an entry. -/
theorem statusIn_of_not_hex {id : String} (foreign : ∀ rootHash, bytesHex rootHash ≠ id)
    (ledger : Option Registry) : statusIn ledger id = .active := by
  cases ledger with
  | none => rfl
  | some ledger =>
    have absent : (ledger.credentialStatuses.rows.find? fun entry =>
        decide (bytesHex entry.1 = id)) = none := by
      simp [foreign]
    rw [statusIn, absent]

/-- What a diff of the revocation ledger announces. -/
theorem mem_diffRevocation {prev : Option Registry} {next : Registry} {event : SidecarEvent} :
    event ∈ diffRevocation prev next ↔
      (∃ rootHash status, next.credentialStatuses.get? rootHash = some status ∧
        (prev.bind fun ledger => ledger.credentialStatuses.get? rootHash) ≠ some status ∧
        event = revocationEvent next rootHash status) ∨
      ∃ rootHash ledger status, prev = some ledger ∧
        ledger.credentialStatuses.get? rootHash = some status ∧
        next.credentialStatuses.get? rootHash = none ∧ event = removedEvent rootHash := by
  have gone : ∀ rootHash : Bytes32,
      bytesHex rootHash ∉ (next.credentialStatuses.rows.map fun entry => bytesHex entry.1) ↔
        next.credentialStatuses.get? rootHash = none := by
    intro rootHash
    rw [← Option.not_isSome_iff_eq_none, ← LedgerMap.member, ← LedgerMap.mem_keys]
    simp
  unfold diffRevocation
  rw [List.mem_append]
  apply or_congr
  · rw [List.mem_map]
    constructor
    · rintro ⟨⟨rootHash, status⟩, kept, same⟩
      obtain ⟨member, changed⟩ := List.mem_filter.mp kept
      exact ⟨rootHash, status, mem_rows.mp member, of_decide_eq_true changed, same.symm⟩
    · rintro ⟨rootHash, status, found, changed, same⟩
      exact ⟨(rootHash, status),
        List.mem_filter.mpr ⟨mem_rows.mpr found, decide_eq_true changed⟩, same.symm⟩
  · cases prev with
    | none => simp
    | some ledger =>
      rw [List.mem_map]
      constructor
      · rintro ⟨⟨rootHash, status⟩, kept, same⟩
        obtain ⟨member, unseen⟩ := List.mem_filter.mp kept
        exact ⟨rootHash, ledger, status, rfl, mem_rows.mp member,
          (gone rootHash).mp (of_decide_eq_true unseen), same.symm⟩
      · rintro ⟨rootHash, _, status, isPrev, found, absent, same⟩
        obtain rfl := Option.some.inj isPrev
        exact ⟨(rootHash, status), List.mem_filter.mpr
          ⟨mem_rows.mpr found, decide_eq_true ((gone rootHash).mpr absent)⟩, same.symm⟩

theorem revocationWrite_revocationEvent (ledger : Registry) (rootHash : Bytes32)
    (status : CredentialStatus) :
    revocationWrite (revocationEvent ledger rootHash status) =
      some (bytesHex rootHash, mirrorStatus status) := by
  cases status <;> simp [revocationEvent, revocationWrite, credStatusName, mirrorStatus]

theorem revocationWrite_removedEvent (rootHash : Bytes32) :
    revocationWrite (removedEvent rootHash) = some (bytesHex rootHash, .active) := by
  simp [removedEvent, revocationWrite]

/-- What a diff of the revocation ledger writes. -/
theorem mem_revocationWrites {prev : Option Registry} {next : Registry}
    {w : String × RevocationStatus} :
    w ∈ (diffRevocation prev next).filterMap revocationWrite ↔
      (∃ rootHash status, next.credentialStatuses.get? rootHash = some status ∧
        (prev.bind fun ledger => ledger.credentialStatuses.get? rootHash) ≠ some status ∧
        w = (bytesHex rootHash, mirrorStatus status)) ∨
      ∃ rootHash ledger status, prev = some ledger ∧
        ledger.credentialStatuses.get? rootHash = some status ∧
        next.credentialStatuses.get? rootHash = none ∧ w = (bytesHex rootHash, .active) := by
  simp only [List.mem_filterMap, mem_diffRevocation]
  constructor
  · rintro ⟨_, ⟨rootHash, status, found, changed, rfl⟩ |
      ⟨rootHash, ledger, status, isPrev, found, absent, rfl⟩, writes⟩
    · rw [revocationWrite_revocationEvent, Option.some.injEq] at writes
      exact .inl ⟨rootHash, status, found, changed, writes.symm⟩
    · rw [revocationWrite_removedEvent, Option.some.injEq] at writes
      exact .inr ⟨rootHash, ledger, status, isPrev, found, absent, writes.symm⟩
  · rintro (⟨rootHash, status, found, changed, rfl⟩ |
      ⟨rootHash, ledger, status, isPrev, found, absent, rfl⟩)
    · exact ⟨_, .inl ⟨rootHash, status, found, changed, rfl⟩,
        revocationWrite_revocationEvent next rootHash status⟩
    · exact ⟨_, .inr ⟨rootHash, ledger, status, isPrev, found, absent, rfl⟩,
        revocationWrite_removedEvent rootHash⟩

/-- The revocation ledger always arrives. -/
theorem revocation_diff_applied (prev : Option Registry) (next : Registry) :
    writeAll (statusIn prev) ((diffRevocation prev next).filterMap revocationWrite) =
      statusIn (some next) := by
  have toward : Toward (statusIn (some next))
      ((diffRevocation prev next).filterMap revocationWrite) := by
    intro w written
    rw [mem_revocationWrites] at written
    cases written with
    | inl changed =>
      obtain ⟨rootHash, status, found, _, rfl⟩ := changed
      rw [statusIn_bytesHex, found, Option.map_some, Option.getD_some]
    | inr removed =>
      obtain ⟨rootHash, _, _, _, _, absent, rfl⟩ := removed
      rw [statusIn_bytesHex, absent, Option.map_none, Option.getD_none]
  rw [writeAll_eq_iff toward]
  intro id unwritten
  by_cases hex : ∃ rootHash, bytesHex rootHash = id
  · obtain ⟨rootHash, rfl⟩ := hex
    have silent : ∀ status, (bytesHex rootHash, status) ∉
        (diffRevocation prev next).filterMap revocationWrite := by
      intro status written
      exact unwritten (List.mem_map_of_mem written)
    have before : statusIn prev (bytesHex rootHash) =
        (((prev.bind fun ledger => ledger.credentialStatuses.get? rootHash).map
          mirrorStatus).getD .active) := by
      cases prev with
      | none => rfl
      | some ledger => exact statusIn_bytesHex ledger rootHash
    rw [before, statusIn_bytesHex]
    cases after : next.credentialStatuses.get? rootHash with
    | some status =>
      -- an entry that is not announced had this status
      have same : (prev.bind fun ledger => ledger.credentialStatuses.get? rootHash) =
          some status := by
        by_contra changed
        exact silent _ (mem_revocationWrites.mpr (.inl ⟨rootHash, status, after, changed, rfl⟩))
      rw [same]
    | none =>
      have absent : (prev.bind fun ledger => ledger.credentialStatuses.get? rootHash) = none := by
        cases prev with
        | none => rfl
        | some ledger =>
          cases found : ledger.credentialStatuses.get? rootHash with
          | none => exact found
          | some status =>
            exact absurd (mem_revocationWrites.mpr
              (.inr ⟨rootHash, ledger, status, rfl, found, after, rfl⟩)) (silent _)
      rw [absent]
  · have foreign : ∀ rootHash, bytesHex rootHash ≠ id := fun rootHash same => hex ⟨rootHash, same⟩
    rw [statusIn_of_not_hex foreign, statusIn_of_not_hex foreign]

/-! ## Issuers -/

section Issuers

variable {H : Hashes}

theorem announcedKey_of_recorded {ledger : Issuers} {keyHash publicKey : Bytes32}
    (stored : ledger.issuerKeys.get? keyHash = some publicKey) :
    announcedKey ledger keyHash = bytesHex publicKey := by
  rw [announcedKey, stored, Option.getD_some]

/-- An entry with a status has a key, which is the key it is announced under. -/
theorem announcedKey_eq {ledger : Issuers} (coherent : ledger.Coherent H) {keyHash : Bytes32}
    {status : IssuerStatus} (found : ledger.issuerStatuses.get? keyHash = some status) :
    ∃ publicKey, ledger.issuerKeys.get? keyHash = some publicKey ∧
      announcedKey ledger keyHash = bytesHex publicKey := by
  have recorded := coherent.keys keyHash
  rw [LedgerMap.member, LedgerMap.member, found, Option.isSome_some,
    Option.isSome_iff_exists] at recorded
  obtain ⟨publicKey, stored⟩ := recorded
  exact ⟨publicKey, stored, announcedKey_of_recorded stored⟩

theorem trustedIn_iff {ledger : Issuers} (coherent : ledger.Coherent H) {key : String} :
    trustedIn (some ledger) key = true ↔
      ∃ keyHash publicKey, ledger.issuerStatuses.get? keyHash = some .active ∧
        ledger.issuerKeys.get? keyHash = some publicKey ∧ bytesHex publicKey = key := by
  simp only [trustedIn, List.any_eq_true, Bool.and_eq_true, decide_eq_true_eq, Prod.exists,
    mem_rows]
  constructor
  · rintro ⟨keyHash, _, found, rfl, announced⟩
    obtain ⟨publicKey, stored, same⟩ := announcedKey_eq coherent found
    exact ⟨keyHash, publicKey, found, stored, same.symm.trans announced⟩
  · rintro ⟨keyHash, publicKey, found, stored, rfl⟩
    exact ⟨keyHash, .active, found, rfl, announcedKey_of_recorded stored⟩

theorem issuerWrite_issuerEvent (ledger : Issuers) (keyHash : Bytes32) (status : IssuerStatus) :
    issuerWrite (issuerEvent ledger keyHash status) =
      some (announcedKey ledger keyHash, decide (status = .active)) := by
  cases status <;> simp [issuerEvent, issuerWrite, issuerStatusName, announcedKey]

/-- What a diff of the issuer ledger writes. -/
theorem mem_issuerWrites {prev : Option Issuers} {next : Issuers} {w : String × Bool} :
    w ∈ (diffIssuer prev next).filterMap issuerWrite ↔
      ∃ keyHash status, next.issuerStatuses.get? keyHash = some status ∧
        (prev.bind fun ledger => ledger.issuerStatuses.get? keyHash) ≠ some status ∧
        w = (announcedKey next keyHash, decide (status = .active)) := by
  simp only [diffIssuer, List.filterMap_map, Function.comp_def, issuerWrite_issuerEvent,
    List.mem_filterMap, List.mem_filter, Option.some.injEq, decide_eq_true_eq, Prod.exists,
    mem_rows, and_assoc]
  constructor
  · rintro ⟨keyHash, status, found, changed, rfl⟩
    exact ⟨keyHash, status, found, changed, rfl⟩
  · rintro ⟨keyHash, status, found, changed, rfl⟩
    exact ⟨keyHash, status, found, changed, rfl⟩

/-- The key of an ACTIVE issuer is still recorded under its hash. -/
def KeepsIssuers (prev : Option Issuers) (next : Issuers) : Prop :=
  ∀ ledger, prev = some ledger → ∀ keyHash,
    ledger.issuerStatuses.get? keyHash = some .active →
    next.issuerKeys.get? keyHash = ledger.issuerKeys.get? keyHash

theorem issuerWrites_toward {next : Issuers} (coherent : next.Coherent H) (prev : Option Issuers) :
    Toward (trustedIn (some next)) ((diffIssuer prev next).filterMap issuerWrite) := by
  intro w written
  obtain ⟨keyHash, status, found, _, rfl⟩ := mem_issuerWrites.mp written
  obtain ⟨publicKey, stored, announced⟩ := announcedKey_eq coherent found
  rw [Bool.eq_iff_iff, decide_eq_true_iff, announced, trustedIn_iff coherent]
  constructor
  · rintro rfl
    exact ⟨keyHash, publicKey, found, stored, rfl⟩
  · -- the hash of the key is the only entry it can stand under
    rintro ⟨other, publicKey', active, stored', same⟩
    obtain rfl := bytesHex_injective same
    have here : other = keyHash :=
      (coherent.hashed other _ stored').1.trans (coherent.hashed keyHash _ stored).1.symm
    rw [here, found] at active
    exact Option.some.inj active

theorem issuer_diff_applied_iff {prev : Option Issuers} {next : Issuers}
    (before : ∀ ledger, prev = some ledger → ledger.Coherent H) (after : next.Coherent H) :
    writeAll (trustedIn prev) ((diffIssuer prev next).filterMap issuerWrite) =
      trustedIn (some next) ↔ KeepsIssuers prev next := by
  rw [writeAll_eq_iff (issuerWrites_toward after prev)]
  constructor
  · intro arrives ledger isPrev keyHash active
    subst isPrev
    have coherent := before ledger rfl
    obtain ⟨publicKey, stored, _⟩ := announcedKey_eq coherent active
    rw [stored]
    by_contra differs
    -- no entry of the new ledger has the key, so nothing is written under it
    have unrecorded : ∀ other, next.issuerKeys.get? other ≠ some publicKey := by
      intro other recorded
      have here : other = keyHash :=
        (after.hashed other _ recorded).1.trans (coherent.hashed keyHash _ stored).1.symm
      exact differs (here ▸ recorded)
    have unwritten : bytesHex publicKey ∉
        ((diffIssuer (some ledger) next).filterMap issuerWrite).map Prod.fst := by
      intro written
      obtain ⟨w, member, same⟩ := List.mem_map.mp written
      obtain ⟨other, status, found, _, rfl⟩ := mem_issuerWrites.mp member
      obtain ⟨publicKey', stored', announced⟩ := announcedKey_eq after found
      rw [announced] at same
      exact unrecorded other (bytesHex_injective same ▸ stored')
    have kept := arrives _ unwritten
    have trusted : trustedIn (some ledger) (bytesHex publicKey) = true :=
      (trustedIn_iff coherent).mpr ⟨keyHash, publicKey, active, stored, rfl⟩
    rw [trusted] at kept
    obtain ⟨other, publicKey', _, stored', same⟩ := (trustedIn_iff after).mp kept.symm
    exact unrecorded other (bytesHex_injective same ▸ stored')
  · intro keeps key unwritten
    have silent : ∀ keyHash status, next.issuerStatuses.get? keyHash = some status →
        announcedKey next keyHash = key →
        (prev.bind fun ledger => ledger.issuerStatuses.get? keyHash) = some status := by
      intro keyHash status found announced
      by_contra changed
      apply unwritten
      rw [← announced]
      exact List.mem_map_of_mem (f := Prod.fst)
        (mem_issuerWrites.mpr ⟨keyHash, status, found, changed, rfl⟩)
    rw [Bool.eq_iff_iff]
    constructor
    · intro trusted
      cases prev with
      | none => cases trusted
      | some ledger =>
        have coherent := before ledger rfl
        obtain ⟨keyHash, publicKey, active, stored, rfl⟩ := (trustedIn_iff coherent).mp trusted
        have recorded : next.issuerKeys.get? keyHash = some publicKey :=
          (keeps ledger rfl keyHash active).trans stored
        have present := after.keys keyHash
        rw [LedgerMap.member, LedgerMap.member, recorded, Option.isSome_some, eq_comm,
          Option.isSome_iff_exists] at present
        obtain ⟨status, found⟩ := present
        have same := silent keyHash status found (announcedKey_of_recorded recorded)
        rw [Option.bind_some, active] at same
        obtain rfl := Option.some.inj same
        exact (trustedIn_iff after).mpr ⟨keyHash, publicKey, found, recorded, rfl⟩
    · intro trusted
      obtain ⟨keyHash, publicKey, active, recorded, rfl⟩ := (trustedIn_iff after).mp trusted
      have same := silent keyHash .active active (announcedKey_of_recorded recorded)
      cases prev with
      | none => cases same
      | some ledger =>
        rw [Option.bind_some] at same
        have stored := (keeps ledger rfl keyHash same).symm.trans recorded
        exact (trustedIn_iff (before ledger rfl)).mpr ⟨keyHash, publicKey, same, stored, rfl⟩

/-- The registry keeps every key it has recorded. -/
theorem keepsIssuers_of_run {ledger : Issuers} (coherent : ledger.Coherent H)
    (txs : List Issuers.IssuerTransaction) :
    KeepsIssuers (some ledger) (Runs.run (Issuers.step H) ledger txs) := by
  intro prev isPrev keyHash active
  obtain rfl := Option.some.inj isPrev
  have named := coherent.names keyHash
  rw [LedgerMap.member, LedgerMap.member, active, Option.isSome_some,
    Option.isSome_iff_exists] at named
  obtain ⟨publicKey, stored, _⟩ := announcedKey_eq coherent active
  obtain ⟨name, called⟩ := named
  rw [stored]
  exact (Issuers.run_recordedAs coherent ⟨stored, called⟩ txs).key

end Issuers

/-! ## Attestations -/

theorem mem_attestationWrites {prev : Option (List Bytes32)} {next : List Bytes32}
    {w : String × Bool} :
    w ∈ (diffPredicate prev next).filterMap attestationWrite ↔
      ∃ key ∈ next, key ∉ prev.getD [] ∧ w = (bytesHex key, true) := by
  simp only [diffPredicate, List.filterMap_map, Function.comp_def, attestationWrite,
    List.mem_filterMap, List.mem_filter, Option.some.injEq, decide_eq_true_eq, List.mem_toFinset,
    List.mem_map, bytesHex_inj, exists_eq_right, and_assoc]
  constructor
  · rintro ⟨key, member, fresh, rfl⟩
    exact ⟨key, member, fresh, rfl⟩
  · rintro ⟨key, member, fresh, rfl⟩
    exact ⟨key, member, fresh, rfl⟩

theorem attestedIn_eq_true {attestations : List Bytes32} {key : Bytes32} :
    attestedIn (some attestations) (bytesHex key) = true ↔ key ∈ attestations := by
  simp [attestedIn]

theorem predicate_diff_applied_iff (prev : Option (List Bytes32)) (next : List Bytes32) :
    writeAll (attestedIn prev) ((diffPredicate prev next).filterMap attestationWrite) =
      attestedIn (some next) ↔ ∀ key ∈ prev.getD [], key ∈ next := by
  have toward : Toward (attestedIn (some next))
      ((diffPredicate prev next).filterMap attestationWrite) := by
    intro w written
    obtain ⟨key, member, _, rfl⟩ := mem_attestationWrites.mp written
    exact (attestedIn_eq_true.mpr member).symm
  have before : ∀ key, attestedIn prev (bytesHex key) = true ↔ key ∈ prev.getD [] := by
    intro key
    simp [attestedIn]
  rw [writeAll_eq_iff toward]
  constructor
  · intro arrives key member
    -- a key that was there is never announced
    have unwritten : bytesHex key ∉
        ((diffPredicate prev next).filterMap attestationWrite).map Prod.fst := by
      intro written
      obtain ⟨w, announced, same⟩ := List.mem_map.mp written
      obtain ⟨other, _, fresh, rfl⟩ := mem_attestationWrites.mp announced
      exact fresh (bytesHex_injective same ▸ member)
    have kept := arrives _ unwritten
    rw [(before key).mpr member] at kept
    exact attestedIn_eq_true.mp kept.symm
  · intro keeps id unwritten
    rw [Bool.eq_iff_iff]
    simp only [attestedIn, decide_eq_true_eq, List.mem_map, Option.getD_some]
    constructor
    · rintro ⟨key, member, rfl⟩
      exact ⟨key, keeps key member, rfl⟩
    · rintro ⟨key, member, rfl⟩
      by_contra absent
      have fresh : key ∉ prev.getD [] := fun old => absent ⟨key, old, rfl⟩
      exact unwritten (List.mem_map_of_mem (f := Prod.fst)
        (mem_attestationWrites.mpr ⟨key, member, fresh, rfl⟩))

/-! ## A diff of the three ledgers -/

/-- The ledgers of one instant; the attestation set in the order it iterates. -/
structure Ledgers where
  issuers : Issuers
  registry : Registry
  attestations : List Bytes32

def diffLedgers (prev : Option Ledgers) (next : Ledgers) : List SidecarEvent :=
  diffIssuer (prev.map Ledgers.issuers) next.issuers ++
    diffRevocation (prev.map Ledgers.registry) next.registry ++
    diffPredicate (prev.map Ledgers.attestations) next.attestations

/-- What the mirror of the ledgers shows; before the first ledger, nothing. -/
def ledgersView (ledgers : Option Ledgers) : View where
  trusted := trustedIn (ledgers.map Ledgers.issuers)
  status := statusIn (ledgers.map Ledgers.registry)
  attested := attestedIn (ledgers.map Ledgers.attestations)

theorem diffIssuer_kind {prev : Option Issuers} {next : Issuers} {event : SidecarEvent}
    (member : event ∈ diffIssuer prev next) :
    revocationWrite event = none ∧ attestationWrite event = none := by
  obtain ⟨_, _, rfl⟩ := List.mem_map.mp member
  exact ⟨rfl, rfl⟩

theorem diffRevocation_kind {prev : Option Registry} {next : Registry} {event : SidecarEvent}
    (member : event ∈ diffRevocation prev next) :
    issuerWrite event = none ∧ attestationWrite event = none := by
  unfold diffRevocation at member
  cases List.mem_append.mp member with
  | inl changed =>
    obtain ⟨_, _, rfl⟩ := List.mem_map.mp changed
    exact ⟨rfl, rfl⟩
  | inr removed =>
    cases prev with
    | none => cases removed
    | some ledger =>
      obtain ⟨_, _, rfl⟩ := List.mem_map.mp removed
      exact ⟨rfl, rfl⟩

theorem diffPredicate_kind {prev : Option (List Bytes32)} {next : List Bytes32}
    {event : SidecarEvent} (member : event ∈ diffPredicate prev next) :
    issuerWrite event = none ∧ revocationWrite event = none := by
  obtain ⟨_, _, rfl⟩ := List.mem_map.mp member
  exact ⟨rfl, rfl⟩

/-- Each kind of write comes from the diff of its own ledger. -/
theorem view_handleAll_diffLedgers (replica : Replica) (prev : Option Ledgers) (next : Ledgers) :
    (handleAll replica (diffLedgers prev next)).view =
      ⟨writeAll replica.view.trusted
          ((diffIssuer (prev.map Ledgers.issuers) next.issuers).filterMap issuerWrite),
       writeAll replica.view.status
          ((diffRevocation (prev.map Ledgers.registry) next.registry).filterMap revocationWrite),
       writeAll replica.view.attested
          ((diffPredicate (prev.map Ledgers.attestations) next.attestations).filterMap
            attestationWrite)⟩ := by
  rw [view_handleAll, diffLedgers]
  simp only [List.filterMap_append,
    List.filterMap_eq_nil_iff.mpr fun _ member => (diffIssuer_kind member).1,
    List.filterMap_eq_nil_iff.mpr fun _ member => (diffIssuer_kind member).2,
    List.filterMap_eq_nil_iff.mpr fun _ member => (diffRevocation_kind member).1,
    List.filterMap_eq_nil_iff.mpr fun _ member => (diffRevocation_kind member).2,
    List.filterMap_eq_nil_iff.mpr fun _ member => (diffPredicate_kind member).1,
    List.filterMap_eq_nil_iff.mpr fun _ member => (diffPredicate_kind member).2,
    List.nil_append, List.append_nil]

/-! ## Nothing to announce -/

theorem diffIssuer_self (ledger : Issuers) : diffIssuer (some ledger) ledger = [] := by
  rw [diffIssuer, List.map_eq_nil_iff, List.filter_eq_nil_iff]
  intro entry member
  have found : ledger.issuerStatuses.get? entry.1 = some entry.2 := mem_rows.mp member
  simp [found]

theorem diffRevocation_self (ledger : Registry) : diffRevocation (some ledger) ledger = [] := by
  unfold diffRevocation
  rw [List.append_eq_nil_iff, List.map_eq_nil_iff, List.filter_eq_nil_iff, List.map_eq_nil_iff,
    List.filter_eq_nil_iff]
  constructor
  · intro entry member
    have found : ledger.credentialStatuses.get? entry.1 = some entry.2 := mem_rows.mp member
    simp [found]
  · intro entry member
    have seen : bytesHex entry.1 ∈
        ledger.credentialStatuses.rows.map fun entry => bytesHex entry.1 :=
      List.mem_map_of_mem (f := fun entry => bytesHex entry.1) member
    simp [seen]

theorem diffPredicate_self (attestations : List Bytes32) :
    diffPredicate (some attestations) attestations = [] := by
  rw [diffPredicate, List.map_eq_nil_iff, List.filter_eq_nil_iff]
  intro key member
  simp [member]

theorem diffLedgers_self (ledgers : Ledgers) : diffLedgers (some ledgers) ledgers = [] := by
  simp only [diffLedgers, Option.map_some, diffIssuer_self, diffRevocation_self,
    diffPredicate_self, List.append_nil]

/-! ## Diff, then apply -/

/-- The mirror shows the ledgers, and the cache holds the ids that are revoked or suspended. -/
structure Mirrored (replica : Replica) (ledgers : Option Ledgers) : Prop where
  view : replica.view = ledgersView ledgers
  cached : ∀ id, replica.revocations.cache.isRevoked id =
    ((ledgersView ledgers).status id).isBlocking

theorem Mirrored.coherent {replica : Replica} {ledgers : Option Ledgers}
    (mirrored : Mirrored replica ledgers) : replica.revocations.Coherent := by
  intro id
  rw [mirrored.cached, ← mirrored.view, RevocationTable.blocks_eq]
  rfl

theorem mirrored_iff {replica : Replica} {ledgers : Option Ledgers}
    (coherent : replica.revocations.Coherent) :
    Mirrored replica ledgers ↔ replica.view = ledgersView ledgers := by
  constructor
  · exact Mirrored.view
  · intro shows
    refine ⟨shows, ?_⟩
    intro id
    rw [coherent, RevocationTable.blocks_eq, ← shows]
    rfl

/-- What the diffs rely on: no ACTIVE issuer and no attestation goes away. -/
structure Kept (prev next : Ledgers) : Prop where
  issuers : ∀ keyHash, prev.issuers.issuerStatuses.get? keyHash = some .active →
    next.issuers.issuerKeys.get? keyHash = prev.issuers.issuerKeys.get? keyHash
  attestations : ∀ key ∈ prev.attestations, key ∈ next.attestations

/-- A state of a deployed issuer registry. -/
def ReachedIssuers (H : Hashes) (ledger : Issuers) : Prop :=
  ∃ owner start txs, Issuers.deploy owner = .ok start ∧
    ledger = Runs.run (Issuers.step H) start txs

section

variable {H : Hashes}

theorem ReachedIssuers.coherent {ledger : Issuers} (reached : ReachedIssuers H ledger) :
    ledger.Coherent H := by
  obtain ⟨_, _, txs, deployed, rfl⟩ := reached
  exact Issuers.run_coherent (Issuers.deploy_coherent deployed) txs

/-- Nothing goes away while the contracts run. -/
theorem Kept.of_run {prev next : Ledgers} (reached : ReachedIssuers H prev.issuers)
    {txs : List Issuers.IssuerTransaction}
    (later : next.issuers = Runs.run (Issuers.step H) prev.issuers txs)
    (grown : ∀ key ∈ prev.attestations, key ∈ next.attestations) : Kept prev next := by
  refine ⟨?_, grown⟩
  rw [later]
  exact keepsIssuers_of_run reached.coherent txs _ rfl

theorem mirrored_diffLedgers_iff {prev : Option Ledgers} {next : Ledgers}
    (before : ∀ ledgers, prev = some ledgers → ReachedIssuers H ledgers.issuers)
    (after : ReachedIssuers H next.issuers) {replica : Replica} (mirrored : Mirrored replica prev) :
    Mirrored (handleAll replica (diffLedgers prev next)) (some next) ↔
      ∀ ledgers, prev = some ledgers → Kept ledgers next := by
  have coherent : ∀ ledger, prev.map Ledgers.issuers = some ledger → ledger.Coherent H := by
    intro ledger isPrev
    obtain ⟨ledgers, isLedgers, rfl⟩ := Option.map_eq_some_iff.mp isPrev
    exact (before ledgers isLedgers).coherent
  rw [mirrored_iff (handleAll_coherent mirrored.coherent _), view_handleAll_diffLedgers,
    mirrored.view]
  simp only [ledgersView, Option.map_some, View.mk.injEq, revocation_diff_applied, true_and,
    issuer_diff_applied_iff coherent after.coherent, predicate_diff_applied_iff]
  cases prev with
  | none => simp [KeepsIssuers]
  | some ledgers =>
    simp only [Option.map_some, Option.getD_some, Option.some.injEq, forall_eq', KeepsIssuers]
    constructor
    · rintro ⟨issuers, attestations⟩
      exact ⟨issuers, attestations⟩
    · intro kept
      exact ⟨kept.issuers, kept.attestations⟩

end

/-- Applying the diff of two reachable ledgers to the mirror of the first gives the mirror of the
second, and a ledger has no diff to itself, if and only if every ACTIVE issuer of the first is
still recorded in the second and every attestation of the first is in the second. -/
theorem diff_then_apply_iff (H : Hashes) (prev : Option Ledgers) (next : Ledgers)
    (before : ∀ ledgers, prev = some ledgers → ReachedIssuers H ledgers.issuers)
    (after : ReachedIssuers H next.issuers) (replica : Replica) (mirrored : Mirrored replica prev) :
    (Mirrored (handleAll replica (diffLedgers prev next)) (some next) ∧
        diffLedgers (some next) next = []) ↔
      ∀ ledgers, prev = some ledgers → Kept ledgers next := by
  rw [mirrored_diffLedgers_iff before after mirrored, and_iff_left (diffLedgers_self next)]

/-! ## An issuer that is gone -/

theorem empty_mirrored : Mirrored Replica.empty none where
  view := rfl
  cached _ := rfl

def sampleFresh : Ledgers := ⟨Issuers.sampleIssuers, Registry.sampleRegistry, []⟩

/-- One issuer, one revoked credential, one attestation. -/
def sampleFilled : Ledgers where
  issuers := Runs.run (Issuers.step sampleHashes) Issuers.sampleIssuers Issuers.sampleRun
  registry := Runs.run Registry.step Registry.sampleRegistry Registry.sampleRun
  attestations := [padBytes [3]]

theorem sampleFresh_reached : ReachedIssuers sampleHashes sampleFresh.issuers :=
  ⟨.inl (padBytes [1]), Issuers.sampleIssuers, [], rfl, rfl⟩

theorem sampleFilled_reached : ReachedIssuers sampleHashes sampleFilled.issuers :=
  ⟨.inl (padBytes [1]), Issuers.sampleIssuers, Issuers.sampleRun, rfl, rfl⟩

theorem sampleFilled_mirrored :
    Mirrored (handleAll Replica.empty (diffLedgers none sampleFilled)) (some sampleFilled) :=
  (mirrored_diffLedgers_iff (fun _ isPrev => by cases isPrev) sampleFilled_reached
    empty_mirrored).mpr (fun _ isPrev => by cases isPrev)

theorem diff_then_apply_at_sample :
    Mirrored (handleAll Replica.empty (diffLedgers none sampleFilled)) (some sampleFilled) ∧
      diffLedgers (some sampleFilled) sampleFilled = [] :=
  (diff_then_apply_iff sampleHashes none sampleFilled (fun _ isPrev => by cases isPrev)
    sampleFilled_reached Replica.empty empty_mirrored).mpr (fun _ isPrev => by cases isPrev)

theorem sampleFilled_active : sampleFilled.issuers.issuerStatuses.get?
    (issuerKeyHash sampleHashes (padBytes [5])) = some .active := by
  decide_cbv

/-- From a ledger with an ACTIVE issuer to one without it: the mirror keeps the issuer. -/
theorem vanished_issuer_stays :
    ∃ (prev next : Ledgers) (replica : Replica), ReachedIssuers sampleHashes prev.issuers ∧
      ReachedIssuers sampleHashes next.issuers ∧ Mirrored replica (some prev) ∧
      ¬ Mirrored (handleAll replica (diffLedgers (some prev) next)) (some next) := by
  refine ⟨sampleFilled, sampleFresh, _, sampleFilled_reached, sampleFresh_reached,
    sampleFilled_mirrored, ?_⟩
  have before : ∀ ledgers, some sampleFilled = some ledgers →
      ReachedIssuers sampleHashes ledgers.issuers := by
    intro ledgers isPrev
    obtain rfl := Option.some.inj isPrev
    exact sampleFilled_reached
  rw [mirrored_diffLedgers_iff before sampleFresh_reached sampleFilled_mirrored]
  intro kept
  have gone := (kept sampleFilled rfl).issuers _ sampleFilled_active
  obtain ⟨publicKey, stored, _⟩ := announcedKey_eq sampleFilled_reached.coherent sampleFilled_active
  rw [stored] at gone
  cases gone

end OwlId.Sidecar
