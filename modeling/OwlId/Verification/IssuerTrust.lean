import Mathlib
import OwlId.Lib.JsText
import OwlId.Lib.UnicodeCase
import OwlId.Sidecar.DiffApply

/-! # Trusted issuers: the API and the event feed

Two writers fill the table of trusted issuers.  `add_trusted_issuer` stores the public
key as the request spells it; the event feed adds and deactivates rows under the
lower-case hex of the registered key.  Verification compares keys without regard to
case, so several rows can stand for one issuer, and deactivation reaches one of them.

`trusted_mirror_follows_iff` is the exact condition under which no issuer that the
chain does not have as ACTIVE passes the mirror test once the pending events are
processed.
-/

namespace OwlId.Verification

open OwlId.Lib OwlId.Lib.Writes OwlId.Contracts OwlId.ProofSystem OwlId.Sidecar

/-! ## The chain as the sidecar reads it -/

/-- `hexToBytes` of the sidecar's client, which strips a `0x`. -/
def clientHexToBytes (hex : String) : Bytes := hexToBytes (String.ofList (strip0x hex.toList))

/-- The hash an issuer's key stands under; only the first 32 bytes of the key count. -/
def keyHashOf (H : Hashes) (publicKey : String) : Bytes32 :=
  issuerKeyHash H (padBytes (clientHexToBytes publicKey))

def isIssuerTrustedFromLedger (H : Hashes) (ledger : Issuers) (publicKey : String) : Bool :=
  decide (ledger.issuerStatuses.get? (keyHashOf H publicKey) = some .active)

/-! ## The calls -/

structure AddTrustedIssuerRequest where
  publicKey : String
  name : String
  description : Option String
  issuerUrl : Option String

/-- What a call of `add_trusted_issuer` is about to do. -/
inductive CallStage where
  | registering
  | upserting
deriving DecidableEq

/-- The first part of `add_trusted_issuer`; `connection` is the error of a sidecar that cannot
answer. -/
def beginAdd (H : Hashes) (P : Primitives) (ledger : Issuers) (request : AddTrustedIssuerRequest)
    (connection : Except String Unit) : Except ApiError CallStage := do
  let _ ← mapErr (fun _ => ApiError.invalidInput "Invalid public key format")
    (PublicKey.fromHex P request.publicKey)
  mapErr (fun e => ApiError.internal ("Chain issuer-trust check failed: " ++ e)) connection
  return if isIssuerTrustedFromLedger H ledger request.publicKey then .upserting else .registering

/-- `registerIssuer` from the wallet of the sidecar; the circuit takes 32 bytes. -/
def registerOnChain (H : Hashes) (wallet : ZswapCoinPublicKey) (ledger : Issuers)
    (request : AddTrustedIssuerRequest) : Option Issuers :=
  match tryInto32 (clientHexToBytes request.publicKey) with
  | none => none
  | some publicKey => (ledger.registerIssuer H wallet publicKey request.name).toOption

/-! ## The system -/

structure TrustState where
  chain : Issuers
  /-- Events that have not been processed, oldest first. -/
  queue : List SidecarEvent
  replica : Replica
  /-- The calls under way. -/
  calls : List (AddTrustedIssuerRequest × CallStage)

inductive TrustStep where
  | addTrustedIssuer (request : AddTrustedIssuerRequest) (connection : Except String Unit)
  /-- The registration of a call, and whether the call hears that it succeeded. -/
  | register (slot : Nat) (heard : Bool)
  | upsert (slot : Nat)
  /-- A call ends early. -/
  | drop (slot : Nat)
  | transact (tx : Issuers.IssuerTransaction)
  /-- The feed delivers the oldest event. -/
  | process

section

variable (H : Hashes) (P : Primitives) (wallet : ZswapCoinPublicKey)

namespace TrustState

/-- A new contract and an empty table. -/
def start (access : Access) : TrustState where
  chain := ⟨access, 0, .empty, .empty, .empty, ∅⟩
  queue := []
  replica := Replica.empty
  calls := []

/-- A change of the ledger is announced. -/
def setChain (st : TrustState) (next : Issuers) : TrustState :=
  { st with chain := next, queue := st.queue ++ diffIssuer (some st.chain) next }

def addRow (st : TrustState) (request : AddTrustedIssuerRequest) : TrustState :=
  { st with
    replica := { st.replica with
      issuers := st.replica.issuers.add request.publicKey request.name request.description
        request.issuerUrl (some "api") } }

def dropCall (st : TrustState) (slot : Nat) : TrustState :=
  { st with calls := st.calls.eraseIdx slot }

def step (st : TrustState) : TrustStep → TrustState
  | .addTrustedIssuer request connection =>
    match beginAdd H P st.chain request connection with
    | .error _ => st
    | .ok stage => { st with calls := st.calls ++ [(request, stage)] }
  | .register slot heard =>
    match st.calls[slot]? with
    | some (request, .registering) =>
      match registerOnChain H wallet st.chain request with
      | none => st.dropCall slot
      | some next =>
        if heard then
          { st.setChain next with calls := st.calls.set slot (request, .upserting) }
        else (st.setChain next).dropCall slot
    | _ => st
  | .upsert slot =>
    match st.calls[slot]? with
    | some (request, .upserting) => (st.addRow request).dropCall slot
    | _ => st
  | .drop slot => st.dropCall slot
  | .transact tx => st.setChain (st.chain.step H tx)
  | .process =>
    match st.queue with
    | [] => st
    | event :: rest => { st with queue := rest, replica := handle st.replica event }

/-- Every pending event processed. -/
def drained (st : TrustState) : TrustState :=
  { st with queue := [], replica := handleAll st.replica st.queue }

/-- `drained` is what processing leads to. -/
theorem run_process (st : TrustState) :
    Runs.run (step H P wallet) st (List.replicate st.queue.length .process) = st.drained := by
  obtain ⟨chain, queue, replica, calls⟩ := st
  induction queue generalizing replica with
  | nil => rfl
  | cons event rest ih =>
    rw [List.length_cons, List.replicate_succ]
    exact ih (handle replica event)

end TrustState

/-- The mirror test of `verify_one_presentation`. -/
def mirrorTrusts (table : IssuerTable) (issuerHex : String) : Bool :=
  table.list.any fun issuer => eqIgnoreAsciiCase issuer.publicKey issuerHex

/-- It is the test that spares verification the question to the chain. -/
theorem issuerTrust_eq (W : World) (iss issuerHex : String) (table : IssuerTable) :
    issuerTrust W iss issuerHex (table.list.map TrustedIssuer.publicKey) =
      if mirrorTrusts table issuerHex then .ok ()
      else issuerTrust W iss issuerHex [] := by
  rw [issuerTrust, List.any_map]
  rfl

end

/-! ## Spellings -/

theorem hexDecodeChars_map_asciiLower (cs : List Char) :
    hexDecodeChars (cs.map asciiLower) = hexDecodeChars cs := by
  induction cs using hexDecodeChars.induct with
  | case1 => rfl
  | case2 c => rfl
  | case3 a b rest ih =>
    simp only [List.map_cons, hexDecodeChars, hexVal_asciiLower, ih]

/-- Case makes no difference to the bytes. -/
theorem hexDecode_of_eqIgnoreAsciiCase {s t : String} (same : eqIgnoreAsciiCase s t = true) :
    hexDecode s = hexDecode t := by
  have lowered : s.toList.map asciiLower = t.toList.map asciiLower :=
    String.ofList_injective (by simpa [eqIgnoreAsciiCase, toAsciiLowercase] using same)
  rw [hexDecode, hexDecode, ← hexDecodeChars_map_asciiLower, lowered,
    hexDecodeChars_map_asciiLower]

/-- There is no `0x` to strip from what decodes. -/
theorem clientHexToBytes_of_decode {hex : String} {bs : Bytes} (decoded : hexDecode hex = some bs) :
    clientHexToBytes hex = bs := by
  have unmarked : strip0x hex.toList = hex.toList := by
    unfold hexDecode at decoded
    cases chars : hex.toList with
    | nil => rfl
    | cons a rest =>
      cases rest with
      | nil => rfl
      | cons b rest =>
        rw [strip0x, if_neg]
        rintro ⟨_, rfl⟩
        have notDigit : hexVal 'x' = none := by decide
        simp [chars, hexDecodeChars, notDigit] at decoded
  rw [clientHexToBytes, unmarked, String.ofList_toList]
  exact hexToBytes_of_decode decoded

theorem padBytes_toList (word : Bytes32) : padBytes word.toList = word := by
  ext i inside
  simp [padBytes]

section Spellings

variable {H : Hashes}

theorem keyHashOf_bytesHex (publicKey : Bytes32) :
    keyHashOf H (bytesHex publicKey) = issuerKeyHash H publicKey := by
  rw [keyHashOf, bytesHex, clientHexToBytes_of_decode (hexDecode_hexEncode _), padBytes_toList]

theorem keyHashOf_of_eqIgnoreAsciiCase {s t : String} (hex : (hexDecode s).isSome = true)
    (same : eqIgnoreAsciiCase s t = true) : keyHashOf H s = keyHashOf H t := by
  obtain ⟨bs, decoded⟩ := Option.isSome_iff_exists.mp hex
  have decoded' : hexDecode t = some bs := (hexDecode_of_eqIgnoreAsciiCase same).symm.trans decoded
  rw [keyHashOf, keyHashOf, clientHexToBytes_of_decode decoded,
    clientHexToBytes_of_decode decoded']

/-- The spelling the events use: the lower-case hex of the key that is registered. -/
def Announced (H : Hashes) (ledger : Issuers) (key : String) : Prop :=
  ∃ publicKey, ledger.issuerKeys.get? (keyHashOf H key) = some publicKey ∧ bytesHex publicKey = key

theorem Announced.hex {ledger : Issuers} {key : String} (announced : Announced H ledger key) :
    (hexDecode key).isSome = true := by
  obtain ⟨publicKey, _, rfl⟩ := announced
  rw [bytesHex, hexDecode_hexEncode]
  rfl

/-- An entry is announced under its own key. -/
theorem announced_entry {ledger : Issuers} (coherent : ledger.Coherent H) {keyHash : Bytes32}
    {status : IssuerStatus} (found : ledger.issuerStatuses.get? keyHash = some status) :
    keyHashOf H (announcedKey ledger keyHash) = keyHash ∧
      Announced H ledger (announcedKey ledger keyHash) := by
  obtain ⟨publicKey, stored, spelled⟩ := announcedKey_eq coherent found
  have hash : keyHashOf H (announcedKey ledger keyHash) = keyHash := by
    rw [spelled, keyHashOf_bytesHex, (coherent.hashed keyHash publicKey stored).1]
  exact ⟨hash, publicKey, by rw [hash, stored], spelled.symm⟩

theorem Announced.announcedKey_eq {ledger : Issuers} {key : String}
    (announced : Announced H ledger key) : announcedKey ledger (keyHashOf H key) = key := by
  obtain ⟨publicKey, stored, spelled⟩ := announced
  rw [announcedKey_of_recorded stored, spelled]

end Spellings

/-! ## One change of the ledger -/

/-- Nothing, or what a successful call does. -/
def Advances (H : Hashes) (ledger next : Issuers) : Prop :=
  next = ledger ∨ ∃ call, Issuers.Changed H ledger call next

section Advance

variable {H : Hashes} {ledger next : Issuers}

theorem advances_step (ledger : Issuers) (tx : Issuers.IssuerTransaction) :
    Advances H ledger (ledger.step H tx) := by
  cases returns : ledger.execute H tx with
  | error message =>
    left
    rw [Issuers.step, returns]
  | ok next =>
    right
    rw [Issuers.step, returns]
    exact ⟨tx.call, Issuers.execute_changed returns⟩

theorem Advances.coherent (advances : Advances H ledger next) (coherent : ledger.Coherent H) :
    next.Coherent H := by
  cases advances with
  | inl same => rwa [same]
  | inr changed =>
    obtain ⟨call, changed⟩ := changed
    exact Issuers.changed_coherent changed coherent

/-- A registered key stays. -/
theorem Advances.announced (advances : Advances H ledger next) (coherent : ledger.Coherent H)
    {key : String} (announced : Announced H ledger key) : Announced H next key := by
  cases advances with
  | inl same => rwa [same]
  | inr changed =>
    obtain ⟨call, changed⟩ := changed
    obtain ⟨publicKey, stored, spelled⟩ := announced
    have named : ledger.issuerNames.member (keyHashOf H key) = true := by
      rw [coherent.names, ← coherent.keys, LedgerMap.member, stored]
      rfl
    obtain ⟨name, called⟩ := Option.isSome_iff_exists.mp named
    have kept := Issuers.changed_recordedAs changed coherent ⟨stored, called⟩
    exact ⟨publicKey, kept.key, spelled⟩

/-- What a diff writes is what the new ledger says, under the spelling it announces. -/
theorem diffWrites_toward (coherent : next.Coherent H) (prev : Option Issuers) :
    Toward (isIssuerTrustedFromLedger H next) ((diffIssuer prev next).filterMap issuerWrite) := by
  intro w written
  obtain ⟨keyHash, status, found, _, rfl⟩ := mem_issuerWrites.mp written
  obtain ⟨hash, _⟩ := announced_entry coherent found
  simp [isIssuerTrustedFromLedger, hash, found]

theorem diffWrites_announced (coherent : next.Coherent H) {prev : Option Issuers} {key : String}
    (written : key ∈ ((diffIssuer prev next).filterMap issuerWrite).map Prod.fst) :
    Announced H next key := by
  obtain ⟨w, member, rfl⟩ := List.mem_map.mp written
  obtain ⟨keyHash, status, found, _, rfl⟩ := mem_issuerWrites.mp member
  exact (announced_entry coherent found).2

/-- An issuer whose trust changes is announced, if its key is spelled as the events do. -/
theorem mem_diffWrites (coherent : next.Coherent H) {key : String}
    (announced : Announced H next key)
    (changed : isIssuerTrustedFromLedger H ledger key ≠ isIssuerTrustedFromLedger H next key) :
    key ∈ ((diffIssuer (some ledger) next).filterMap issuerWrite).map Prod.fst := by
  obtain ⟨publicKey, stored, _⟩ := id announced
  have present : next.issuerStatuses.member (keyHashOf H key) = true := by
    rw [← coherent.keys, LedgerMap.member, stored]
    rfl
  obtain ⟨status, found⟩ := Option.isSome_iff_exists.mp present
  rw [List.mem_map]
  refine ⟨_, mem_issuerWrites.mpr ⟨keyHashOf H key, status, found, ?_, rfl⟩,
    announced.announcedKey_eq⟩
  intro same
  have before : ledger.issuerStatuses.get? (keyHashOf H key) = some status := same
  have after : next.issuerStatuses.get? (keyHashOf H key) = some status := found
  exact changed (by rw [isIssuerTrustedFromLedger, isIssuerTrustedFromLedger, before, after])

end Advance

/-! ## What holds along a run -/

namespace TrustState

def pendingWrites (st : TrustState) : List (String × Bool) := st.queue.filterMap issuerWrite

/-- Whether the row under exactly this key is active once the pending events are processed. -/
def activeAfter (st : TrustState) : String → Bool :=
  writeAll st.replica.issuers.isTrusted st.pendingWrites

theorem drained_isTrusted (st : TrustState) :
    st.drained.replica.issuers.isTrusted = st.activeAfter := by
  have view := view_handleAll st.replica st.queue
  exact congrArg View.trusted view

end TrustState

structure TrustSound (H : Hashes) (st : TrustState) : Prop where
  coherent : st.chain.Coherent H
  ends : Ends (isIssuerTrustedFromLedger H st.chain) st.pendingWrites
  announced : ∀ key ∈ st.pendingWrites.map Prod.fst, Announced H st.chain key
  rows : ∀ row ∈ st.replica.issuers.rows, (hexDecode row.publicKey).isSome = true
  calls : ∀ call ∈ st.calls, (hexDecode call.1.publicKey).isSome = true

/-- Every row that ends up active is of an issuer the chain has as ACTIVE. -/
def RowsFollow (H : Hashes) (st : TrustState) : Prop :=
  ∀ key, st.activeAfter key = true → isIssuerTrustedFromLedger H st.chain key = true

/-- No issuer that the chain does not have as ACTIVE passes the mirror test once the pending
events are processed, however its key is spelled. -/
def MirrorFollows (H : Hashes) (st : TrustState) : Prop :=
  ∀ issuerHex, isIssuerTrustedFromLedger H st.chain issuerHex = false →
    mirrorTrusts st.drained.replica.issuers issuerHex = false

section Table

theorem isTrusted_iff {table : IssuerTable} {key : String} :
    table.isTrusted key = true ↔ ∃ row ∈ table.list, row.publicKey = key := by
  unfold IssuerTable.isTrusted IssuerTable.list
  cases found : table.find key with
  | some row =>
    obtain ⟨member, same⟩ := Table.find_eq_some.mp found
    constructor
    · intro active
      exact ⟨row, List.mem_filter.mpr ⟨member, active⟩, same⟩
    · rintro ⟨other, listed, same'⟩
      obtain ⟨member', active⟩ := List.mem_filter.mp listed
      have hit : table.find key = some other := Table.find_eq_some.mpr ⟨member', same'⟩
      rw [found] at hit
      cases hit
      exact active
  | none =>
    refine iff_of_false (by simp) ?_
    rintro ⟨other, listed, same⟩
    obtain ⟨member, _⟩ := List.mem_filter.mp listed
    have hit : table.find key = some other := Table.find_eq_some.mpr ⟨member, same⟩
    rw [found] at hit
    cases hit

theorem mirrorTrusts_iff {table : IssuerTable} {issuerHex : String} :
    mirrorTrusts table issuerHex = true ↔
      ∃ key, table.isTrusted key = true ∧ eqIgnoreAsciiCase key issuerHex = true := by
  rw [mirrorTrusts, List.any_eq_true]
  constructor
  · intro ⟨row, listed, same⟩
    exact ⟨row.publicKey, isTrusted_iff.mpr ⟨row, listed, rfl⟩, same⟩
  · intro ⟨key, trusted, same⟩
    obtain ⟨row, listed, rfl⟩ := isTrusted_iff.mp trusted
    exact ⟨row, listed, same⟩

end Table

section Follow

variable {H : Hashes} {st : TrustState}

/-- A key that ends up active is hex text. -/
theorem TrustSound.hex (sound : TrustSound H st) {key : String}
    (active : st.activeAfter key = true) : (hexDecode key).isSome = true := by
  by_cases pending : key ∈ st.pendingWrites.map Prod.fst
  · exact (sound.announced key pending).hex
  · rw [TrustState.activeAfter, writeAll_of_notMem pending] at active
    obtain ⟨row, listed, rfl⟩ := isTrusted_iff.mp active
    exact sound.rows row (List.mem_filter.mp listed).1

theorem mirrorFollows_iff (sound : TrustSound H st) : MirrorFollows H st ↔ RowsFollow H st := by
  constructor
  · intro follows key active
    by_contra untrusted
    have refused := follows key (by simpa using untrusted)
    have accepted : mirrorTrusts st.drained.replica.issuers key = true :=
      mirrorTrusts_iff.mpr ⟨key, by rw [st.drained_isTrusted]; exact active,
        by simp [eqIgnoreAsciiCase]⟩
    rw [accepted] at refused
    cases refused
  · intro follows issuerHex untrusted
    by_contra accepted
    obtain ⟨key, active, same⟩ := mirrorTrusts_iff.mp (by simpa using accepted)
    rw [st.drained_isTrusted] at active
    have trusted := follows key active
    rw [isIssuerTrustedFromLedger, keyHashOf_of_eqIgnoreAsciiCase (sound.hex active) same] at trusted
    rw [isIssuerTrustedFromLedger, trusted] at untrusted
    cases untrusted

end Follow

/-! ## The ledger changes -/

section Change

variable {H : Hashes} {st : TrustState} {next : Issuers}

theorem pendingWrites_setChain (st : TrustState) (next : Issuers) :
    (st.setChain next).pendingWrites =
      st.pendingWrites ++ (diffIssuer (some st.chain) next).filterMap issuerWrite := by
  rw [TrustState.pendingWrites, TrustState.setChain, List.filterMap_append]
  rfl

theorem setChain_sound (sound : TrustSound H st) (advances : Advances H st.chain next) :
    TrustSound H (st.setChain next) := by
  have coherent := advances.coherent sound.coherent
  refine ⟨coherent, ?_, ?_, sound.rows, sound.calls⟩
  · rw [pendingWrites_setChain]
    apply sound.ends.append (diffWrites_toward coherent _)
    intro key pending unannounced
    by_contra changed
    have announced := advances.announced sound.coherent (sound.announced key pending)
    exact unannounced (mem_diffWrites coherent announced changed)
  · intro key written
    rw [pendingWrites_setChain, List.map_append, List.mem_append] at written
    cases written with
    | inl pending => exact advances.announced sound.coherent (sound.announced key pending)
    | inr new => exact diffWrites_announced coherent new

/-- An issuer loses trust in a change only if no active row spells its key in another way. -/
def KeepsUp (H : Hashes) (st : TrustState) (next : Issuers) : Prop :=
  ∀ row ∈ st.replica.issuers.list, isIssuerTrustedFromLedger H st.chain row.publicKey = true →
    isIssuerTrustedFromLedger H next row.publicKey = false → Announced H st.chain row.publicKey

theorem setChain_follow_iff (sound : TrustSound H st) (advances : Advances H st.chain next)
    (follow : RowsFollow H st) : RowsFollow H (st.setChain next) ↔ KeepsUp H st next := by
  have coherent := advances.coherent sound.coherent
  have after : (st.setChain next).activeAfter =
      writeAll st.activeAfter ((diffIssuer (some st.chain) next).filterMap issuerWrite) := by
    rw [TrustState.activeAfter, pendingWrites_setChain, writeAll_append]
    rfl
  constructor
  · intro following row listed before lost
    by_contra foreign
    -- neither the queue nor the diff touches a row under another spelling
    have unpending : row.publicKey ∉ st.pendingWrites.map Prod.fst :=
      fun pending => foreign (sound.announced _ pending)
    have unannounced :
        row.publicKey ∉ ((diffIssuer (some st.chain) next).filterMap issuerWrite).map Prod.fst := by
      intro written
      obtain ⟨w, member, same⟩ := List.mem_map.mp written
      obtain ⟨keyHash, status, found, changed, rfl⟩ := mem_issuerWrites.mp member
      have same' : announcedKey next keyHash = row.publicKey := same
      have hash := (announced_entry coherent found).1
      rw [same'] at hash
      have active : st.chain.issuerStatuses.get? keyHash = some .active := by
        rw [← hash]
        simpa [isIssuerTrustedFromLedger] using before
      obtain ⟨_, here⟩ := announced_entry sound.coherent active
      have kept := (advances.announced sound.coherent here).announcedKey_eq
      rw [(announced_entry sound.coherent active).1, same'] at kept
      exact foreign (kept ▸ here)
    have active : (st.setChain next).activeAfter row.publicKey = true := by
      rw [after, writeAll_of_notMem unannounced, TrustState.activeAfter,
        writeAll_of_notMem unpending]
      exact isTrusted_iff.mpr ⟨row, listed, rfl⟩
    have trusted := following row.publicKey active
    have lost' : isIssuerTrustedFromLedger H next row.publicKey = true := trusted
    rw [lost] at lost'
    cases lost'
  · intro keepsUp key active
    rw [after] at active
    show isIssuerTrustedFromLedger H next key = true
    by_cases announced :
        key ∈ ((diffIssuer (some st.chain) next).filterMap issuerWrite).map Prod.fst
    · rwa [writeAll_of_mem (diffWrites_toward coherent _) announced] at active
    · rw [writeAll_of_notMem announced] at active
      have before := follow key active
      by_contra lost
      have spelled : Announced H st.chain key := by
        by_cases pending : key ∈ st.pendingWrites.map Prod.fst
        · exact sound.announced key pending
        · rw [TrustState.activeAfter, writeAll_of_notMem pending] at active
          obtain ⟨row, listed, rfl⟩ := isTrusted_iff.mp active
          exact keepsUp row listed before (by simpa using lost)
      have changed : isIssuerTrustedFromLedger H st.chain key ≠
          isIssuerTrustedFromLedger H next key := by
        rw [before]
        exact fun same => lost same.symm
      exact announced
        (mem_diffWrites coherent (advances.announced sound.coherent spelled) changed)

/-- A registration takes trust from nobody. -/
theorem registerOnChain_keepsUp {wallet : ZswapCoinPublicKey} {request : AddTrustedIssuerRequest}
    (registered : registerOnChain H wallet st.chain request = some next) :
    Advances H st.chain next ∧ KeepsUp H st next := by
  unfold registerOnChain at registered
  split at registered
  · cases registered
  · rename_i publicKey _
    cases returns : st.chain.registerIssuer H wallet publicKey request.name with
    | error message =>
      rw [returns] at registered
      cases registered
    | ok ledger =>
      rw [returns] at registered
      cases registered
      have changed := Issuers.registerIssuer_changed returns
      refine ⟨.inr ⟨_, changed⟩, ?_⟩
      intro row _ before lost
      have status := Issuers.changed_status changed (keyHashOf H row.publicKey)
      have active : st.chain.issuerStatuses.get? (keyHashOf H row.publicKey) = some .active := by
        simpa [isIssuerTrustedFromLedger] using before
      have still : next.issuerStatuses.get? (keyHashOf H row.publicKey) = some .active := by
        rw [status, active]
        by_cases here : keyHashOf H row.publicKey = issuerKeyHash H publicKey
        · simp [Issuers.IssuerCall.outcome, here]
        · have differs : (keyHashOf H row.publicKey == issuerKeyHash H publicKey) = false := by
            simpa using here
          simp [Issuers.IssuerCall.outcome, List.lookup, differs]
      simp [isIssuerTrustedFromLedger, still] at lost

end Change

/-! ## The table changes -/

section Rows

variable {H : Hashes} {st : TrustState}

theorem activeAfter_addRow (st : TrustState) (request : AddTrustedIssuerRequest) (key : String)
    (unwritten : key ∉ st.pendingWrites.map Prod.fst) :
    (st.addRow request).activeAfter key =
      (decide (key = request.publicKey) || st.activeAfter key) := by
  have pending : (st.addRow request).pendingWrites = st.pendingWrites := rfl
  rw [TrustState.activeAfter, TrustState.activeAfter, pending, writeAll_of_notMem unwritten,
    writeAll_of_notMem unwritten]
  exact IssuerTable.isTrusted_add _ _ _ _ _ _ key

theorem addRow_sound (sound : TrustSound H st) {request : AddTrustedIssuerRequest}
    (hex : (hexDecode request.publicKey).isSome = true) : TrustSound H (st.addRow request) := by
  refine ⟨sound.coherent, sound.ends, sound.announced, ?_, sound.calls⟩
  intro row member
  have found := Table.find_eq_some.mpr ⟨member, rfl⟩
  simp only [TrustState.addRow, IssuerTable.add, Table.find_insert] at found
  split at found
  · cases found
    exact hex
  · exact sound.rows row (Table.find_eq_some.mp found).1

theorem addRow_follow_iff (sound : TrustSound H st) (follow : RowsFollow H st)
    (request : AddTrustedIssuerRequest) :
    RowsFollow H (st.addRow request) ↔
      isIssuerTrustedFromLedger H st.chain request.publicKey = true ∨
        request.publicKey ∈ st.pendingWrites.map Prod.fst := by
  have pending : (st.addRow request).pendingWrites = st.pendingWrites := rfl
  constructor
  · intro following
    by_contra neither
    obtain ⟨untrusted, unwritten⟩ := not_or.mp neither
    apply untrusted
    apply following request.publicKey
    rw [activeAfter_addRow st request _ unwritten]
    simp
  · intro either key active
    show isIssuerTrustedFromLedger H st.chain key = true
    by_cases written : key ∈ st.pendingWrites.map Prod.fst
    · -- the pending event is processed after the upsert
      apply follow key
      rw [TrustState.activeAfter, pending] at active
      rw [TrustState.activeAfter, sound.ends key written]
      rwa [sound.ends key written] at active
    · rw [activeAfter_addRow st request key written, Bool.or_eq_true, decide_eq_true_eq] at active
      cases active with
      | inl same =>
        subst same
        exact either.resolve_right written
      | inr before => exact follow key before

/-- A row of the table after an event was there before under its key, or the event added it. -/
theorem handleIssuer_rows {table : IssuerTable} {publicKey status name : String}
    {row : TrustedIssuer} (member : row ∈ (handleIssuer table publicKey status name).rows) :
    (row.publicKey = publicKey ∧ status = "ACTIVE") ∨
      ∃ old ∈ table.rows, old.publicKey = row.publicKey := by
  have stays : row ∈ table.rows → ∃ old ∈ table.rows, old.publicKey = row.publicKey :=
    fun before => ⟨row, before, rfl⟩
  have inserted : ∀ new : TrustedIssuer, row ∈ (table.insert new).rows →
      row = new ∨ row ∈ table.rows := by
    intro new member
    have found := Table.find_eq_some.mpr ⟨member, rfl⟩
    rw [Table.find_insert] at found
    split at found
    · exact .inl (Option.some.inj found).symm
    · exact .inr (Table.find_eq_some.mp found).1
  unfold handleIssuer at member
  split at member
  · rename_i active
    cases inserted _ member with
    | inl new => exact .inl ⟨by rw [new], active⟩
    | inr before => exact .inr (stays before)
  · split at member
    · split at member
      · rename_i issuer found
        cases inserted _ member with
        | inl new => exact .inr ⟨issuer, (Table.find_eq_some.mp found).1, by rw [new]⟩
        | inr before => exact .inr (stays before)
      · exact .inr (stays member)
    · exact .inr (stays member)

theorem process_sound {event : SidecarEvent} {rest : List SidecarEvent} (sound : TrustSound H st)
    (oldest : st.queue = event :: rest) :
    TrustSound H { st with queue := rest, replica := handle st.replica event } := by
  have split : st.pendingWrites = (issuerWrite event).toList ++ rest.filterMap issuerWrite := by
    rw [TrustState.pendingWrites, oldest]
    cases written : issuerWrite event with
    | none => simp [written]
    | some w => simp [written]
  refine ⟨sound.coherent, ?_, ?_, ?_, sound.calls⟩
  · have ends := sound.ends
    rw [split] at ends
    exact ends.tail
  · intro key written
    apply sound.announced key
    rw [split, List.map_append]
    exact List.mem_append_right _ written
  · intro row member
    cases event with
    | revocation credentialId status issuerKeyHash reason => exact sound.rows row member
    | attestation attestKey => exact sound.rows row member
    | issuer publicKeyHash status publicKey name =>
      cases handleIssuer_rows member with
      | inl added =>
        obtain ⟨same, active⟩ := added
        rw [same]
        apply Announced.hex
        apply sound.announced publicKey
        simp [split, issuerWrite, active]
      | inr before =>
        obtain ⟨old, member, same⟩ := before
        rw [← same]
        exact sound.rows old member

/-- Processing an event is part of what the rows end up as. -/
theorem process_activeAfter {event : SidecarEvent} {rest : List SidecarEvent}
    (oldest : st.queue = event :: rest) :
    TrustState.activeAfter { st with queue := rest, replica := handle st.replica event } =
      st.activeAfter := by
  have drained := st.drained_isTrusted
  rw [TrustState.drained, oldest] at drained
  rw [← TrustState.drained_isTrusted, ← drained]
  rfl

end Rows

/-! ## Steps -/

/-- The condition on a step, in the state before it. -/
def FollowsUp (H : Hashes) (st : TrustState) : TrustStep → Prop
  | .upsert slot => ∀ request, st.calls[slot]? = some (request, .upserting) →
      isIssuerTrustedFromLedger H st.chain request.publicKey = true ∨
        request.publicKey ∈ st.pendingWrites.map Prod.fst
  | .transact tx => KeepsUp H st (st.chain.step H tx)
  | _ => True

section Steps

variable {H : Hashes} {P : Primitives} {wallet : ZswapCoinPublicKey} {st : TrustState}

theorem hex_of_beginAdd {ledger : Issuers} {request : AddTrustedIssuerRequest}
    {connection : Except String Unit} {stage : CallStage}
    (begun : beginAdd H P ledger request connection = .ok stage) :
    (hexDecode request.publicKey).isSome = true := by
  cases decoded : hexDecode request.publicKey with
  | some bytes => rfl
  | none =>
    simp [beginAdd, PublicKey.fromHex, decoded, okOr, mapErr, bind, Except.bind] at begun

theorem calls_sound (sound : TrustSound H st) {calls : List (AddTrustedIssuerRequest × CallStage)}
    (hex : ∀ call ∈ calls, (hexDecode call.1.publicKey).isSome = true) :
    TrustSound H { st with calls } :=
  ⟨sound.coherent, sound.ends, sound.announced, sound.rows, hex⟩

theorem dropCall_sound (sound : TrustSound H st) (slot : Nat) : TrustSound H (st.dropCall slot) :=
  calls_sound sound fun call member => sound.calls call (List.mem_of_mem_eraseIdx member)

theorem step_sound (sound : TrustSound H st) (s : TrustStep) :
    TrustSound H (st.step H P wallet s) := by
  cases s with
  | addTrustedIssuer request connection =>
    simp only [TrustState.step]
    split
    · exact sound
    · rename_i stage begun
      apply calls_sound sound
      intro call member
      cases List.mem_append.mp member with
      | inl before => exact sound.calls call before
      | inr new =>
        rw [List.mem_singleton.mp new]
        exact hex_of_beginAdd begun
  | register slot heard =>
    simp only [TrustState.step]
    split
    · rename_i request found
      have hex := sound.calls _ (List.mem_of_getElem? found)
      split
      · exact dropCall_sound sound slot
      · rename_i next registered
        have advanced := setChain_sound sound (registerOnChain_keepsUp registered).1
        split
        · apply calls_sound advanced
          intro call member
          cases List.mem_or_eq_of_mem_set member with
          | inl before => exact sound.calls call before
          | inr new =>
            rw [new]
            exact hex
        · exact dropCall_sound advanced slot
    · exact sound
  | upsert slot =>
    simp only [TrustState.step]
    split
    · rename_i request found
      exact dropCall_sound (addRow_sound sound (sound.calls _ (List.mem_of_getElem? found))) slot
    · exact sound
  | drop slot => exact dropCall_sound sound slot
  | transact tx => exact setChain_sound sound (advances_step st.chain tx)
  | process =>
    simp only [TrustState.step]
    split
    · exact sound
    · rename_i event rest oldest
      exact process_sound sound oldest

/-- The calls under way do not matter for the rows. -/
theorem rowsFollow_dropCall (slot : Nat) : RowsFollow H (st.dropCall slot) ↔ RowsFollow H st :=
  Iff.rfl

/-- Rows that follow the chain still do after a step, if and only if the step follows up. -/
theorem step_follow_iff (sound : TrustSound H st) (follow : RowsFollow H st) (s : TrustStep) :
    RowsFollow H (st.step H P wallet s) ↔ FollowsUp H st s := by
  cases s with
  | addTrustedIssuer request connection =>
    refine iff_of_true ?_ trivial
    simp only [TrustState.step]
    split <;> exact follow
  | register slot heard =>
    refine iff_of_true ?_ trivial
    simp only [TrustState.step]
    split
    · split
      · exact (rowsFollow_dropCall slot).mpr follow
      · rename_i next registered
        obtain ⟨advances, keepsUp⟩ := registerOnChain_keepsUp registered
        have following := (setChain_follow_iff sound advances follow).mpr keepsUp
        split
        · exact following
        · exact (rowsFollow_dropCall slot).mpr following
    · exact follow
  | upsert slot =>
    simp only [TrustState.step, FollowsUp]
    split
    · rename_i request found
      rw [rowsFollow_dropCall, addRow_follow_iff sound follow]
      constructor
      · intro either other isOther
        rw [found] at isOther
        cases isOther
        exact either
      · intro each
        exact each request found
    · rename_i otherwise
      refine iff_of_true follow ?_
      intro request found
      exact absurd found (otherwise request)
  | drop slot => exact iff_of_true follow trivial
  | transact tx => exact setChain_follow_iff sound (advances_step st.chain tx) follow
  | process =>
    refine iff_of_true ?_ trivial
    simp only [TrustState.step]
    split
    · exact follow
    · rename_i event rest oldest
      intro key active
      rw [process_activeAfter oldest] at active
      exact follow key active

end Steps

/-! ## Runs -/

section Runs

variable (H : Hashes) (P : Primitives) (wallet : ZswapCoinPublicKey) (access : Access)

def trustRun (steps : List TrustStep) : TrustState :=
  Runs.run (TrustState.step H P wallet) (TrustState.start access) steps

theorem start_sound : TrustSound H (TrustState.start access) where
  coherent :=
    ⟨fun _ => rfl, fun _ => rfl, by simp [TrustState.start, LedgerMap.member], rfl, rfl,
      by simp [TrustState.start], by simp [TrustState.start]⟩
  ends := by
    intro key pending
    cases pending
  announced := by
    intro key pending
    cases pending
  rows := by
    intro row member
    cases member
  calls := by
    intro call member
    cases member

theorem trustRun_sound (steps : List TrustStep) : TrustSound H (trustRun H P wallet access steps) :=
  Runs.run_invariant (TrustSound H) (start_sound H access) (fun _ s sound => step_sound sound s) steps

/-- Along every run of API calls, transactions and processed events, no issuer that is not ACTIVE
on chain passes the mirror test once the pending events are processed, if and only if every upsert
is of an issuer that is ACTIVE or whose event under this very spelling is still pending, and no
transaction takes trust from an issuer with an active row under another spelling than the events
use. -/
theorem trusted_mirror_follows_iff (steps : List TrustStep) :
    (∀ past, past <+: steps → MirrorFollows H (trustRun H P wallet access past)) ↔
      ∀ past next, past ++ [next] <+: steps →
        FollowsUp H (trustRun H P wallet access past) next := by
  have stepped : ∀ past next, trustRun H P wallet access (past ++ [next]) =
      (trustRun H P wallet access past).step H P wallet next :=
    fun past next => Runs.run_concat _ _ past next
  have sound := trustRun_sound H P wallet access
  constructor
  · intro follows past next reached
    have before := (mirrorFollows_iff (sound past)).mp
      (follows past ((List.prefix_append _ _).trans reached))
    have after := (mirrorFollows_iff (sound _)).mp (follows _ reached)
    rw [stepped] at after
    exact (step_follow_iff (sound past) before next).mp after
  · intro followsUp
    simp only [mirrorFollows_iff (sound _)]
    refine Runs.reached_induction (fun key active => ?_) fun past next reached before => ?_
    · cases active
    · rw [stepped]
      exact (step_follow_iff (sound past) before next).mpr (followsUp past next reached)

end Runs

/-! ## A key in capitals -/

def sampleKey : String := "D75A980182B10AB7D54BFED3C964073A0EE172F3DAA62325AF021A68F707511A"

def sampleOwner : ZswapCoinPublicKey := padBytes [1]

def sampleAccess : Access := ⟨.inl sampleOwner, true, false⟩

/-- The issuer is registered over the API, its event is processed, and then it is deactivated. -/
def sampleTrust : List TrustStep :=
  [.addTrustedIssuer ⟨sampleKey, "Bank", none, none⟩ (.ok ()), .register 0 true, .upsert 0, .process,
    .transact ⟨sampleOwner, .deactivateIssuer (keyHashOf sampleHashes sampleKey)⟩, .process]

theorem deactivated_issuer_trusted :
    (trustRun sampleHashes (samplePrimitives []) sampleOwner sampleAccess sampleTrust).queue = [] ∧
      (trustRun sampleHashes (samplePrimitives []) sampleOwner sampleAccess
        sampleTrust).chain.issuerStatuses.get? (keyHashOf sampleHashes sampleKey) =
          some .deactivated ∧
      mirrorTrusts (trustRun sampleHashes (samplePrimitives []) sampleOwner sampleAccess
        sampleTrust).replica.issuers sampleKey = true ∧
      ¬ MirrorFollows sampleHashes
        (trustRun sampleHashes (samplePrimitives []) sampleOwner sampleAccess sampleTrust) := by
  generalize ends : trustRun sampleHashes (samplePrimitives []) sampleOwner sampleAccess
    sampleTrust = st
  have facts : st.queue = [] ∧ st.chain.issuerStatuses.get? (keyHashOf sampleHashes sampleKey) =
      some .deactivated ∧ mirrorTrusts st.replica.issuers sampleKey = true := by
    rw [← ends]
    decide_cbv
  obtain ⟨processed, deactivated, accepted⟩ := facts
  refine ⟨processed, deactivated, accepted, ?_⟩
  intro follows
  have untrusted : isIssuerTrustedFromLedger sampleHashes st.chain sampleKey = false := by
    simp [isIssuerTrustedFromLedger, deactivated]
  have refused := follows sampleKey untrusted
  rw [TrustState.drained, processed] at refused
  exact Bool.false_ne_true (refused.symm.trans accepted)

end OwlId.Verification
