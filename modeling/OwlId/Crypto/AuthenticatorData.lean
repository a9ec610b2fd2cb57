import Mathlib
import OwlId.Lib.Bytes
import OwlId.Lib.Results
import OwlId.ProofSystem.Keys

/-! # Authenticator data

What an authenticator signs: a hash of the relying party, flags, a counter, on registration
the new credential with its COSE key, and the bytes of extensions.  The parser finds the end
of the key by encoding it again; `parse_exact_iff` says for which keys that is where the key
ends.
-/

namespace OwlId.Crypto

open OwlId.Lib
open OwlId.ProofSystem (SignatureError SignatureAlgorithm PublicKey Primitives)

inductive WebAuthnError where
  | invalidAuthenticatorData
  | invalidClientDataJson
  | invalidSignature (message : String)
  | challengeMismatch
  | invalidCbor (message : String)
  | invalidCoseKey
  | base64Error (message : String)
  | jsonError (message : String)
  | signatureError (e : SignatureError)
  | counterReplay
  | originMismatch
  | userVerificationRequired

/-! ## Reading a buffer -/

/-- `&data[i..j]`, which panics outside the buffer. -/
def slice (data : Bytes) (i j : Nat) : Option Bytes :=
  if i ≤ j ∧ j ≤ data.length then some ((data.drop i).take (j - i)) else none

/-- A big-endian number. -/
def beNat (bytes : Bytes) : Nat := bytes.foldl (fun n b => 256 * n + b.toNat) 0

theorem slice_isSome (data : Bytes) {i j : Nat} (order : i ≤ j) (inside : j ≤ data.length) :
    ∃ bytes, slice data i j = some bytes := ⟨_, if_pos ⟨order, inside⟩⟩

theorem slice_append {before bytes after : Bytes} {i j : Nat} (start : before.length = i)
    (stop : i + bytes.length = j) : slice (before ++ (bytes ++ after)) i j = some bytes := by
  subst start stop
  rw [slice, if_pos ⟨Nat.le_add_right _ _, by simp⟩, List.drop_left, Nat.add_sub_cancel_left,
    List.take_left]

/-- The bytes from `i` to the end. -/
theorem slice_drop {before bytes : Bytes} {i : Nat} (start : before.length = i) :
    slice (before ++ bytes) i (before ++ bytes).length = some bytes := by
  have whole : slice (before ++ (bytes ++ [])) i (before ++ bytes).length = some bytes :=
    slice_append start (by rw [List.length_append, start])
  rwa [List.append_nil] at whole

/-! ## CBOR -/

/-- The values of the CBOR library. -/
inductive CborValue where
  | integer (n : Int)
  | bytes (b : Bytes)
  | float (bits : UInt64)
  | text (text : String)
  | bool (b : Bool)
  | null
  | tag (tag : Nat) (value : CborValue)
  | array (items : List CborValue)
  | map (entries : List (CborValue × CborValue))

namespace CborValue

def asInteger : CborValue → Option Int
  | .integer n => some n
  | _ => none

def asBytes : CborValue → Option Bytes
  | .bytes b => some b
  | _ => none

def asMap : CborValue → Option (List (CborValue × CborValue))
  | .map entries => some entries
  | _ => none

/-- An integer that fits in `bits` bits with a sign. -/
def asSigned (bits : Nat) (value : CborValue) : Option Int :=
  value.asInteger.bind fun n => if -2 ^ (bits - 1) ≤ n ∧ n < 2 ^ (bits - 1) then some n else none

end CborValue

/-- The reader takes one value off the front of its input; the writer fills a buffer. -/
structure Ciborium where
  fromReader : Bytes → Except String CborValue
  intoWriter : CborValue → Except String Bytes

/-! ## COSE keys -/

structure CoseKey where
  kty : Int
  alg : Int
  crv : Int
  x : Bytes
  y : Bytes
deriving DecidableEq

/-- The fields as the loop over the entries finds them. -/
structure CoseFields where
  kty : Option Int := none
  alg : Option Int := none
  crv : Option Int := none
  x : Option Bytes := none
  y : Option Bytes := none

/-- One entry.  The label is matched against literals, so it is read as an `i32`. -/
def CoseFields.read (fields : CoseFields) (entry : CborValue × CborValue) :
    Except WebAuthnError CoseFields := do
  let label ← okOr (entry.1.asSigned 32) .invalidCoseKey
  if label = 1 then return { fields with kty := entry.2.asSigned 64 }
  else if label = 3 then return { fields with alg := entry.2.asSigned 64 }
  else if label = -1 then return { fields with crv := entry.2.asSigned 64 }
  else if label = -2 then return { fields with x := entry.2.asBytes }
  else if label = -3 then return { fields with y := entry.2.asBytes }
  else return fields

def CoseKey.ofEntries (entries : List (CborValue × CborValue)) :
    Except WebAuthnError CoseKey := do
  let fields ← entries.foldlM CoseFields.read {}
  return { kty := ← okOr fields.kty .invalidCoseKey
           alg := ← okOr fields.alg .invalidCoseKey
           crv := ← okOr fields.crv .invalidCoseKey
           x := ← okOr fields.x .invalidCoseKey
           y := ← okOr fields.y .invalidCoseKey }

section

variable (cbor : Ciborium)

def CoseKey.fromCbor (cborBytes : Bytes) : Except WebAuthnError CoseKey := do
  let value ← mapErr .invalidCbor (cbor.fromReader cborBytes)
  CoseKey.ofEntries (← okOr value.asMap .invalidCoseKey)

/-- The five fields, in this order. -/
def CoseKey.toValue (key : CoseKey) : CborValue :=
  .map [(.integer 1, .integer key.kty), (.integer 3, .integer key.alg),
    (.integer (-1), .integer key.crv), (.integer (-2), .bytes key.x),
    (.integer (-3), .bytes key.y)]

def CoseKey.toCbor (key : CoseKey) : Except WebAuthnError Bytes :=
  mapErr .invalidCbor (cbor.intoWriter key.toValue)

/-! ## The parser -/

structure AuthenticatorFlags where
  userPresent : Bool
  userVerified : Bool
  backupEligible : Bool
  backupState : Bool
  attestedCredentialDataPresent : Bool
  extensionDataPresent : Bool
deriving DecidableEq

def AuthenticatorFlags.fromByte (byte : UInt8) : AuthenticatorFlags where
  userPresent := byte &&& 0x01 ≠ 0
  userVerified := byte &&& 0x04 ≠ 0
  backupEligible := byte &&& 0x08 ≠ 0
  backupState := byte &&& 0x10 ≠ 0
  attestedCredentialDataPresent := byte &&& 0x40 ≠ 0
  extensionDataPresent := byte &&& 0x80 ≠ 0

structure AttestedCredentialData where
  aaguid : Bytes
  credentialId : Bytes
  credentialPublicKey : CoseKey

structure AuthenticatorData where
  rpIdHash : Bytes
  flags : AuthenticatorFlags
  counter : Nat
  attestedCredentialData : Option AttestedCredentialData
  extensions : Option Bytes

/-- The credential at `offset`, and the offset after it; `none` where a read is out of range. -/
def parseAttested (data : Bytes) (offset : Nat) :
    Option (Except WebAuthnError (AttestedCredentialData × Nat)) :=
  if data.length < offset + 18 then some (.error .invalidAuthenticatorData)
  else do
    let aaguid ← slice data offset (offset + 16)
    let credIdLen := beNat (← slice data (offset + 16) (offset + 18))
    let offset := offset + 18
    if data.length < offset + credIdLen then return .error .invalidAuthenticatorData
    let credentialId ← slice data offset (offset + credIdLen)
    let offset := offset + credIdLen
    let rest ← slice data offset data.length
    return do
      let key ← CoseKey.fromCbor cbor rest
      -- The length of the key is taken from its own encoding, not from what was read.
      let cborLen := (← key.toCbor cbor).length
      return (⟨aaguid, credentialId, key⟩, offset + cborLen)

/-- The extensions: whatever follows, if the flag is set and anything does. -/
def parseExtensions (flags : AuthenticatorFlags) (data : Bytes) (offset : Nat) :
    Option (Option Bytes) :=
  if flags.extensionDataPresent ∧ offset < data.length then
    (slice data offset data.length).map some
  else some none

def AuthenticatorData.parse (data : Bytes) : Option (Except WebAuthnError AuthenticatorData) :=
  if data.length < 37 then some (.error .invalidAuthenticatorData)
  else do
    let rpIdHash ← slice data 0 32
    let flags := AuthenticatorFlags.fromByte (← data[32]?)
    let counter := beNat (← slice data 33 37)
    if flags.attestedCredentialDataPresent then
      match ← parseAttested cbor data 37 with
      | .error e => return .error e
      | .ok (attested, offset) =>
        let extensions ← parseExtensions flags data offset
        return .ok ⟨rpIdHash, flags, counter, some attested, extensions⟩
    else
      let extensions ← parseExtensions flags data 37
      return .ok ⟨rpIdHash, flags, counter, none, extensions⟩

end

/-! ## Reading a COSE key -/

/-- The fields after an entry with this label. -/
def CoseFields.update (fields : CoseFields) (label : Int) (value : CborValue) : CoseFields where
  kty := if label = 1 then value.asSigned 64 else fields.kty
  alg := if label = 3 then value.asSigned 64 else fields.alg
  crv := if label = -1 then value.asSigned 64 else fields.crv
  x := if label = -2 then value.asBytes else fields.x
  y := if label = -3 then value.asBytes else fields.y

theorem CoseFields.read_eq_ok {fields fields' : CoseFields} {entry : CborValue × CborValue} :
    fields.read entry = .ok fields' ↔
      ∃ label, entry.1.asSigned 32 = some label ∧ fields' = fields.update label entry.2 := by
  have updated (label : Int) : (if label = 1 then pure { fields with kty := entry.2.asSigned 64 }
      else if label = 3 then pure { fields with alg := entry.2.asSigned 64 }
      else if label = -1 then pure { fields with crv := entry.2.asSigned 64 }
      else if label = -2 then pure { fields with x := entry.2.asBytes }
      else if label = -3 then pure { fields with y := entry.2.asBytes }
      else pure fields : Except WebAuthnError CoseFields) = .ok (fields.update label entry.2) := by
    repeat' split
    all_goals simp_all [CoseFields.update, pure, Except.pure]
  simp only [CoseFields.read, bind_eq_ok, okOr_eq_ok, updated, Except.ok.injEq, @eq_comm _ fields']

/-- The value of the last entry with this label. -/
def lastValue (entries : List (CborValue × CborValue)) (label : Int) : Option CborValue :=
  (entries.reverse.find? fun entry => entry.1.asSigned 32 = some label).map Prod.snd

theorem lastValue_concat (entries : List (CborValue × CborValue)) (entry : CborValue × CborValue)
    (label : Int) : lastValue (entries ++ [entry]) label =
      if entry.1.asSigned 32 = some label then some entry.2 else lastValue entries label := by
  rw [lastValue, List.reverse_concat, List.find?_cons]
  by_cases here : entry.1.asSigned 32 = some label
  · simp [here]
  · simp [here, lastValue]

/-- What the loop has found after these entries. -/
structure FieldsOf (entries : List (CborValue × CborValue)) (fields : CoseFields) : Prop where
  labels : ∀ entry ∈ entries, (entry.1.asSigned 32).isSome = true
  kty : fields.kty = (lastValue entries 1).bind (CborValue.asSigned 64)
  alg : fields.alg = (lastValue entries 3).bind (CborValue.asSigned 64)
  crv : fields.crv = (lastValue entries (-1)).bind (CborValue.asSigned 64)
  x : fields.x = (lastValue entries (-2)).bind CborValue.asBytes
  y : fields.y = (lastValue entries (-3)).bind CborValue.asBytes

theorem FieldsOf.read {entries : List (CborValue × CborValue)} {entry : CborValue × CborValue}
    {fields fields' : CoseFields} (found : FieldsOf entries fields)
    (returned : fields.read entry = .ok fields') : FieldsOf (entries ++ [entry]) fields' := by
  obtain ⟨label, labelled, rfl⟩ := CoseFields.read_eq_ok.mp returned
  have pick {α : Type} (field : Int) (f : CborValue → Option α) :
      (lastValue (entries ++ [entry]) field).bind f =
        if label = field then f entry.2 else (lastValue entries field).bind f := by
    rw [lastValue_concat, labelled]
    simp only [Option.some.injEq]
    split <;> rfl
  refine ⟨?_, ?_, ?_, ?_, ?_, ?_⟩
  · intro other member
    rcases List.mem_append.mp member with before | here
    · exact found.labels other before
    · rw [List.mem_singleton.mp here, labelled, Option.isSome_some]
  · rw [pick, ← found.kty, CoseFields.update]
  · rw [pick, ← found.alg, CoseFields.update]
  · rw [pick, ← found.crv, CoseFields.update]
  · rw [pick, ← found.x, CoseFields.update]
  · rw [pick, ← found.y, CoseFields.update]

theorem fieldsOf_of_returned {entries : List (CborValue × CborValue)} {fields : CoseFields}
    (returned : entries.foldlM CoseFields.read {} = .ok fields) : FieldsOf entries fields :=
  foldlM_invariant FieldsOf ⟨by simp, rfl, rfl, rfl, rfl, rfl⟩
    (fun _ _ _ _ round found => found.read round) returned

theorem exists_fields {entries : List (CborValue × CborValue)}
    (labels : ∀ entry ∈ entries, (entry.1.asSigned 32).isSome = true) (start : CoseFields) :
    ∃ fields, entries.foldlM CoseFields.read start = .ok fields := by
  induction entries generalizing start with
  | nil => exact ⟨start, rfl⟩
  | cons entry rest ih =>
    obtain ⟨here, later⟩ := List.forall_mem_cons.mp labels
    obtain ⟨label, labelled⟩ := Option.isSome_iff_exists.mp here
    obtain ⟨fields, returned⟩ := ih later (start.update label entry.2)
    refine ⟨fields, ?_⟩
    rw [List.foldlM_cons, bind_eq_ok]
    exact ⟨_, CoseFields.read_eq_ok.mpr ⟨label, labelled, rfl⟩, returned⟩

/-- An EC2 key as COSE allows it: the labels are different integers or texts, in any order and
with any others beside the five. -/
structure Ec2Key (entries : List (CborValue × CborValue)) (key : CoseKey) : Prop where
  distinct : (entries.map Prod.fst).Nodup
  labels : ∀ entry ∈ entries, (∃ n, entry.1 = .integer n) ∨ ∃ t, entry.1 = .text t
  kty : (.integer 1, .integer key.kty) ∈ entries
  alg : (.integer 3, .integer key.alg) ∈ entries
  crv : (.integer (-1), .integer key.crv) ∈ entries
  x : (.integer (-2), .bytes key.x) ∈ entries
  y : (.integer (-3), .bytes key.y) ∈ entries
  ec2 : key.kty = 2
  algFits : (CborValue.integer key.alg).asSigned 64 = some key.alg
  crvFits : (CborValue.integer key.crv).asSigned 64 = some key.crv

/-- Labels that the loop can read. -/
def ReadableLabels (entries : List (CborValue × CborValue)) : Prop :=
  ∀ entry ∈ entries, (entry.1.asSigned 32).isSome = true

theorem asSigned_eq_some {bits : Nat} {value : CborValue} {n : Int}
    (read : value.asSigned bits = some n) : value = .integer n := by
  cases value with
  | integer m =>
    simp only [CborValue.asSigned, CborValue.asInteger, Option.bind_some,
      Option.ite_none_right_eq_some, Option.some.injEq] at read
    rw [read.2]
  | _ => simp [CborValue.asSigned, CborValue.asInteger] at read

theorem lastValue_of_mem {entries : List (CborValue × CborValue)} {label : Int} {value : CborValue}
    (distinct : (entries.map Prod.fst).Nodup) (member : (.integer label, value) ∈ entries)
    (fits : (CborValue.integer label).asSigned 32 = some label) :
    lastValue entries label = some value := by
  cases found : entries.reverse.find? fun entry => entry.1.asSigned 32 = some label with
  | none =>
    have := List.find?_eq_none.mp found _ (List.mem_reverse.mpr member)
    simp [fits] at this
  | some entry =>
    have labelled : entry.1.asSigned 32 = some label := by simpa using List.find?_some found
    have inside := List.mem_reverse.mp (List.mem_of_find?_eq_some found)
    have same := List.inj_on_of_nodup_map distinct inside member (asSigned_eq_some labelled)
    rw [lastValue, found, same, Option.map_some]

/-- The loop finds the key exactly when it can read every label. -/
theorem ofEntries_eq_ok_iff {entries : List (CborValue × CborValue)} {key : CoseKey}
    (ec2 : Ec2Key entries key) :
    (CoseKey.ofEntries entries = .ok key ↔ ReadableLabels entries) ∧
      ∀ key', CoseKey.ofEntries entries = .ok key' → key' = key := by
  have kty := lastValue_of_mem ec2.distinct ec2.kty (by decide)
  have alg := lastValue_of_mem ec2.distinct ec2.alg (by decide)
  have crv := lastValue_of_mem ec2.distinct ec2.crv (by decide)
  have x := lastValue_of_mem ec2.distinct ec2.x (by decide)
  have y := lastValue_of_mem ec2.distinct ec2.y (by decide)
  have ktyFits : (CborValue.integer key.kty).asSigned 64 = some key.kty := by
    rw [ec2.ec2]
    decide
  have fieldsAre : ∀ fields, FieldsOf entries fields →
      fields = ⟨key.kty, key.alg, key.crv, key.x, key.y⟩ := by
    rintro ⟨⟩ found
    have hkty := found.kty
    have halg := found.alg
    have hcrv := found.crv
    have hx := found.x
    have hy := found.y
    simp only [kty, alg, crv, x, y, Option.bind_some, ktyFits, ec2.algFits, ec2.crvFits,
      CborValue.asBytes] at hkty halg hcrv hx hy
    rw [hkty, halg, hcrv, hx, hy]
  have unique : ∀ key', CoseKey.ofEntries entries = .ok key' → key' = key := by
    intro key' returned
    simp only [CoseKey.ofEntries, bind_eq_ok, pure_eq_ok, okOr_eq_ok] at returned
    obtain ⟨fields, loop, returned⟩ := returned
    obtain rfl := fieldsAre fields (fieldsOf_of_returned loop)
    simp only [Option.some.injEq, exists_eq_left'] at returned
    exact returned.symm
  refine ⟨⟨?_, ?_⟩, unique⟩
  · intro returned
    simp only [CoseKey.ofEntries, bind_eq_ok] at returned
    obtain ⟨fields, loop, _⟩ := returned
    exact (fieldsOf_of_returned loop).labels
  · intro readable
    obtain ⟨fields, loop⟩ := exists_fields readable {}
    obtain rfl := fieldsAre fields (fieldsOf_of_returned loop)
    rw [CoseKey.ofEntries, loop]
    rfl

/-! ## Well-formed data -/

def beBytes : Nat → Nat → Bytes
  | 0, _ => []
  | k + 1, n => beBytes k (n / 256) ++ [UInt8.ofNat n]

@[simp] theorem beBytes_length (k n : Nat) : (beBytes k n).length = k := by
  induction k generalizing n with
  | zero => rfl
  | succ k ih => rw [beBytes, List.length_append, ih, List.length_singleton]

theorem beNat_beBytes (k : Nat) {n : Nat} (fits : n < 256 ^ k) : beNat (beBytes k n) = n := by
  induction k generalizing n with
  | zero =>
    rw [Nat.pow_zero] at fits
    rw [beBytes, Nat.lt_one_iff.mp fits]
    rfl
  | succ k ih =>
    have high : n / 256 < 256 ^ k := Nat.div_lt_of_lt_mul (by rwa [← Nat.pow_succ'])
    have inner := ih high
    rw [beNat] at inner
    rw [beBytes, beNat, List.foldl_append, inner]
    show 256 * (n / 256) + (UInt8.ofNat n).toNat = n
    rw [UInt8.toNat_ofNat']
    omega

/-- A credential as an authenticator encodes it: the bytes of its key are any bytes that the
CBOR library reads the key's map from, whatever follows them. -/
structure EncodedCredential (cbor : Ciborium) where
  aaguid : Bytes
  aaguidSize : aaguid.length = 16
  credentialId : Bytes
  short : credentialId.length < 256 ^ 2
  key : CoseKey
  entries : List (CborValue × CborValue)
  ec2 : Ec2Key entries key
  keyBytes : Bytes
  encodes : ∀ rest, cbor.fromReader (keyBytes ++ rest) = .ok (.map entries)

/-- Authenticator data, its flags saying what is there. -/
structure EncodedData (cbor : Ciborium) where
  rpIdHash : Bytes32
  flagsByte : UInt8
  counter : Nat
  counterFits : counter < 256 ^ 4
  attested : Option (EncodedCredential cbor)
  extensions : Option Bytes
  attestedFlag : (AuthenticatorFlags.fromByte flagsByte).attestedCredentialDataPresent =
    attested.isSome
  extensionFlag : (AuthenticatorFlags.fromByte flagsByte).extensionDataPresent = extensions.isSome
  extensionsNonempty : extensions ≠ some []

variable {cbor : Ciborium}

def EncodedCredential.bytes (c : EncodedCredential cbor) : Bytes :=
  c.aaguid ++ (beBytes 2 c.credentialId.length ++ (c.credentialId ++ c.keyBytes))

namespace EncodedData

def bytes (d : EncodedData cbor) : Bytes :=
  d.rpIdHash.toList ++ ([d.flagsByte] ++ (beBytes 4 d.counter ++
    ((d.attested.map EncodedCredential.bytes).getD [] ++ d.extensions.getD [])))

/-- What the bytes say. -/
def value (d : EncodedData cbor) : AuthenticatorData where
  rpIdHash := d.rpIdHash.toList
  flags := .fromByte d.flagsByte
  counter := d.counter
  attestedCredentialData := d.attested.map fun c => ⟨c.aaguid, c.credentialId, c.key⟩
  extensions := d.extensions

/-- The parser recovers what was encoded. -/
def Recovered (d : EncodedData cbor) : Prop :=
  AuthenticatorData.parse cbor d.bytes = some (.ok d.value)

end EncodedData

/-- Bytes in the shortest head of an item: its type with a number. -/
def headSize (n : Nat) : Nat :=
  if n < 24 then 1 else if n < 2 ^ 8 then 2 else if n < 2 ^ 16 then 3 else if n < 2 ^ 32 then 5
  else 9

/-- A negative integer is written as `-1 - n`. -/
def integerSize (n : Int) : Nat := headSize (if 0 ≤ n then n else -1 - n).toNat

def bytesSize (bytes : Bytes) : Nat := headSize bytes.length + bytes.length

/-- The shortest encoding of the five fields: the head of the map, and a label of one byte before
each value. -/
def CoseKey.shortestSize (key : CoseKey) : Nat :=
  1 + (1 + integerSize key.kty) + (1 + integerSize key.alg) + (1 + integerSize key.crv) +
    (1 + bytesSize key.x) + (1 + bytesSize key.y)

/-- The library writes the five fields in their shortest encoding. -/
def Ciborium.WritesShortest (cbor : Ciborium) : Prop :=
  ∀ key : CoseKey, ∃ written, key.toCbor cbor = .ok written ∧ written.length = key.shortestSize

/-- The key takes exactly the bytes of the shortest encoding of its five fields. -/
def EncodedCredential.KeyIsShortest (c : EncodedCredential cbor) : Prop :=
  c.keyBytes.length = c.key.shortestSize

/-! ## Reading them back -/

theorem parseExtensions_eq (flags : AuthenticatorFlags) (data : Bytes) (offset : Nat) :
    parseExtensions flags data offset =
      some (if flags.extensionDataPresent ∧ offset < data.length then some (data.drop offset)
        else none) := by
  unfold parseExtensions
  split
  · rename_i some
    rw [slice, if_pos ⟨some.2.le, le_rfl⟩, Option.map_some, ← List.length_drop, List.take_length]
  · rfl

theorem EncodedCredential.fromCbor_keyBytes (c : EncodedCredential cbor) (rest : Bytes) :
    CoseKey.fromCbor cbor (c.keyBytes ++ rest) = CoseKey.ofEntries c.entries := by
  rw [CoseKey.fromCbor, c.encodes rest]
  rfl

theorem parseAttested_bytes (c : EncodedCredential cbor) (header rest : Bytes) :
    parseAttested cbor (header ++ (c.bytes ++ rest)) header.length = some (do
      let key ← CoseKey.ofEntries c.entries
      let cborLen := (← key.toCbor cbor).length
      return (⟨c.aaguid, c.credentialId, key⟩,
        header.length + 18 + c.credentialId.length + cborLen)) := by
  -- The buffer, cut before each of the fields in turn.
  have beforeGuid : header ++ (c.bytes ++ rest) = header ++ (c.aaguid ++
      (beBytes 2 c.credentialId.length ++ (c.credentialId ++ (c.keyBytes ++ rest)))) := by
    simp [EncodedCredential.bytes]
  have beforeLength : header ++ (c.bytes ++ rest) = (header ++ c.aaguid) ++
      (beBytes 2 c.credentialId.length ++ (c.credentialId ++ (c.keyBytes ++ rest))) := by
    simp [EncodedCredential.bytes]
  have beforeId : header ++ (c.bytes ++ rest) =
      (header ++ c.aaguid ++ beBytes 2 c.credentialId.length) ++
        (c.credentialId ++ (c.keyBytes ++ rest)) := by
    simp [EncodedCredential.bytes]
  have beforeKey : header ++ (c.bytes ++ rest) =
      (header ++ c.aaguid ++ beBytes 2 c.credentialId.length ++ c.credentialId) ++
        (c.keyBytes ++ rest) := by
    simp [EncodedCredential.bytes]
  generalize header ++ (c.bytes ++ rest) = data at *
  have guid : slice data header.length (header.length + 16) = some c.aaguid := by
    rw [beforeGuid]
    exact slice_append rfl (by rw [c.aaguidSize])
  have length : slice data (header.length + 16) (header.length + 18) =
      some (beBytes 2 c.credentialId.length) := by
    rw [beforeLength]
    exact slice_append (by rw [List.length_append, c.aaguidSize]) (by simp)
  have id : slice data (header.length + 18) (header.length + 18 + c.credentialId.length) =
      some c.credentialId := by
    rw [beforeId]
    exact slice_append (by simp [c.aaguidSize]) rfl
  have key : slice data (header.length + 18 + c.credentialId.length) data.length =
      some (c.keyBytes ++ rest) := by
    rw [beforeKey]
    exact slice_drop (by simp only [List.length_append, beBytes_length, c.aaguidSize])
  have size : data.length = header.length + 18 + c.credentialId.length +
      (c.keyBytes ++ rest).length := by
    rw [beforeKey]
    simp only [List.length_append, beBytes_length, c.aaguidSize]
  have long : ¬data.length < header.length + 18 := by omega
  have longer : ¬data.length < header.length + 18 + c.credentialId.length := by omega
  rw [parseAttested, if_neg long, guid, length]
  simp only [Option.bind_eq_bind, Option.bind_some, beNat_beBytes 2 c.short, if_neg longer, id, key,
    c.fromCbor_keyBytes]
  rfl

namespace EncodedData

/-- The fixed part, before any credential. -/
def header (d : EncodedData cbor) : Bytes :=
  d.rpIdHash.toList ++ ([d.flagsByte] ++ beBytes 4 d.counter)

theorem header_length (d : EncodedData cbor) : d.header.length = 37 := by simp [header]

theorem bytes_eq (d : EncodedData cbor) : d.bytes =
    d.header ++ ((d.attested.map EncodedCredential.bytes).getD [] ++ d.extensions.getD []) := by
  simp [bytes, header]

/-- The extensions that the parser returns when it takes the credential to end at `offset`. -/
def readExtensions (d : EncodedData cbor) (offset : Nat) : Option Bytes :=
  if d.extensions.isSome = true ∧ offset < d.bytes.length then some (d.bytes.drop offset) else none

/-- What the parser returns when it has found this credential. -/
def found (d : EncodedData cbor) (credential : Option AttestedCredentialData) (offset : Nat) :
    AuthenticatorData :=
  ⟨d.rpIdHash.toList, .fromByte d.flagsByte, d.counter, credential, d.readExtensions offset⟩

theorem parse_bytes (d : EncodedData cbor) : AuthenticatorData.parse cbor d.bytes =
    if d.attested.isSome = true then
      (parseAttested cbor d.bytes 37).map (Except.map fun read => d.found (some read.1) read.2)
    else some (.ok (d.found none 37)) := by
  have beforeFlags : d.bytes = d.rpIdHash.toList ++ (d.flagsByte :: (beBytes 4 d.counter ++
      ((d.attested.map EncodedCredential.bytes).getD [] ++ d.extensions.getD []))) := rfl
  have beforeCounter : d.bytes = (d.rpIdHash.toList ++ [d.flagsByte]) ++ (beBytes 4 d.counter ++
      ((d.attested.map EncodedCredential.bytes).getD [] ++ d.extensions.getD [])) := by
    simp [bytes]
  have long : ¬d.bytes.length < 37 := by
    rw [bytes_eq, List.length_append, header_length]
    omega
  have hash : slice d.bytes 0 32 = some d.rpIdHash.toList := by
    rw [beforeFlags]
    exact @slice_append [] _ _ 0 32 rfl (by simp)
  have flags : d.bytes[32]? = some d.flagsByte := by
    rw [beforeFlags, List.getElem?_append_right (by simp)]
    simp
  have counter : slice d.bytes 33 37 = some (beBytes 4 d.counter) := by
    rw [beforeCounter]
    exact slice_append (by simp) (by simp)
  rw [AuthenticatorData.parse, if_neg long, hash, flags, counter]
  simp only [Option.bind_eq_bind, Option.bind_some, beNat_beBytes 4 d.counterFits, d.attestedFlag,
    parseExtensions_eq, d.extensionFlag]
  split
  · cases parseAttested cbor d.bytes 37 with
    | none => rfl
    | some outcome =>
      cases outcome with
      | error e => rfl
      | ok found => rfl
  · rfl

/-- The extensions come out right when there are none or they start at the offset. -/
theorem readExtensions_eq_iff (d : EncodedData cbor) {before : Bytes} (offset : Nat)
    (cut : d.bytes = before ++ d.extensions.getD []) :
    d.readExtensions offset = d.extensions ↔ d.extensions = none ∨ offset = before.length := by
  have nonempty := d.extensionsNonempty
  unfold readExtensions
  rw [cut]
  generalize d.extensions = extensions at *
  cases extensions with
  | none => simp
  | some e =>
    have positive : 0 < e.length := List.length_pos_iff.mpr fun empty => nonempty (by rw [empty])
    simp only [Option.isSome_some, true_and, Option.getD_some, reduceCtorEq, false_or,
      List.length_append]
    constructor
    · intro same
      split at same
      · have lengths := congrArg List.length (Option.some.inj same)
        rw [List.length_drop, List.length_append] at lengths
        omega
      · cases same
    · rintro rfl
      rw [if_pos (by omega), List.drop_left]

end EncodedData

/-! ## No read is out of range -/

theorem parseAttested_ne_none (data : Bytes) (offset : Nat) :
    parseAttested cbor data offset ≠ none := by
  unfold parseAttested
  split
  · simp
  · rename_i long
    obtain ⟨guid, hguid⟩ := slice_isSome data (by omega : offset ≤ offset + 16) (by omega)
    obtain ⟨size, hsize⟩ :=
      slice_isSome data (by omega : offset + 16 ≤ offset + 18) (by omega)
    simp only [hguid, hsize, Option.bind_eq_bind, Option.bind_some]
    split
    · simp
    · rename_i longer
      obtain ⟨id, hid⟩ := slice_isSome data
        (Nat.le_add_right (offset + 18) (beNat size)) (by omega)
      obtain ⟨rest, hrest⟩ := slice_isSome data
        (by omega : offset + 18 + beNat size ≤ data.length) le_rfl
      simp [hid, hrest]

theorem parse_ne_none (cbor : Ciborium) (data : Bytes) :
    AuthenticatorData.parse cbor data ≠ none := by
  unfold AuthenticatorData.parse
  split
  · simp
  · rename_i long
    obtain ⟨hash, hhash⟩ := slice_isSome data (by omega : 0 ≤ 32) (by omega)
    obtain ⟨counter, hcounter⟩ := slice_isSome data (by omega : 33 ≤ 37) (by omega)
    obtain ⟨byte, flags⟩ : ∃ byte, data[32]? = some byte :=
      ⟨_, List.getElem?_eq_getElem (by omega : 32 < data.length)⟩
    simp only [hhash, hcounter, flags, Option.bind_eq_bind, Option.bind_some, parseExtensions_eq]
    split
    · obtain ⟨outcome, houtcome⟩ := Option.ne_none_iff_exists'.mp (parseAttested_ne_none data 37)
      rw [houtcome]
      cases outcome with
      | error e => simp
      | ok found => simp
    · simp

/-! ## Main result -/

/-- A failed parse of the key is not a recovery, and neither is a misplaced end. -/
theorem recovered_attested_iff (d : EncodedData cbor) {c : EncodedCredential cbor}
    (attested : d.attested = some c) (shortest : cbor.WritesShortest) :
    d.Recovered ↔ ReadableLabels c.entries ∧ (d.extensions = none ∨ c.KeyIsShortest) := by
  obtain ⟨written, hwritten, writtenSize⟩ := shortest c.key
  obtain ⟨readable, unique⟩ := ofEntries_eq_ok_iff c.ec2
  have cut : d.bytes = (d.header ++ c.bytes) ++ d.extensions.getD [] := by
    rw [d.bytes_eq, attested, List.append_assoc]
    rfl
  have size : (d.header ++ c.bytes).length =
      37 + 18 + c.credentialId.length + c.keyBytes.length := by
    simp only [EncodedCredential.bytes, List.length_append, d.header_length, beBytes_length,
      c.aaguidSize]
    omega
  have ends : c.KeyIsShortest ↔ 37 + 18 + c.credentialId.length + written.length =
      (d.header ++ c.bytes).length := by
    rw [size, EncodedCredential.KeyIsShortest, writtenSize, Nat.add_left_cancel_iff, eq_comm]
  have parsed := parseAttested_bytes c d.header (d.extensions.getD [])
  rw [d.header_length, ← List.append_assoc, ← cut] at parsed
  have value : d.value = ⟨d.rpIdHash.toList, .fromByte d.flagsByte, d.counter,
      some ⟨c.aaguid, c.credentialId, c.key⟩, d.extensions⟩ := by
    rw [EncodedData.value, attested, Option.map_some]
  rw [EncodedData.Recovered, d.parse_bytes, parsed, value, attested, Option.isSome_some,
    if_pos rfl, ← readable, ends, ← d.readExtensions_eq_iff _ cut]
  cases key : CoseKey.ofEntries c.entries with
  | error e => simp [bind, Except.bind, Except.map]
  | ok key' =>
    obtain rfl := unique key' key
    simp [bind, Except.bind, pure, Except.pure, Except.map, hwritten, EncodedData.found]

theorem recovered_without_credential (d : EncodedData cbor) (none : d.attested = none) :
    d.Recovered := by
  have cut : d.bytes = d.header ++ d.extensions.getD [] := by
    rw [d.bytes_eq, none]
    rfl
  have extensions := (d.readExtensions_eq_iff 37 cut).mpr (.inr d.header_length.symm)
  rw [EncodedData.Recovered, d.parse_bytes, none, Option.isSome_none, if_neg Bool.false_ne_true,
    EncodedData.found, extensions, EncodedData.value, none, Option.map_none]

/-- The parser never reads out of range, and it recovers what was encoded exactly when there is no
credential, or it can read the labels of the key and either no extensions follow or the key takes
the bytes of the shortest encoding of its five fields. -/
theorem parse_exact_iff (cbor : Ciborium) (shortest : cbor.WritesShortest) :
    (∀ data, AuthenticatorData.parse cbor data ≠ none) ∧
    ∀ d : EncodedData cbor, d.Recovered ↔ ∀ c ∈ d.attested,
      ReadableLabels c.entries ∧ (d.extensions = none ∨ c.KeyIsShortest) := by
  refine ⟨parse_ne_none cbor, fun d => ?_⟩
  cases attested : d.attested with
  | none => simp [recovered_without_credential d attested]
  | some c =>
    rw [recovered_attested_iff d attested shortest]
    simp

/-! ## Two keys -/

section

def shortHead (major : UInt8) (n : Nat) : Bytes :=
  if n < 24 then [32 * major + UInt8.ofNat n]
  else if n < 2 ^ 8 then (32 * major + 24) :: beBytes 1 n
  else if n < 2 ^ 16 then (32 * major + 25) :: beBytes 2 n
  else if n < 2 ^ 32 then (32 * major + 26) :: beBytes 4 n
  else (32 * major + 27) :: beBytes 8 n

theorem shortHead_length (major : UInt8) (n : Nat) : (shortHead major n).length = headSize n := by
  unfold shortHead headSize
  repeat' split
  all_goals simp

/-- Integers and byte strings in their shortest encoding; nothing else is written below. -/
def shortItem : CborValue → Bytes
  | .integer n => if 0 ≤ n then shortHead 0 n.toNat else shortHead 1 (-1 - n).toNat
  | .bytes b => shortHead 2 b.length ++ b
  | _ => []

theorem shortItem_integer (n : Int) : (shortItem (.integer n)).length = integerSize n := by
  rw [shortItem, integerSize]
  split <;> rw [shortHead_length]

theorem shortItem_bytes (b : Bytes) : (shortItem (.bytes b)).length = bytesSize b := by
  rw [shortItem, List.length_append, shortHead_length, bytesSize]

def sampleX : Bytes := List.replicate 32 0x11
def sampleY : Bytes := List.replicate 32 0x22

def sampleCoseKey : CoseKey := ⟨2, -7, 1, sampleX, sampleY⟩

/-- The five fields of an ES256 key. -/
def plainEntries : List (CborValue × CborValue) :=
  [(.integer 1, .integer 2), (.integer 3, .integer (-7)), (.integer (-1), .integer 1),
    (.integer (-2), .bytes sampleX), (.integer (-3), .bytes sampleY)]

/-- The same, with the permitted operations as a sixth. -/
def longEntries : List (CborValue × CborValue) :=
  plainEntries ++ [(.integer 4, .array [.integer 2])]

def fieldBytes : Bytes :=
  [0x01, 0x02, 0x03, 0x26, 0x20, 0x01, 0x21, 0x58, 0x20] ++ sampleX ++ [0x22, 0x58, 0x20] ++ sampleY

def plainKeyBytes : Bytes := 0xa5 :: fieldBytes
def longKeyBytes : Bytes := 0xa6 :: (fieldBytes ++ [0x04, 0x81, 0x02])

def sampleRead (bytes : Bytes) : Except String CborValue :=
  if plainKeyBytes.isPrefixOf bytes then .ok (.map plainEntries)
  else if longKeyBytes.isPrefixOf bytes then .ok (.map longEntries)
  else .error "Semantic(None, \"invalid type\")"

/-- A library that reads the two keys and writes maps of integers and byte strings. -/
def sampleCiborium : Ciborium where
  fromReader := sampleRead
  intoWriter
    | .map entries => .ok (shortHead 5 entries.length ++
        entries.flatMap fun entry => shortItem entry.1 ++ shortItem entry.2)
    | value => .ok (shortItem value)

theorem sampleCiborium_shortest : sampleCiborium.WritesShortest := by
  intro key
  refine ⟨_, rfl, ?_⟩
  simp only [List.flatMap_cons, List.flatMap_nil, List.length_append, shortHead_length,
    shortItem_integer, shortItem_bytes, CoseKey.shortestSize, List.length_nil, List.length_cons]
  have labels : integerSize 1 = 1 ∧ integerSize 3 = 1 ∧ integerSize (-1) = 1 ∧
      integerSize (-2) = 1 ∧ integerSize (-3) = 1 ∧ headSize 5 = 1 := by decide
  obtain ⟨one, three, alg, x, y, five⟩ := labels
  rw [one, three, alg, x, y, five]
  omega

theorem plainEntries_ec2 : Ec2Key plainEntries sampleCoseKey where
  distinct := by simp [plainEntries]
  labels := by simp [plainEntries]
  kty := by simp [plainEntries, sampleCoseKey]
  alg := by simp [plainEntries, sampleCoseKey]
  crv := by simp [plainEntries, sampleCoseKey]
  x := by simp [plainEntries, sampleCoseKey]
  y := by simp [plainEntries, sampleCoseKey]
  ec2 := rfl
  algFits := by decide
  crvFits := by decide

theorem longEntries_ec2 : Ec2Key longEntries sampleCoseKey where
  distinct := by simp [longEntries, plainEntries]
  labels := by simp [longEntries, plainEntries]
  kty := List.mem_append_left _ plainEntries_ec2.kty
  alg := List.mem_append_left _ plainEntries_ec2.alg
  crv := List.mem_append_left _ plainEntries_ec2.crv
  x := List.mem_append_left _ plainEntries_ec2.x
  y := List.mem_append_left _ plainEntries_ec2.y
  ec2 := rfl
  algFits := by decide
  crvFits := by decide

def plainCredential : EncodedCredential sampleCiborium where
  aaguid := List.replicate 16 0
  aaguidSize := rfl
  credentialId := [1, 2, 3, 4]
  short := by decide
  key := sampleCoseKey
  entries := plainEntries
  ec2 := plainEntries_ec2
  keyBytes := plainKeyBytes
  encodes rest := by
    have plain : plainKeyBytes.isPrefixOf (plainKeyBytes ++ rest) = true :=
      List.isPrefixOf_iff_prefix.mpr (List.prefix_append _ _)
    show sampleRead (plainKeyBytes ++ rest) = _
    rw [sampleRead, if_pos plain]

def longCredential : EncodedCredential sampleCiborium where
  aaguid := List.replicate 16 0
  aaguidSize := rfl
  credentialId := [1, 2, 3, 4]
  short := by decide
  key := sampleCoseKey
  entries := longEntries
  ec2 := longEntries_ec2
  keyBytes := longKeyBytes
  encodes rest := by
    have other : ¬plainKeyBytes.isPrefixOf (longKeyBytes ++ rest) = true := by
      simp [plainKeyBytes, longKeyBytes, List.isPrefixOf]
    have long : longKeyBytes.isPrefixOf (longKeyBytes ++ rest) = true :=
      List.isPrefixOf_iff_prefix.mpr (List.prefix_append _ _)
    show sampleRead (longKeyBytes ++ rest) = _
    rw [sampleRead, if_neg other, if_pos long]

/-- One extension, which sets the protection of the credential. -/
def sampleExtensions : Bytes :=
  [0xa1, 0x6b, 0x63, 0x72, 0x65, 0x64, 0x50, 0x72, 0x6f, 0x74, 0x65, 0x63, 0x74, 0x02]

/-- A registration with user verification. -/
def sampleData (credential : EncodedCredential sampleCiborium) : EncodedData sampleCiborium where
  rpIdHash := leBytes32 7
  flagsByte := 0xc5
  counter := 1
  counterFits := by decide
  attested := some credential
  extensions := some sampleExtensions
  attestedFlag :=
    (by decide : (AuthenticatorFlags.fromByte 0xc5).attestedCredentialDataPresent = true)
  extensionFlag := by decide
  extensionsNonempty := by decide

theorem parse_exact_iff_at_sample : (sampleData plainCredential).Recovered := by
  refine ((parse_exact_iff sampleCiborium sampleCiborium_shortest).2
    (sampleData plainCredential)).mpr ?_
  rintro c ⟨⟩
  refine ⟨?_, .inr (by decide : plainKeyBytes.length = sampleCoseKey.shortestSize)⟩
  show ∀ entry ∈ plainEntries, (entry.1.asSigned 32).isSome = true
  decide

set_option maxRecDepth 4000 in
/-- The three bytes of the sixth field are returned as the start of the extensions. -/
theorem extensions_misplaced :
    ¬(sampleData longCredential).Recovered ∧
      ∃ parsed, AuthenticatorData.parse sampleCiborium (sampleData longCredential).bytes =
        some (.ok parsed) ∧ parsed.extensions = some ([0x04, 0x81, 0x02] ++ sampleExtensions) := by
  refine ⟨fun recovered => ?_, _, rfl, rfl⟩
  obtain ⟨_, ends⟩ := (recovered_attested_iff (sampleData longCredential) rfl
    sampleCiborium_shortest).mp recovered
  rcases ends with none | ends
  · cases none
  · exact (by decide : longKeyBytes.length ≠ sampleCoseKey.shortestSize) ends

end

end OwlId.Crypto
