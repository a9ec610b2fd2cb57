import Mathlib
import OwlId.Lib.Bytes
import OwlId.Lib.Results

/-! # Ring signatures

A signer proves that one of the keys of a ring is theirs.  Each position of the ring has a
challenge and a response, and they chain: the point computed at one position hashes to the
challenge at the next.  Signing walks the ring from the signer's position and closes it
there; verification walks it from zero.  The walk is carried by `Signing.Linked`: every
position it has passed is linked to the next one.
-/

namespace OwlId.Crypto

open OwlId.Lib

/-! ## Positions in a ring -/

/-- The position `offset` steps after `start`, in a ring of `n`. -/
def position (n start offset : Nat) : Nat := (start + offset) % n

section

variable {n start i j : Nat}

theorem position_lt (nonempty : 0 < n) : position n start i < n := Nat.mod_lt _ nonempty

theorem position_next : (position n start i + 1) % n = position n start (i + 1) := by
  rw [position, position, Nat.mod_add_mod, Nat.add_assoc]

theorem position_injective (hi : i < n) (hj : j < n)
    (same : position n start i = position n start j) : i = j := by
  have congruent : i ≡ j [MOD n] := Nat.ModEq.add_left_cancel' start same
  exact congruent.eq_of_lt_of_lt hi hj

theorem exists_position (start : Nat) (inside : i < n) : ∃ j < n, position n start j = i := by
  refine ⟨(i + (n - start % n)) % n, Nat.mod_lt _ (by omega), ?_⟩
  have bound : start % n < n := Nat.mod_lt _ (by omega)
  rw [position, Nat.add_mod_mod, ← Nat.mod_add_mod]
  have whole : start % n + (i + (n - start % n)) = i + n := by omega
  rw [whole, Nat.add_mod_right, Nat.mod_eq_of_lt inside]

end

/-! ## Scalars and points -/

/-- A little-endian number. -/
def leNat : Bytes → Nat
  | [] => 0
  | b :: rest => b.toNat + 256 * leNat rest

/-- Scalars modulo the order of the group. -/
abbrev Scalar (order : Nat) := ZMod order

variable {order : Nat}

namespace Scalar

/-- `from_bytes_mod_order`, and with 64 bytes `from_bytes_mod_order_wide`. -/
def fromBytesModOrder (bytes : Bytes) : Scalar order := (leNat bytes : ZMod order)

/-- The canonical encoding. -/
def toBytes (s : Scalar order) : Bytes32 := leBytes32 s.val

end Scalar

/-- A group with its base point and the encoding of its points. -/
structure Curve (order : Nat) (Point : Type) where
  basepoint : Point
  compress : Point → Bytes32
  decompress : Bytes32 → Option Point

theorem leNat_digits (k n : Nat) :
    leNat ((List.range k).map fun i => UInt8.ofNat (n / 256 ^ i)) = n % 256 ^ k := by
  induction k generalizing n with
  | zero => simp [leNat, Nat.mod_one]
  | succ k ih =>
    have tail : (List.range k).map (fun i => UInt8.ofNat (n / 256 ^ (i + 1))) =
        (List.range k).map fun i => UInt8.ofNat (n / 256 / 256 ^ i) := by
      refine List.map_congr_left fun i _ => ?_
      rw [Nat.div_div_eq_div_mul, ← Nat.pow_succ']
    have head : (UInt8.ofNat n).toNat = n % 256 := UInt8.toNat_ofNat'
    rw [List.range_succ_eq_map, List.map_cons, List.map_map, leNat, Nat.pow_zero, Nat.div_one, head]
    show n % 256 + 256 * leNat ((List.range k).map fun i => UInt8.ofNat (n / 256 ^ (i + 1))) = _
    rw [tail, ih, Nat.pow_succ', Nat.mod_mul]

theorem leNat_leBytes32 {n : Nat} (fits : n < 256 ^ 32) : leNat (leBytes32 n).toList = n := by
  have digits : (leBytes32 n).toList = (List.range 32).map fun i => UInt8.ofNat (n / 256 ^ i) := by
    apply List.ext_getElem (by simp)
    intro i inside _
    simp [leBytes32]
  rw [digits, leNat_digits, Nat.mod_eq_of_lt fits]

theorem Scalar.fromBytes_toBytes [NeZero order] (fits : order ≤ 256 ^ 32) (s : Scalar order) :
    Scalar.fromBytesModOrder s.toBytes.toList = s := by
  rw [Scalar.fromBytesModOrder, Scalar.toBytes,
    leNat_leBytes32 ((ZMod.val_lt s).trans_le fits), ZMod.natCast_zmod_val]

/-! ## Signing and verification -/

inductive RingSignatureError where
  | ringTooSmall
  | signerNotInRing
  | invalidSignature
  | invalidPublicKey
deriving DecidableEq

def RingSignatureError.display : RingSignatureError → String
  | .ringTooSmall => "Ring must contain at least 2 members"
  | .signerNotInRing => "Signer not found in ring"
  | .invalidSignature => "Invalid signature"
  | .invalidPublicKey => "Invalid public key"

structure RingSignature where
  /-- One challenge per ring member. -/
  challenges : List Bytes32
  /-- One response per ring member. -/
  responses : List Bytes32
  /-- For linkability detection. -/
  keyImage : Bytes32

abbrev Ring := List Bytes32

section

variable {Point : Type} [AddCommGroup Point] [Module (ZMod order) Point]
variable (curve : Curve order Point) (sha512 : Bytes → Bytes)

def ringHash (message : Bytes) (point : Point) : Scalar order :=
  Scalar.fromBytesModOrder
    (sha512 (asBytes "RingSig" ++ message ++ (curve.compress point).toList))

def hashToPoint (data : Bytes) : Point :=
  (Scalar.fromBytesModOrder (sha512 (asBytes "HashToPoint" ++ data)) : Scalar order) •
    curve.basepoint

/-- `clamp_integer`. -/
def clampInteger (bytes : Bytes) : Bytes :=
  (bytes.modify 0 (· &&& 248)).modify 31 fun b => b &&& 127 ||| 64

def ed25519SeedToScalar (seed : Bytes32) : Scalar order :=
  Scalar.fromBytesModOrder (clampInteger ((sha512 seed.toList).take 32))

/-- The point of a position: the response times the base point plus the challenge times the
member's key. -/
def linkPoint (challenge response : Bytes32) (pkPoint : Point) : Point :=
  (Scalar.fromBytesModOrder response.toList : Scalar order) • curve.basepoint +
    (Scalar.fromBytesModOrder challenge.toList : Scalar order) • pkPoint

def publicKey (secret : Scalar order) : Bytes32 := curve.compress (secret • curve.basepoint)

/-- The variables of the signing loop. -/
structure Signing where
  challenges : List Bytes32
  responses : List Bytes32
  current : Nat

/-- What the generator returns: the bytes of `alpha`, and a block for each round. -/
structure Randomness where
  alphaBytes : Bytes
  blocks : Nat → Bytes

/-- One round: a random response for a position that is not the signer's, and the challenge
that follows from it. -/
def signRound (message : Bytes) (ring : Ring) (rng : Randomness) (st : Signing) (round : Nat) :
    Except RingSignatureError Signing := do
  let s : Scalar order := Scalar.fromBytesModOrder (rng.blocks round)
  let responses := st.responses.set st.current s.toBytes
  let c : Scalar order :=
    Scalar.fromBytesModOrder (st.challenges.getD st.current zero32).toList
  let pkPoint ← okOr (curve.decompress (ring.getD st.current zero32)) .invalidPublicKey
  let point := s • curve.basepoint + c • pkPoint
  let next := (st.current + 1) % ring.length
  return ⟨st.challenges.set next (ringHash curve sha512 message point).toBytes, responses, next⟩

def signWithScalar (message : Bytes) (secret : Scalar order) (ring : Ring) (rng : Randomness) :
    Except RingSignatureError RingSignature := do
  ensure (2 ≤ ring.length) .ringTooSmall
  let pk := publicKey curve secret
  let signerIdx ← okOr (ring.idxOf? pk) .signerNotInRing
  let n := ring.length
  let alpha : Scalar order := Scalar.fromBytesModOrder rng.alphaBytes
  let commitment := alpha • curve.basepoint
  let keyImage := curve.compress (secret • hashToPoint curve sha512 pk.toList)
  let nextIdx := (signerIdx + 1) % n
  let challenges :=
    (List.replicate n zero32).set nextIdx (ringHash curve sha512 message commitment).toBytes
  let walked ← (List.range (n - 1)).foldlM (signRound curve sha512 message ring rng)
    ⟨challenges, List.replicate n zero32, nextIdx⟩
  let cSigner : Scalar order :=
    Scalar.fromBytesModOrder (walked.challenges.getD signerIdx zero32).toList
  let sSigner := alpha - cSigner * secret
  return ⟨walked.challenges, walked.responses.set signerIdx sSigner.toBytes, keyImage⟩

/-- Signing with a raw scalar. -/
def sign (message : Bytes) (privateKey : Bytes32) (ring : Ring) (rng : Randomness) :
    Except RingSignatureError RingSignature :=
  signWithScalar curve sha512 message (Scalar.fromBytesModOrder privateKey.toList) ring rng

/-- Signing with an Ed25519 seed. -/
def signEd25519 (message : Bytes) (seed : Bytes32) (ring : Ring) (rng : Randomness) :
    Except RingSignatureError RingSignature :=
  signWithScalar curve sha512 message (ed25519SeedToScalar sha512 seed) ring rng

/-- The point at position `i` hashes to the challenge at the next one. -/
def links (message : Bytes) (ring : Ring) (challenges responses : List Bytes32) (i : Nat) : Bool :=
  match curve.decompress (ring.getD i zero32) with
  | none => false
  | some pkPoint =>
    (ringHash curve sha512 message (linkPoint curve (challenges.getD i zero32)
      (responses.getD i zero32) pkPoint)).toBytes =
        challenges.getD ((i + 1) % ring.length) zero32

def RingSignature.verify (sig : RingSignature) (message : Bytes) (ring : Ring) : Bool :=
  if ring.length < 2 ∨ ring.length ≠ sig.challenges.length ∨ ring.length ≠ sig.responses.length
  then false
  else (List.range ring.length).all (links curve sha512 message ring sig.challenges sig.responses)

end

/-! ## The walk round the ring -/

section

variable {Point : Type} [AddCommGroup Point] [Module (ZMod order) Point]
variable {curve : Curve order Point} {sha512 : Bytes → Bytes} {message : Bytes} {ring : Ring}

theorem getD_set_self {α : Type} {xs : List α} {i : Nat} {a d : α} (inside : i < xs.length) :
    (xs.set i a).getD i d = a := by
  rw [List.getD_eq_getElem?_getD, List.getElem?_set_self inside, Option.getD_some]

theorem getD_set_ne {α : Type} {xs : List α} {i j : Nat} {a d : α} (different : i ≠ j) :
    (xs.set i a).getD j d = xs.getD j d := by
  rw [List.getD_eq_getElem?_getD, List.getElem?_set_ne different, ← List.getD_eq_getElem?_getD]

/-- A link reads its own position and the next challenge only. -/
theorem links_congr {challenges challenges' responses responses' : List Bytes32} {i : Nat}
    (here : challenges.getD i zero32 = challenges'.getD i zero32)
    (next : challenges.getD ((i + 1) % ring.length) zero32 =
      challenges'.getD ((i + 1) % ring.length) zero32)
    (response : responses.getD i zero32 = responses'.getD i zero32) :
    links curve sha512 message ring challenges responses i =
      links curve sha512 message ring challenges' responses' i := by
  unfold links
  rw [here, next, response]

theorem links_eq {challenges responses : List Bytes32} {i : Nat} {pkPoint : Point}
    (decoded : curve.decompress (ring.getD i zero32) = some pkPoint) :
    links curve sha512 message ring challenges responses i =
      decide ((ringHash curve sha512 message (linkPoint curve (challenges.getD i zero32)
        (responses.getD i zero32) pkPoint)).toBytes =
          challenges.getD ((i + 1) % ring.length) zero32) := by
  unfold links
  rw [decoded]

theorem linkPoint_toBytes [NeZero order] (fits : order ≤ 256 ^ 32) {challenge : Bytes32}
    {s : Scalar order} {pkPoint : Point} :
    linkPoint curve challenge s.toBytes pkPoint = s • curve.basepoint +
      (Scalar.fromBytesModOrder challenge.toList : Scalar order) • pkPoint := by
  rw [linkPoint, Scalar.fromBytes_toBytes fits s]

/-- After `k` rounds from `start`: the first challenge is the one signing began with, and the
`k` positions that have been passed are linked. -/
structure Walked (curve : Curve order Point) (sha512 : Bytes → Bytes) (message : Bytes)
    (ring : Ring) (start : Nat) (first : Bytes32) (k : Nat) (st : Signing) : Prop where
  current : st.current = position ring.length start k
  challenges : st.challenges.length = ring.length
  responses : st.responses.length = ring.length
  first : st.challenges.getD (position ring.length start 0) zero32 = first
  linked : ∀ j < k, links curve sha512 message ring st.challenges st.responses
    (position ring.length start j) = true

variable {start k : Nat} {first : Bytes32} {st : Signing} {rng : Randomness}

/-- The state after a round at a valid member. -/
theorem signRound_eq {pkPoint : Point}
    (decoded : curve.decompress (ring.getD st.current zero32) = some pkPoint) :
    signRound curve sha512 message ring rng st k = .ok
      ⟨st.challenges.set ((st.current + 1) % ring.length)
        (ringHash curve sha512 message
          ((Scalar.fromBytesModOrder (rng.blocks k) : Scalar order) • curve.basepoint +
            (Scalar.fromBytesModOrder (st.challenges.getD st.current zero32).toList :
              Scalar order) • pkPoint)).toBytes,
        st.responses.set st.current
          (Scalar.fromBytesModOrder (rng.blocks k) : Scalar order).toBytes,
        (st.current + 1) % ring.length⟩ := by
  rw [signRound, decoded]
  rfl

theorem signRound_walks [NeZero order] (fits : order ≤ 256 ^ 32)
    (valid : ∀ pk ∈ ring, (curve.decompress pk).isSome = true) (inside : k + 1 < ring.length)
    (walked : Walked curve sha512 message ring start first k st) :
    ∃ st', signRound curve sha512 message ring rng st k = .ok st' ∧
      Walked curve sha512 message ring start first (k + 1) st' := by
  have bound : st.current < ring.length := walked.current ▸ position_lt (by omega)
  have member : ring.getD st.current zero32 ∈ ring := by
    rw [List.getD_eq_getElem _ _ bound]
    exact List.getElem_mem bound
  obtain ⟨pkPoint, decoded⟩ := Option.isSome_iff_exists.mp (valid _ member)
  have next : (st.current + 1) % ring.length = position ring.length start (k + 1) := by
    rw [walked.current, position_next]
  -- The position written now is not one that an earlier link reads.
  have fresh : ∀ j ≤ k, position ring.length start (k + 1) ≠ position ring.length start j := by
    intro j before same
    have := position_injective (by omega) (by omega) same
    omega
  have here : st.current ≠ position ring.length start (k + 1) := by
    rw [walked.current]
    exact (fresh k le_rfl).symm
  refine ⟨_, signRound_eq decoded, next, ?_, ?_, ?_, ?_⟩
  · rw [List.length_set, walked.challenges]
  · rw [List.length_set, walked.responses]
  · rw [next, getD_set_ne (fresh 0 (Nat.zero_le k)), walked.first]
  · intro j before
    rcases Nat.lt_succ_iff_lt_or_eq.mp before with earlier | rfl
    · rw [← walked.linked j earlier]
      have notHere : st.current ≠ position ring.length start j := by
        rw [walked.current]
        intro same
        have := position_injective (by omega) (by omega) same
        omega
      apply links_congr
      · rw [next, getD_set_ne (fresh j (by omega))]
      · rw [next, position_next, getD_set_ne (fresh (j + 1) (by omega))]
      · rw [getD_set_ne notHere]
    · rw [← walked.current]
      have response : (st.responses.set st.current
          (Scalar.fromBytesModOrder (rng.blocks j) : Scalar order).toBytes).getD st.current zero32 =
            (Scalar.fromBytesModOrder (rng.blocks j) : Scalar order).toBytes :=
        getD_set_self (by rw [walked.responses]; exact bound)
      rw [links_eq decoded, response, linkPoint_toBytes fits, next, getD_set_ne here.symm,
        getD_set_self (by rw [walked.challenges]; exact position_lt (by omega)), decide_eq_true_eq]

/-- All rounds of the loop. -/
theorem rounds_walk [NeZero order] (fits : order ≤ 256 ^ 32)
    (valid : ∀ pk ∈ ring, (curve.decompress pk).isSome = true)
    (walked : Walked curve sha512 message ring start first 0 st) (inside : k < ring.length) :
    ∃ st', (List.range k).foldlM (signRound curve sha512 message ring rng) st = .ok st' ∧
      Walked curve sha512 message ring start first k st' := by
  induction k with
  | zero => exact ⟨st, rfl, walked⟩
  | succ k ih =>
    obtain ⟨before, rounds, walkedBefore⟩ := ih (by omega)
    obtain ⟨after, round, walkedAfter⟩ :=
      signRound_walks fits valid inside walkedBefore
    refine ⟨after, ?_, walkedAfter⟩
    rw [List.range_succ, List.foldlM_append, rounds]
    show (List.foldlM _ before [k] : Except _ _) = _
    rw [List.foldlM_cons, round]
    rfl

/-- The response that closes the ring gives the point that signing began with. -/
theorem closing_point (secret alpha c : Scalar order) :
    (alpha - c * secret) • curve.basepoint + c • (secret • curve.basepoint) =
      alpha • curve.basepoint := by
  rw [sub_smul, mul_smul, sub_add_cancel]

/-! ## Completeness -/

/-- The walk and the closing response together link every position. -/
theorem closed_links [NeZero order] (fits : order ≤ 256 ^ 32) {signer : Nat}
    {alpha secret : Scalar order} (inside : signer < ring.length)
    (decoded : curve.decompress (ring.getD signer zero32) = some (secret • curve.basepoint))
    (walked : Walked curve sha512 message ring (signer + 1)
      (ringHash curve sha512 message (alpha • curve.basepoint)).toBytes (ring.length - 1) st)
    {i : Nat} (bound : i < ring.length) :
    links curve sha512 message ring st.challenges
      (st.responses.set signer (alpha - (Scalar.fromBytesModOrder
        (st.challenges.getD signer zero32).toList : Scalar order) * secret).toBytes) i = true := by
  have last : position ring.length (signer + 1) (ring.length - 1) = signer := by
    have whole : signer + 1 + (ring.length - 1) = signer + ring.length := by omega
    rw [position, whole, Nat.add_mod_right, Nat.mod_eq_of_lt inside]
  obtain ⟨j, before, rfl⟩ := exists_position (signer + 1) bound
  by_cases earlier : j < ring.length - 1
  · -- The closing response does not touch a link of the walk.
    have notSigner : signer ≠ position ring.length (signer + 1) j := by
      intro same
      have := position_injective (by omega) before (last.trans same)
      omega
    rw [← walked.linked j earlier]
    exact links_congr rfl rfl (getD_set_ne notSigner)
  · obtain rfl : j = ring.length - 1 := by omega
    have response : ∀ r : Bytes32, (st.responses.set signer r).getD signer zero32 = r := fun r =>
      getD_set_self (by rw [walked.responses]; exact inside)
    have first := walked.first
    rw [position, Nat.add_zero] at first
    rw [last, links_eq decoded, response, linkPoint_toBytes fits, closing_point, first,
      decide_eq_true_eq]

/-- A signature for any key of the ring is made, and it verifies. -/
theorem signWithScalar_verifies [NeZero order] (fits : order ≤ 256 ^ 32)
    (lawful : ∀ point, curve.decompress (curve.compress point) = some point)
    (big : 2 ≤ ring.length) (valid : ∀ pk ∈ ring, (curve.decompress pk).isSome = true)
    {secret : Scalar order} (member : publicKey curve secret ∈ ring) :
    ∃ sig, signWithScalar curve sha512 message secret ring rng = .ok sig ∧
      sig.verify curve sha512 message ring = true := by
  obtain ⟨signer, found⟩ : ∃ signer, ring.idxOf? (publicKey curve secret) = some signer :=
    Option.isSome_iff_exists.mp (List.isSome_idxOf?.mpr member)
  obtain ⟨inside, atSigner, _⟩ := List.idxOf?_eq_some_iff.mp found
  have decoded : curve.decompress (ring.getD signer zero32) =
      some (secret • curve.basepoint) := by
    rw [List.getD_eq_getElem _ _ inside, atSigner, publicKey, lawful]
  let alpha : Scalar order := Scalar.fromBytesModOrder rng.alphaBytes
  let begun : Signing :=
    ⟨(List.replicate ring.length zero32).set ((signer + 1) % ring.length)
      (ringHash curve sha512 message (alpha • curve.basepoint)).toBytes,
      List.replicate ring.length zero32, (signer + 1) % ring.length⟩
  have start : Walked curve sha512 message ring (signer + 1)
      (ringHash curve sha512 message (alpha • curve.basepoint)).toBytes 0 begun :=
    { current := rfl
      challenges := by simp [begun]
      responses := by simp [begun]
      first := getD_set_self (by simpa using Nat.mod_lt _ (by omega))
      linked := fun j none => absurd none (Nat.not_lt_zero j) }
  obtain ⟨st, rounds, walked⟩ :=
    rounds_walk fits valid start (by omega : ring.length - 1 < ring.length)
  refine ⟨⟨st.challenges, st.responses.set signer (alpha - (Scalar.fromBytesModOrder
    (st.challenges.getD signer zero32).toList : Scalar order) * secret).toBytes,
    curve.compress (secret • hashToPoint curve sha512 (publicKey curve secret).toList)⟩, ?_, ?_⟩
  · simp only [signWithScalar, bind_eq_ok, ensure_eq_ok, okOr_eq_ok, pure_eq_ok]
    exact ⟨(), big, signer, found, st, rounds, rfl⟩
  · have lengths : ¬(ring.length < 2 ∨ ring.length ≠ st.challenges.length ∨
        ring.length ≠ (st.responses.set signer (alpha - (Scalar.fromBytesModOrder
          (st.challenges.getD signer zero32).toList : Scalar order) * secret).toBytes).length) := by
      rw [List.length_set, walked.challenges, walked.responses]
      omega
    rw [RingSignature.verify, if_neg lengths, List.all_eq_true]
    intro i bound
    exact closed_links fits inside decoded walked (List.mem_range.mp bound)

/-! ## Main results -/

/-- Whatever the ring, the signer's place in it and the randomness, both ways of signing succeed
for a key of the ring and the signature verifies.  Keys may occur more than once. -/
theorem ring_signature_complete {order : Nat} [NeZero order] (fits : order ≤ 256 ^ 32)
    {Point : Type} [AddCommGroup Point] [Module (ZMod order) Point] (curve : Curve order Point)
    (lawful : ∀ point, curve.decompress (curve.compress point) = some point)
    (sha512 : Bytes → Bytes) (message : Bytes) (ring : Ring) (big : 2 ≤ ring.length)
    (valid : ∀ pk ∈ ring, (curve.decompress pk).isSome = true) (rng : Randomness) :
    (∀ privateKey : Bytes32,
      publicKey curve (Scalar.fromBytesModOrder privateKey.toList) ∈ ring →
      ∃ sig, sign curve sha512 message privateKey ring rng = .ok sig ∧
        sig.verify curve sha512 message ring = true) ∧
    ∀ seed : Bytes32, publicKey curve (ed25519SeedToScalar sha512 seed) ∈ ring →
      ∃ sig, signEd25519 curve sha512 message seed ring rng = .ok sig ∧
        sig.verify curve sha512 message ring = true :=
  ⟨fun _ member => signWithScalar_verifies fits lawful big valid member,
    fun _ member => signWithScalar_verifies fits lawful big valid member⟩

/-- No other key image is accepted in this one's place. -/
def RingSignature.KeyImageBound (sig : RingSignature) (curve : Curve order Point)
    (sha512 : Bytes → Bytes) (message : Bytes) (ring : Ring) : Prop :=
  ∀ image ≠ sig.keyImage, ({ sig with keyImage := image }).verify curve sha512 message ring = false

theorem exists_other_image (image : Bytes32) : ∃ other : Bytes32, other ≠ image := by
  by_cases zero : image = zero32
  · exact ⟨leBytes32 1, zero ▸ by decide⟩
  · exact ⟨zero32, fun same => zero same.symm⟩

/-- Verification does not read the key image. -/
theorem RingSignature.verify_keyImage (sig : RingSignature) (image : Bytes32) :
    ({ sig with keyImage := image }).verify curve sha512 message ring =
      sig.verify curve sha512 message ring := rfl

/-- An accepted signature stays accepted under every key image, so its own is never bound. -/
theorem key_image_never_bound (curve : Curve order Point) (sha512 : Bytes → Bytes)
    (message : Bytes) (ring : Ring) (sig : RingSignature)
    (accepted : sig.verify curve sha512 message ring = true) :
    (∀ image, ({ sig with keyImage := image }).verify curve sha512 message ring = true) ∧
      ¬sig.KeyImageBound curve sha512 message ring := by
  have every : ∀ image, ({ sig with keyImage := image }).verify curve sha512 message ring = true :=
    fun image => (sig.verify_keyImage image).trans accepted
  refine ⟨every, fun bound => ?_⟩
  obtain ⟨other, different⟩ := exists_other_image sig.keyImage
  exact Bool.false_ne_true ((bound other different).symm.trans (every other))

end

/-! ## A ring of two -/

/-- The order of the group of Curve25519. -/
def sampleOrder : Nat := 2 ^ 252 + 27742317777372353535851937790883648493

instance : NeZero sampleOrder := ⟨by decide⟩

/-- The scalars as their own group, a point being encoded as its number. -/
def sampleCurve : Curve sampleOrder (ZMod sampleOrder) where
  basepoint := 1
  compress point := leBytes32 point.val
  decompress bytes :=
    if leNat bytes.toList < sampleOrder then some (leNat bytes.toList : ZMod sampleOrder) else none

theorem sampleOrder_fits : sampleOrder ≤ 256 ^ 32 := by decide

theorem sampleCurve_lawful (point : ZMod sampleOrder) :
    sampleCurve.decompress (sampleCurve.compress point) = some point := by
  have bound : point.val < sampleOrder := ZMod.val_lt point
  simp only [sampleCurve, leNat_leBytes32 (bound.trans_le sampleOrder_fits), if_pos bound,
    ZMod.natCast_zmod_val]

def sampleKey : Bytes32 := leBytes32 5

/-- The signer's key twice, and another one. -/
def sampleRing : Ring :=
  [publicKey sampleCurve (Scalar.fromBytesModOrder sampleKey.toList), publicKey sampleCurve 2,
    publicKey sampleCurve (Scalar.fromBytesModOrder sampleKey.toList)]

def sampleRandomness : Randomness := ⟨List.replicate 64 9, fun round => [UInt8.ofNat round, 7]⟩

def sampleSha512 (bytes : Bytes) : Bytes := bytes.take 64

theorem sampleRing_valid : ∀ pk ∈ sampleRing, (sampleCurve.decompress pk).isSome = true := by
  intro pk member
  simp only [sampleRing, List.mem_cons, List.not_mem_nil, or_false] at member
  rcases member with rfl | rfl | rfl <;> rw [publicKey, sampleCurve_lawful, Option.isSome_some]

theorem ring_signature_complete_at_sample :
    ∃ sig, sign sampleCurve sampleSha512 (asBytes "ballot") sampleKey sampleRing
        sampleRandomness = .ok sig ∧
      sig.verify sampleCurve sampleSha512 (asBytes "ballot") sampleRing = true :=
  (ring_signature_complete sampleOrder_fits sampleCurve sampleCurve_lawful sampleSha512
    (asBytes "ballot") sampleRing (by decide) sampleRing_valid sampleRandomness).1 sampleKey
    List.mem_cons_self

theorem sample_signed :
    ∃ sig, sign sampleCurve sampleSha512 (asBytes "ballot") sampleKey sampleRing
        sampleRandomness = .ok sig ∧
      sig.verify sampleCurve sampleSha512 (asBytes "ballot") sampleRing = true :=
  signWithScalar_verifies sampleOrder_fits sampleCurve_lawful (by decide) sampleRing_valid
    List.mem_cons_self

theorem key_image_never_bound_at_sample :
    ∃ sig, sign sampleCurve sampleSha512 (asBytes "ballot") sampleKey sampleRing
        sampleRandomness = .ok sig ∧
      ¬sig.KeyImageBound sampleCurve sampleSha512 (asBytes "ballot") sampleRing := by
  obtain ⟨sig, signed, accepted⟩ := sample_signed
  exact ⟨sig, signed, (key_image_never_bound _ _ _ _ sig accepted).2⟩

/-- Two signatures with one key on one message, with different key images, both accepted. -/
theorem linked_signatures_differ :
    ∃ sig sig' : RingSignature,
      sign sampleCurve sampleSha512 (asBytes "ballot") sampleKey sampleRing sampleRandomness =
        .ok sig ∧
      sig.verify sampleCurve sampleSha512 (asBytes "ballot") sampleRing = true ∧
      sig'.verify sampleCurve sampleSha512 (asBytes "ballot") sampleRing = true ∧
      sig'.challenges = sig.challenges ∧ sig'.responses = sig.responses ∧
      sig'.keyImage ≠ sig.keyImage := by
  obtain ⟨sig, signed, accepted⟩ := sample_signed
  obtain ⟨other, different⟩ := exists_other_image sig.keyImage
  exact ⟨sig, { sig with keyImage := other }, signed, accepted,
    (sig.verify_keyImage other).trans accepted, rfl, rfl, different⟩

end OwlId.Crypto
