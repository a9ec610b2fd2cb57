import Mathlib
import OwlId.Crypto.AuthenticatorData
import OwlId.Lib.Runs
import OwlId.Lib.StandardBase64
import OwlId.ProofSystem.SdJwtRoundTrip

/-! # WebAuthn assertions

`AuthenticationResponse.verify` checks one assertion against the counter stored for its
credential and returns the counter to store next.  Whether an old assertion can come back is
a question about runs: `replay_protected_iff` says in which sequences of calls it cannot.
-/

namespace OwlId.Crypto

open OwlId.Lib OwlId.Lib.Runs
open OwlId.ProofSystem (Hashes Json Primitives PublicKey SignatureAlgorithm)

/-- The data of `data`, which the parser never fails to give an answer for. -/
def AuthenticatorData.parsed (cbor : Ciborium) (data : Bytes) :
    Except WebAuthnError AuthenticatorData :=
  (AuthenticatorData.parse cbor data).get (Option.isSome_iff_ne_none.mpr (parse_ne_none cbor data))

/-- What `verify` takes from the ECDSA library. -/
structure P256Ecdsa where
  /-- `Signature::from_der`. -/
  fromDer : Bytes → Except String Bytes
  /-- `Signature::from_slice`. -/
  fromSlice : Bytes → Except String Bytes
  /-- `VerifyingKey::from_sec1_bytes`. -/
  verifyingKey : Bytes → Except String Bytes
  /-- `Verifier::verify`, of a signature on a message. -/
  verify : Bytes → Bytes → Bytes → Except String Unit

/-- The libraries behind a verifier. -/
structure WebAuthnLibraries where
  primitives : Primitives
  hashes : Hashes
  cbor : Ciborium
  ecdsa : P256Ecdsa

structure AuthenticationResponse where
  authenticatorData : String
  clientDataJson : String
  signature : String
deriving DecidableEq

section

variable (L : WebAuthnLibraries)

def decodeStandard (s : String) : Except WebAuthnError Bytes :=
  okOr (b64StandardDecode s) (.base64Error (L.primitives.base64Error s))

/-- An ES256 key on P-256, its point uncompressed. -/
def CoseKey.toPublicKey (key : CoseKey) : Except WebAuthnError PublicKey := do
  ensure (key.kty = 2) .invalidCoseKey
  ensure (key.alg = -7) .invalidCoseKey
  ensure (key.crv = 1) .invalidCoseKey
  mapErr .signatureError
    (PublicKey.fromBytesWithAlgorithm L.primitives (0x04 :: key.x ++ key.y) .ecdsaP256)

def clientDataField (clientData : Json) (name : String) : Except WebAuthnError String :=
  okOr (clientData.getStr name) .invalidClientDataJson

/-- DER first, then the raw form; the error is that of the raw form. -/
def parseSignature (bytes : Bytes) : Except WebAuthnError Bytes :=
  match L.ecdsa.fromDer bytes with
  | .ok sig => .ok sig
  | .error _ =>
    mapErr (fun e => .invalidSignature ("signature parse error: " ++ e)) (L.ecdsa.fromSlice bytes)

/-- What a caller of `verify` expects of an assertion. -/
structure Expectations where
  challenge : String
  origin : String
  rpId : String
  requireUserVerification : Bool

/-- The checks of the client data. -/
def checkClientData (response : AuthenticationResponse) (expected : Expectations) :
    Except WebAuthnError Bytes := do
  let clientDataBytes ← decodeStandard L response.clientDataJson
  let clientData ← mapErr .jsonError (L.primitives.fromSlice clientDataBytes)
  ensure ((← clientDataField clientData "type") = "webauthn.get") .invalidClientDataJson
  ensure ((← clientDataField clientData "challenge") = expected.challenge) .challengeMismatch
  ensure ((← clientDataField clientData "origin") = expected.origin) .originMismatch
  return clientDataBytes

/-- The checks of the relying party and the flags. -/
def checkAuthenticatorData (authData : AuthenticatorData) (expected : Expectations) :
    Except WebAuthnError Unit := do
  ensure (authData.rpIdHash = (L.hashes.sha256 (asBytes expected.rpId)).toList) .originMismatch
  ensure (authData.flags.userPresent = true) .userVerificationRequired
  ensure (expected.requireUserVerification = true → authData.flags.userVerified = true)
    .userVerificationRequired

/-- The checks of the key and the signature. -/
def checkSignature (response : AuthenticationResponse) (credentialPublicKey : String)
    (authDataBytes clientDataBytes : Bytes) : Except WebAuthnError Unit := do
  let coseKey ← CoseKey.fromCbor L.cbor (← decodeStandard L credentialPublicKey)
  let publicKey ← coseKey.toPublicKey L
  let signedData := authDataBytes ++ (L.hashes.sha256 clientDataBytes).toList
  let sig ← parseSignature L (← decodeStandard L response.signature)
  let verifyingKey ← mapErr .invalidSignature (L.ecdsa.verifyingKey publicKey.bytes)
  mapErr .invalidSignature (L.ecdsa.verify verifyingKey signedData sig)

def AuthenticationResponse.verify (response : AuthenticationResponse)
    (credentialPublicKey : String) (storedCounter : Nat) (expected : Expectations) :
    Except WebAuthnError Nat := do
  let clientDataBytes ← checkClientData L response expected
  let authDataBytes ← decodeStandard L response.authenticatorData
  let authData ← AuthenticatorData.parsed L.cbor authDataBytes
  checkAuthenticatorData L authData expected
  ensure (¬(0 < authData.counter ∧ authData.counter ≤ storedCounter)) .counterReplay
  checkSignature L response credentialPublicKey authDataBytes clientDataBytes
  return authData.counter

/-- The assertion carries this counter and passes every check but the counter's. -/
def AuthenticationResponse.Passes (response : AuthenticationResponse)
    (credentialPublicKey : String) (expected : Expectations) (counter : Nat) : Prop :=
  ∃ clientDataBytes authDataBytes authData,
    checkClientData L response expected = .ok clientDataBytes ∧
    decodeStandard L response.authenticatorData = .ok authDataBytes ∧
    AuthenticatorData.parsed L.cbor authDataBytes = .ok authData ∧
    checkAuthenticatorData L authData expected = .ok () ∧
    checkSignature L response credentialPublicKey authDataBytes clientDataBytes = .ok () ∧
    authData.counter = counter

/-! ## Runs -/

/-- A call of `verify` on the credential. -/
structure AssertionCall where
  response : AuthenticationResponse
  expected : Expectations

/-- An accepted assertion with the counter that was returned for it. -/
structure AcceptedAssertion where
  response : AuthenticationResponse
  counter : Nat

structure CounterState where
  storedCounter : Nat
  accepted : List AcceptedAssertion

variable (credentialPublicKey : String)

/-- A returned counter is stored; a refused assertion changes nothing. -/
def CounterState.step (state : CounterState) (call : AssertionCall) : CounterState :=
  match call.response.verify L credentialPublicKey state.storedCounter call.expected with
  | .ok counter => ⟨counter, state.accepted ++ [⟨call.response, counter⟩]⟩
  | .error _ => state

/-- The calls in order, from the counter stored before them. -/
def runAssertions (storedCounter : Nat) (calls : List AssertionCall) : CounterState :=
  run (CounterState.step L credentialPublicKey) ⟨storedCounter, []⟩ calls

/-- No assertion with a positive counter is accepted twice, and every counter accepted after a
positive one is greater. -/
structure ReplayProtected (accepted : List AcceptedAssertion) : Prop where
  once : accepted.Pairwise fun a b => 0 < a.counter → a.response ≠ b.response
  increasing : accepted.Pairwise fun a b => 0 < a.counter → a.counter < b.counter

/-- An assertion with counter zero passes the other checks although a positive counter has been
accepted. -/
def CounterReset (state : CounterState) (call : AssertionCall) : Prop :=
  (∃ a ∈ state.accepted, 0 < a.counter) ∧
    call.response.Passes L credentialPublicKey call.expected 0

end

/-! ## One call -/

section

variable {L : WebAuthnLibraries} {credentialPublicKey : String}

/-- An assertion is accepted when it passes the checks and its counter is zero or new. -/
theorem verify_eq_ok {response : AuthenticationResponse} {storedCounter counter : Nat}
    {expected : Expectations} :
    response.verify L credentialPublicKey storedCounter expected = .ok counter ↔
      response.Passes L credentialPublicKey expected counter ∧
        (counter = 0 ∨ storedCounter < counter) := by
  simp only [AuthenticationResponse.verify, AuthenticationResponse.Passes, bind_eq_ok,
    pure_eq_ok, ensure_eq_ok, exists_const]
  constructor
  · rintro ⟨clientData, client, data, decoded, authData, parsed, _, checked, fresh, _, signed, rfl⟩
    exact ⟨⟨clientData, data, authData, client, decoded, parsed, checked, signed, rfl⟩, by omega⟩
  · rintro ⟨⟨clientData, data, authData, client, decoded, parsed, checked, signed, rfl⟩, fresh⟩
    exact ⟨clientData, client, data, decoded, authData, parsed, (), checked, by omega, (), signed,
      rfl⟩

/-- The counter is the assertion's own. -/
theorem AuthenticationResponse.Passes.counter_unique {response : AuthenticationResponse}
    {expected expected' : Expectations} {counter counter' : Nat}
    (passes : response.Passes L credentialPublicKey expected counter)
    (passes' : response.Passes L credentialPublicKey expected' counter') : counter' = counter := by
  obtain ⟨_, data, authData, _, decoded, parsed, _, _, rfl⟩ := passes
  obtain ⟨_, data', authData', _, decoded', parsed', _, _, rfl⟩ := passes'
  obtain rfl := Except.ok.inj (decoded.symm.trans decoded')
  obtain rfl := Except.ok.inj (parsed.symm.trans parsed')
  rfl

/-- What a call does to the state. -/
theorem step_cases (state : CounterState) (call : AssertionCall) :
    state.step L credentialPublicKey call = state ∨
      ∃ counter, call.response.Passes L credentialPublicKey call.expected counter ∧
        (counter = 0 ∨ state.storedCounter < counter) ∧
        state.step L credentialPublicKey call =
          ⟨counter, state.accepted ++ [⟨call.response, counter⟩]⟩ := by
  unfold CounterState.step
  cases outcome : call.response.verify L credentialPublicKey state.storedCounter call.expected with
  | error e => exact .inl rfl
  | ok counter =>
    obtain ⟨passes, fresh⟩ := verify_eq_ok.mp outcome
    exact .inr ⟨counter, passes, fresh, rfl⟩

theorem step_of_passes {state : CounterState} {call : AssertionCall} {counter : Nat}
    (passes : call.response.Passes L credentialPublicKey call.expected counter)
    (fresh : counter = 0 ∨ state.storedCounter < counter) :
    state.step L credentialPublicKey call =
      ⟨counter, state.accepted ++ [⟨call.response, counter⟩]⟩ := by
  rw [CounterState.step, verify_eq_ok.mpr ⟨passes, fresh⟩]

/-! ## Whole runs -/

/-- The accepted assertions passed the checks with their counters, a positive one is never above
what is stored, and each is below all that follow. -/
structure HighWater (L : WebAuthnLibraries) (credentialPublicKey : String) (state : CounterState) :
    Prop where
  bounded : ∀ a ∈ state.accepted, 0 < a.counter → a.counter ≤ state.storedCounter
  increasing : state.accepted.Pairwise fun a b => 0 < a.counter → a.counter < b.counter

theorem HighWater.step {state : CounterState} {call : AssertionCall}
    (high : HighWater L credentialPublicKey state)
    (noReset : ¬CounterReset L credentialPublicKey state call) :
    HighWater L credentialPublicKey (state.step L credentialPublicKey call) := by
  rcases @step_cases L credentialPublicKey state call with same | ⟨counter, passes, fresh, next⟩
  · rwa [same]
  · -- A positive counter accepted before is below the new one, since the new one is not zero.
    have above : ∀ a ∈ state.accepted, 0 < a.counter → a.counter < counter := by
      intro a member positive
      have below := high.bounded a member positive
      rcases fresh with rfl | new
      · exact absurd ⟨⟨a, member, positive⟩, passes⟩ noReset
      · omega
    rw [next]
    refine ⟨?_, ?_⟩
    · intro a member positive
      rcases List.mem_append.mp member with before | here
      · exact (above a before positive).le
      · rw [List.mem_singleton.mp here]
    · rw [List.pairwise_append]
      refine ⟨high.increasing, List.pairwise_singleton _ _, ?_⟩
      intro a before b here positive
      rw [List.mem_singleton.mp here]
      exact above a before positive

/-- Every accepted assertion of a run passed the checks with the counter it was accepted with. -/
def AllPassed (L : WebAuthnLibraries) (credentialPublicKey : String) (state : CounterState) :
    Prop :=
  ∀ a ∈ state.accepted, ∃ expected, a.response.Passes L credentialPublicKey expected a.counter

theorem allPassed_run (storedCounter : Nat) (calls : List AssertionCall) :
    AllPassed L credentialPublicKey (runAssertions L credentialPublicKey storedCounter calls) := by
  refine run_invariant (AllPassed L credentialPublicKey) (by simp [AllPassed]) ?_ calls
  intro state call passed
  rcases @step_cases L credentialPublicKey state call with same | ⟨counter, passes, _, next⟩
  · rwa [same]
  · rw [next]
    intro a member
    rcases List.mem_append.mp member with before | here
    · exact passed a before
    · rw [List.mem_singleton.mp here]
      exact ⟨_, passes⟩

/-- Counters that increase belong to different assertions. -/
theorem replayProtected_of_increasing {state : CounterState}
    (passed : AllPassed L credentialPublicKey state)
    (increasing : state.accepted.Pairwise fun a b => 0 < a.counter → a.counter < b.counter) :
    ReplayProtected state.accepted := by
  refine ⟨increasing.imp_of_mem ?_, increasing⟩
  intro a b memberA memberB less positive same
  obtain ⟨_, passesA⟩ := passed a memberA
  obtain ⟨_, passesB⟩ := passed b memberB
  rw [← same] at passesB
  have := less positive
  rw [passesA.counter_unique passesB] at this
  exact lt_irrefl _ this

/-! ## Main result -/

/-- A run is protected against replays exactly when no call of it resets the counter. -/
theorem replay_protected_iff (L : WebAuthnLibraries) (credentialPublicKey : String)
    (storedCounter : Nat) (calls : List AssertionCall) :
    (∀ past, past <+: calls → ReplayProtected
      (runAssertions L credentialPublicKey storedCounter past).accepted) ↔
    ∀ past call, past ++ [call] <+: calls → ¬CounterReset L credentialPublicKey
      (runAssertions L credentialPublicKey storedCounter past) call := by
  constructor
  · intro protectedRun past call reached reset
    obtain ⟨⟨a, member, positive⟩, passes⟩ := reset
    have increasing := (protectedRun _ reached).increasing
    rw [runAssertions, run_concat, step_of_passes passes (.inl rfl), List.pairwise_append]
      at increasing
    exact Nat.not_lt_zero _ (increasing.2.2 a member _ (List.mem_singleton_self _) positive)
  · intro noReset
    have high : ∀ past, past <+: calls → HighWater L credentialPublicKey
        (runAssertions L credentialPublicKey storedCounter past) := by
      refine reached_induction ⟨by simp [runAssertions], by simp [runAssertions]⟩ ?_
      intro past call reached high
      rw [runAssertions, run_concat]
      exact high.step (noReset past call reached)
    intro past reached
    exact replayProtected_of_increasing (allPassed_run storedCounter past)
      (high past reached).increasing

end

/-! ## A counter that goes back to zero -/

section

open OwlId.ProofSystem (samplePrimitives sampleHashes samplePrimitives_roundTrips render RoundTrips)

def sampleClientData : Json :=
  .ofFields [("type", .string "webauthn.get"), ("challenge", .string "dGVzdA"),
    ("origin", .string "https://owlid.example")]

/-- An ECDSA library whose signatures name the key and the message. -/
def sampleEcdsa : P256Ecdsa where
  fromDer bytes := .ok bytes
  fromSlice bytes := .ok bytes
  verifyingKey bytes := .ok bytes
  verify key message sig := if sig = key ++ message then .ok () else .error "signature error"

def sampleLibraries : WebAuthnLibraries :=
  ⟨samplePrimitives [sampleClientData], sampleHashes, sampleCiborium, sampleEcdsa⟩

def sampleExpectations : Expectations :=
  ⟨"dGVzdA", "https://owlid.example", "owlid.example", true⟩

/-- An assertion with the user present and verified. -/
def sampleAssertion (counter : Nat) (fits : counter < 256 ^ 4) : EncodedData sampleCiborium where
  rpIdHash := sampleHashes.sha256 (asBytes "owlid.example")
  flagsByte := 0x05
  counter := counter
  counterFits := fits
  attested := none
  extensions := none
  attestedFlag := by decide
  extensionFlag := by decide
  extensionsNonempty := nofun

def samplePoint : Bytes := 0x04 :: sampleX ++ sampleY

def sampleCredentialKey : String := b64Standard plainKeyBytes

def sampleCall (counter : Nat) (fits : counter < 256 ^ 4) : AssertionCall where
  response :=
    { authenticatorData := b64Standard (sampleAssertion counter fits).bytes
      clientDataJson := b64Standard (render sampleClientData)
      signature := b64Standard (samplePoint ++ ((sampleAssertion counter fits).bytes ++
        (sampleHashes.sha256 (render sampleClientData)).toList)) }
  expected := sampleExpectations

theorem decodeStandard_b64Standard (L : WebAuthnLibraries) (bytes : Bytes) :
    decodeStandard L (b64Standard bytes) = .ok bytes := by
  rw [decodeStandard, b64StandardDecode_b64Standard]
  rfl

theorem parsed_sampleAssertion (counter : Nat) (fits : counter < 256 ^ 4) :
    AuthenticatorData.parsed sampleCiborium (sampleAssertion counter fits).bytes =
      .ok (sampleAssertion counter fits).value := by
  have recovered := recovered_without_credential (sampleAssertion counter fits) rfl
  rw [EncodedData.Recovered] at recovered
  simp only [AuthenticatorData.parsed, recovered, Option.get_some]

theorem sampleCall_passes (counter : Nat) (fits : counter < 256 ^ 4) :
    (sampleCall counter fits).response.Passes sampleLibraries sampleCredentialKey
      (sampleCall counter fits).expected counter := by
  have readsBack : RoundTrips (samplePrimitives [sampleClientData]) sampleClientData :=
    samplePrimitives_roundTrips (by simp : ([sampleClientData].map render).Nodup) (by decide)
      List.mem_cons_self
  have client : checkClientData sampleLibraries (sampleCall counter fits).response
      sampleExpectations = .ok (render sampleClientData) := by
    simp only [checkClientData, bind_eq_ok, mapErr_eq_ok, ensure_eq_ok, exists_const, pure_eq_ok]
    exact ⟨_, decodeStandard_b64Standard _ _, sampleClientData, readsBack.read, _, rfl, rfl, _, rfl,
      rfl, _, rfl, rfl, rfl⟩
  have readable : ReadableLabels plainEntries := by
    show ∀ entry ∈ plainEntries, (entry.1.asSigned 32).isSome = true
    decide
  have key : CoseKey.fromCbor sampleCiborium plainKeyBytes = .ok sampleCoseKey := by
    have read := plainCredential.fromCbor_keyBytes []
    rw [List.append_nil] at read
    exact read.trans ((ofEntries_eq_ok_iff plainEntries_ec2).1.mpr readable)
  have signed : checkSignature sampleLibraries (sampleCall counter fits).response
      sampleCredentialKey (sampleAssertion counter fits).bytes (render sampleClientData) =
        .ok () := by
    simp only [checkSignature, bind_eq_ok, mapErr_eq_ok]
    exact ⟨_, decodeStandard_b64Standard _ _, sampleCoseKey, key, ⟨.ecdsaP256, samplePoint⟩, rfl, _,
      decodeStandard_b64Standard _ _, _, rfl, samplePoint, rfl, if_pos rfl⟩
  refine ⟨render sampleClientData, (sampleAssertion counter fits).bytes,
    (sampleAssertion counter fits).value, client, decodeStandard_b64Standard _ _,
    parsed_sampleAssertion counter fits, ?_, signed, rfl⟩
  simp only [checkAuthenticatorData, bind_eq_ok, ensure_eq_ok, exists_const]
  exact ⟨rfl, (by decide : (AuthenticatorFlags.fromByte 0x05).userPresent = true),
    fun _ => (by decide : (AuthenticatorFlags.fromByte 0x05).userVerified = true)⟩

def fifth : AssertionCall := sampleCall 5 (by decide)
def zeroth : AssertionCall := sampleCall 0 (by decide)

/-- Three calls on a new credential: the counter goes from five to zero and the first assertion
is accepted again. -/
theorem counter_reset_replays :
    (runAssertions sampleLibraries sampleCredentialKey 0 [fifth, zeroth, fifth]).accepted =
        [⟨fifth.response, 5⟩, ⟨zeroth.response, 0⟩, ⟨fifth.response, 5⟩] ∧
      ¬ReplayProtected
        (runAssertions sampleLibraries sampleCredentialKey 0 [fifth, zeroth, fifth]).accepted := by
  have accepted :
      (runAssertions sampleLibraries sampleCredentialKey 0 [fifth, zeroth, fifth]).accepted =
        [⟨fifth.response, 5⟩, ⟨zeroth.response, 0⟩, ⟨fifth.response, 5⟩] := by
    have first : CounterState.step sampleLibraries sampleCredentialKey ⟨0, []⟩ fifth =
        ⟨5, [⟨fifth.response, 5⟩]⟩ :=
      step_of_passes (sampleCall_passes 5 _) (.inr (by decide : 0 < 5))
    have second : CounterState.step sampleLibraries sampleCredentialKey
        ⟨5, [⟨fifth.response, 5⟩]⟩ zeroth =
          ⟨0, [⟨fifth.response, 5⟩, ⟨zeroth.response, 0⟩]⟩ :=
      step_of_passes (sampleCall_passes 0 _) (.inl rfl)
    have third : CounterState.step sampleLibraries sampleCredentialKey
        ⟨0, [⟨fifth.response, 5⟩, ⟨zeroth.response, 0⟩]⟩ fifth =
          ⟨5, [⟨fifth.response, 5⟩, ⟨zeroth.response, 0⟩, ⟨fifth.response, 5⟩]⟩ :=
      step_of_passes (sampleCall_passes 5 _) (.inr (by decide : 0 < 5))
    rw [runAssertions, run, List.foldl_cons, List.foldl_cons, List.foldl_cons, List.foldl_nil,
      first, second, third]
  refine ⟨accepted, fun safe => ?_⟩
  have once := safe.once
  rw [accepted, List.pairwise_cons] at once
  exact once.1 ⟨fifth.response, 5⟩ (by simp) (by decide) rfl

end

end OwlId.Crypto
