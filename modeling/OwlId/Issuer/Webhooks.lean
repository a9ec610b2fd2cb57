import Mathlib
import OwlId.Lib.Results
import OwlId.Lib.StandardBase64
import OwlId.ProofSystem.Json

/-! # Webhook authentication

A handler is given the parsed body of a webhook.  Where the provider signs the bytes it
sent, the handler prints the body again and checks the signature over what it printed; the
token of the third provider is compared only when there is one.

`webhook_authentic_iff` says for which requests the check is right all the same.  The MAC and
the reading and printing of JSON are parameters.
-/

namespace OwlId.Issuer

open OwlId.Lib OwlId.ProofSystem

/-! ## Payloads -/

/-- `serde_json` and `Hmac<Sha256>`. -/
structure WebhookWorld where
  fromSlice : Bytes → Option Json
  toString : Json → String
  hmacSha256 : Bytes → Bytes → Bytes32

/-- The values of a map that is collected from pairs: a later pair wins. -/
def lastValue (pairs : List (String × String)) (name : String) : Option String :=
  pairs.reverse.lookup name

structure WebhookPayload where
  body : Json
  headers : List (String × String)
  providerId : String

def WebhookPayload.header (payload : WebhookPayload) (name : String) : Option String :=
  lastValue payload.headers name

inductive WebhookError where
  | invalidField (field reason : String)
  | providerNotFound (providerId : String)
deriving DecidableEq

structure VerifiedWebhook where
  payload : WebhookPayload
  eventType : String
  resourceId : String

/-! ## Handlers -/

/-- The handlers `WebhookHandlerRegistry::new` registers. -/
inductive WebhookHandler where
  | onfido | jumio | stripe
deriving DecidableEq

namespace WebhookHandler

def providerId : WebhookHandler → String
  | .onfido => "onfido"
  | .jumio => "jumio"
  | .stripe => "stripe-identity"

/-- Hexadecimal is tried first, then base64. -/
def verifyHmacSha256 (W : WebhookWorld) (key data : Bytes) (expectedSignature : String) :
    Except WebhookError Unit :=
  if hexDecode expectedSignature = some (W.hmacSha256 key data).toList then .ok ()
  else if b64StandardDecode expectedSignature = some (W.hmacSha256 key data).toList then .ok ()
  else .error (.invalidField "signature" "Invalid webhook signature")

/-- `splitn(2, '=')`, of a part that has both halves. -/
def splitPart (part : String) : Option (String × String) :=
  match part.toList.span (· ≠ '=') with
  | (name, _ :: value) => some (String.ofList name, String.ofList value)
  | (_, []) => none

/-- The parts of a `Stripe-Signature` header: `t=timestamp,v1=signature`. -/
def signatureParts (header : String) : List (String × String) :=
  (splitChar ',' header).filterMap splitPart

/-- The token Jumio is expected to send. -/
def basicToken (secret : String) : String := "Basic " ++ b64Standard (asBytes (secret ++ ":"))

def verifySignature (W : WebhookWorld) (payload : WebhookPayload) (secret : String) :
    WebhookHandler → Except WebhookError Unit
  | .onfido => do
    let signature ← okOr
      (payload.header "x-sha2-signature" <|> payload.header "X-SHA2-Signature")
      (.invalidField "signature" "Missing X-SHA2-Signature header")
    verifyHmacSha256 W (asBytes secret) (asBytes (W.toString payload.body)) signature
  | .jumio =>
    match payload.header "authorization" <|> payload.header "Authorization" with
    | some auth =>
      if auth ≠ basicToken secret then
        .error (.invalidField "authorization" "Invalid authorization header")
      else .ok ()
    | none => .ok ()
  | .stripe => do
    let signatureHeader ← okOr
      (payload.header "stripe-signature" <|> payload.header "Stripe-Signature")
      (.invalidField "signature" "Missing Stripe-Signature header")
    let parts := signatureParts signatureHeader
    let timestamp ← okOr (lastValue parts "t")
      (.invalidField "timestamp" "Missing timestamp in Stripe signature")
    let signature ← okOr (lastValue parts "v1")
      (.invalidField "signature" "Missing v1 signature")
    verifyHmacSha256 W (asBytes secret)
      (asBytes (timestamp ++ "." ++ W.toString payload.body)) signature

def extractEventType (payload : WebhookPayload) : WebhookHandler → Except WebhookError String
  | .onfido => okOr (payload.body.getStr "action")
    (.invalidField "action" "Missing action field in Onfido webhook")
  | .jumio => okOr (payload.body.getStr "verificationStatus")
    (.invalidField "verificationStatus" "Missing verificationStatus in Jumio webhook")
  | .stripe => okOr (payload.body.getStr "type")
    (.invalidField "type" "Missing type in Stripe webhook")

def extractResourceId (payload : WebhookPayload) : WebhookHandler → Except WebhookError String
  | .onfido => okOr
    ((payload.body.get "object").bind (·.getStr "applicant_id") <|>
      payload.body.getStr "applicant_id")
    (.invalidField "applicant_id" "Missing applicant_id in Onfido webhook")
  | .jumio => okOr
    (payload.body.getStr "scanReference" <|> payload.body.getStr "transactionReference")
    (.invalidField "scanReference" "Missing scanReference in Jumio webhook")
  | .stripe => okOr
    (((payload.body.get "data").bind (·.get "object")).bind (·.getStr "id"))
    (.invalidField "verification_session_id"
      "Missing verification session ID in Stripe webhook")

end WebhookHandler

/-! ## The registry -/

namespace WebhookHandlerRegistry

open WebhookHandler

def get (providerId : String) : Option WebhookHandler :=
  [WebhookHandler.onfido, .jumio, .stripe].find? fun handler => handler.providerId = providerId

def process (W : WebhookWorld) (payload : WebhookPayload) (secret : String) :
    Except WebhookError VerifiedWebhook := do
  let handler ← okOr (get payload.providerId) (.providerNotFound payload.providerId)
  handler.verifySignature W payload secret
  let eventType ← handler.extractEventType payload
  let resourceId ← handler.extractResourceId payload
  return ⟨payload, eventType, resourceId⟩

theorem get_providerId (handler : WebhookHandler) : get handler.providerId = some handler := by
  cases handler <;> decide

end WebhookHandlerRegistry

/-! ## Requests -/

/-- A request to the webhook address of a provider, whose body is valid JSON. -/
structure WebhookRequest (W : WebhookWorld) where
  handler : WebhookHandler
  headers : List (String × String)
  rawBody : Bytes
  body : Json
  parsed : W.fromSlice rawBody = some body

namespace WebhookRequest

variable {W : WebhookWorld}

def payload (request : WebhookRequest W) : WebhookPayload :=
  ⟨request.body, request.headers, request.handler.providerId⟩

def Processed (request : WebhookRequest W) (secret : String) : Prop :=
  ∃ verified, WebhookHandlerRegistry.process W request.payload secret = .ok verified

/-- The header that carries the provider's authentication value. -/
def authHeader (request : WebhookRequest W) : Option String :=
  match request.handler with
  | .onfido => request.payload.header "x-sha2-signature" <|>
    request.payload.header "X-SHA2-Signature"
  | .jumio => request.payload.header "authorization" <|> request.payload.header "Authorization"
  | .stripe => request.payload.header "stripe-signature" <|>
    request.payload.header "Stripe-Signature"

/-- The signature, spelled in hexadecimal or base64, is the MAC of the data. -/
def Signs (W : WebhookWorld) (secret : String) (data : Bytes) (signature : String) : Prop :=
  hexDecode signature = some (W.hmacSha256 (asBytes secret) data).toList ∨
    b64StandardDecode signature = some (W.hmacSha256 (asBytes secret) data).toList

/-- What a signed request claims: the text that was put before the body, and the signature. -/
def claimed (request : WebhookRequest W) : Option (Bytes × String) :=
  match request.handler with
  | .onfido => request.authHeader.map fun signature => ([], signature)
  | .stripe => request.authHeader.bind fun header =>
    (lastValue (WebhookHandler.signatureParts header) "t").bind fun timestamp =>
      (lastValue (WebhookHandler.signatureParts header) "v1").map fun signature =>
        (asBytes (timestamp ++ "."), signature)
  | .jumio => none

/-- The request carries the authentication value of its provider over this body. -/
def CarriesFor (request : WebhookRequest W) (secret : String) (body : Bytes) : Prop :=
  match request.handler with
  | .jumio => request.authHeader = some (WebhookHandler.basicToken secret)
  | .onfido | .stripe => ∃ before signature, request.claimed = some (before, signature) ∧
    Signs W secret (before ++ body) signature

/-- The body as the handlers print it. -/
def reprinted (request : WebhookRequest W) : Bytes := asBytes (W.toString request.body)

/-- The event type and the resource id can be read. -/
def Described (request : WebhookRequest W) : Prop :=
  (∃ eventType, request.handler.extractEventType request.payload = .ok eventType) ∧
    ∃ resourceId, request.handler.extractResourceId request.payload = .ok resourceId

/-- The webhook is processed exactly when the request carries its provider's authentication value
    over the bytes that were received. -/
def Authentic (request : WebhookRequest W) (secret : String) : Prop :=
  (request.Processed secret → request.CarriesFor secret request.rawBody) ∧
    (request.CarriesFor secret request.rawBody → request.Processed secret)

/-! ## What the handlers check -/

theorem verifyHmacSha256_eq_ok {secret signature : String} {data : Bytes} :
    WebhookHandler.verifyHmacSha256 W (asBytes secret) data signature = .ok () ↔
      Signs W secret data signature := by
  rw [WebhookHandler.verifyHmacSha256, Signs]
  split
  · next hex => simp [hex]
  · next notHex =>
    split
    · next base64 => simp [base64]
    · next notBase64 => simp [notHex, notBase64]

theorem processed_iff (request : WebhookRequest W) (secret : String) :
    request.Processed secret ↔
      request.handler.verifySignature W request.payload secret = .ok () ∧ request.Described := by
  -- the registry finds the handler the request is addressed to
  have found : WebhookHandlerRegistry.get request.payload.providerId = some request.handler :=
    WebhookHandlerRegistry.get_providerId request.handler
  simp only [Processed, WebhookHandlerRegistry.process, bind_eq_ok, okOr_eq_ok, found, pure_eq_ok]
  constructor
  · rintro ⟨_, _, ⟨⟩, _, verified, eventType, event, resourceId, resource, _⟩
    exact ⟨verified, ⟨eventType, event⟩, resourceId, resource⟩
  · rintro ⟨verified, ⟨eventType, event⟩, resourceId, resource⟩
    exact ⟨_, _, rfl, (), verified, eventType, event, resourceId, resource, rfl⟩

theorem jumio_verified (request : WebhookRequest W) (secret : String)
    (jumio : request.handler = .jumio) :
    request.handler.verifySignature W request.payload secret = .ok () ↔
      ∀ auth, request.authHeader = some auth → auth = WebhookHandler.basicToken secret := by
  have header : request.authHeader =
      (request.payload.header "authorization" <|> request.payload.header "Authorization") := by
    rw [authHeader, jumio]
  rw [header, jumio, WebhookHandler.verifySignature]
  split
  · next auth carried =>
    rw [carried]
    by_cases matching : auth = WebhookHandler.basicToken secret <;> simp [matching]
  · next missing => simp [missing]

/-- The two providers that sign are held to what is printed. -/
theorem signed_verified (request : WebhookRequest W) (secret : String)
    (signs : request.handler ≠ .jumio) :
    request.handler.verifySignature W request.payload secret = .ok () ↔
      request.CarriesFor secret request.reprinted := by
  obtain ⟨handler, headers, rawBody, body, parsed⟩ := request
  cases handler with
  | jumio => exact absurd rfl signs
  | onfido =>
    simp only [WebhookHandler.verifySignature, bind_eq_ok, okOr_eq_ok, verifyHmacSha256_eq_ok,
      CarriesFor, claimed, authHeader, Option.map_eq_some_iff, reprinted]
    constructor
    · rintro ⟨signature, carried, signed⟩
      exact ⟨_, _, ⟨signature, carried, rfl⟩, signed⟩
    · rintro ⟨_, _, ⟨_, carried, ⟨⟩⟩, signed⟩
      exact ⟨_, carried, signed⟩
  | stripe =>
    simp only [WebhookHandler.verifySignature, bind_eq_ok, okOr_eq_ok, verifyHmacSha256_eq_ok,
      CarriesFor, claimed, authHeader, Option.bind_eq_some_iff, Option.map_eq_some_iff, reprinted,
      asBytes_append]
    constructor
    · rintro ⟨header, carried, timestamp, stamped, signature, given, signed⟩
      exact ⟨_, _, ⟨header, carried, timestamp, stamped, signature, given, rfl⟩, signed⟩
    · rintro ⟨_, _, ⟨header, carried, timestamp, stamped, _, given, ⟨⟩⟩, signed⟩
      exact ⟨header, carried, timestamp, stamped, _, given, signed⟩

/-- A signature spells one MAC: what it signs has that MAC. -/
theorem Signs.mac_eq {secret signature : String} {data data' : Bytes}
    (signed : Signs W secret data signature) (signed' : Signs W secret data' signature) :
    W.hmacSha256 (asBytes secret) data = W.hmacSha256 (asBytes secret) data' := by
  rcases signed with hex | base64
  · rcases signed' with hex' | base64'
    · exact Vector.toList_inj.mp (Option.some.inj (hex.symm.trans hex'))
    · exact (hexDecode_ne_b64StandardDecode (by simp) (by simp) hex base64').elim
  · rcases signed' with hex' | base64'
    · exact (hexDecode_ne_b64StandardDecode (by simp) (by simp) hex' base64).elim
    · exact Vector.toList_inj.mp (Option.some.inj (base64.symm.trans base64'))

theorem Signs.congr {secret signature : String} {data data' : Bytes}
    (same : W.hmacSha256 (asBytes secret) data = W.hmacSha256 (asBytes secret) data') :
    Signs W secret data signature ↔ Signs W secret data' signature := by
  rw [Signs, Signs, same]

/-! ## When the check is right -/

/-- The token is compared, and a request that has it describes an event. -/
def TokenDecides (request : WebhookRequest W) (secret : String) : Prop :=
  match request.authHeader with
  | some auth => auth = WebhookHandler.basicToken secret → request.Described
  | none => ¬ request.Described

/-- Printing the body leaves its MAC and a signed request describes an event, or the signature
    is over neither spelling. -/
def SignatureDecides (request : WebhookRequest W) (secret : String) : Prop :=
  ∀ before signature, request.claimed = some (before, signature) →
    if W.hmacSha256 (asBytes secret) (before ++ request.rawBody) =
        W.hmacSha256 (asBytes secret) (before ++ request.reprinted) then
      Signs W secret (before ++ request.rawBody) signature → request.Described
    else
      ¬ Signs W secret (before ++ request.rawBody) signature ∧
        ¬ (Signs W secret (before ++ request.reprinted) signature ∧ request.Described)

theorem jumio_authentic_iff (request : WebhookRequest W) (secret : String)
    (jumio : request.handler = .jumio) :
    request.Authentic secret ↔ request.TokenDecides secret := by
  have carries : request.CarriesFor secret request.rawBody ↔
      request.authHeader = some (WebhookHandler.basicToken secret) := by
    rw [CarriesFor, jumio]
  rw [Authentic, processed_iff, jumio_verified request secret jumio, carries, TokenDecides]
  cases header : request.authHeader with
  | none => simp
  | some auth =>
    by_cases matching : auth = WebhookHandler.basicToken secret <;> simp [matching]

theorem carriesFor_iff (request : WebhookRequest W) (secret : String) (data : Bytes)
    (signs : request.handler ≠ .jumio) : request.CarriesFor secret data ↔
      ∃ before signature, request.claimed = some (before, signature) ∧
        Signs W secret (before ++ data) signature := by
  cases handler : request.handler with
  | jumio => exact absurd handler signs
  | onfido => rw [CarriesFor, handler]
  | stripe => rw [CarriesFor, handler]

theorem signed_authentic_iff (request : WebhookRequest W) (secret : String)
    (signs : request.handler ≠ .jumio) :
    request.Authentic secret ↔ request.SignatureDecides secret := by
  rw [Authentic, processed_iff, signed_verified request secret signs,
    carriesFor_iff request secret _ signs, carriesFor_iff request secret _ signs, SignatureDecides]
  cases claims : request.claimed with
  | none => simp
  | some claim =>
    obtain ⟨before, signature⟩ := claim
    have claim_signs (data : Bytes) :
        (∃ b s, some (before, signature) = some (b, s) ∧ Signs W secret (b ++ data) s) ↔
          Signs W secret (before ++ data) signature := by
      constructor
      · rintro ⟨_, _, ⟨⟩, signed⟩
        exact signed
      · intro signed
        exact ⟨before, signature, rfl, signed⟩
    have claim_all (decides : Bytes → String → Prop) :
        (∀ b s, some (before, signature) = some (b, s) → decides b s) ↔
          decides before signature := by
      constructor
      · intro all
        exact all before signature rfl
      · rintro holds _ _ ⟨⟩
        exact holds
    rw [claim_signs, claim_signs, claim_all fun b s => _]
    split
    · next same =>
      -- both spellings are signed or neither is: only the fields can be missing
      have alike : Signs W secret _ signature ↔ _ := Signs.congr same
      constructor
      · rintro ⟨_, accepted⟩ signed
        exact (accepted signed).2
      · intro described
        exact ⟨fun processed => alike.mpr processed.1, fun signed =>
          ⟨alike.mp signed, described signed⟩⟩
    · next different =>
      -- a signature over both spellings would make their MACs equal
      constructor
      · rintro ⟨sound, complete⟩
        exact ⟨fun signed => different (signed.mac_eq (complete signed).1), fun processed =>
          different ((sound processed).mac_eq processed.1)⟩
      · rintro ⟨unsigned, unprocessed⟩
        exact ⟨fun processed => (unprocessed processed).elim, fun signed =>
          (unsigned signed).elim⟩

/-- Webhook authenticity holds of a request to Jumio exactly when its token is compared and the
    request that has it describes an event, and of the others exactly when printing the body leaves
    its MAC, or the signature is over neither spelling. -/
theorem webhook_authentic_iff (request : WebhookRequest W) (secret : String) :
    request.Authentic secret ↔
      match request.handler with
      | .jumio => request.TokenDecides secret
      | .onfido | .stripe => request.SignatureDecides secret := by
  cases handler : request.handler with
  | jumio => exact jumio_authentic_iff request secret handler
  | onfido => exact signed_authentic_iff request secret (by rw [handler]; decide)
  | stripe => exact signed_authentic_iff request secret (by rw [handler]; decide)

/-! ## Two requests that are treated wrongly -/

/-- An Onfido body as it was sent, with blanks, and as `serde_json` prints it. -/
def onfidoSent : Bytes :=
  asBytes "\x7b\"action\": \"check.completed\", \"applicant_id\": \"a1\"\x7d"

def onfidoPrinted : String :=
  "\x7b\"action\":\"check.completed\",\"applicant_id\":\"a1\"\x7d"

def onfidoBody : Json :=
  .ofFields [("action", .string "check.completed"), ("applicant_id", .string "a1")]

def jumioPrinted : String :=
  "\x7b\"scanReference\":\"s1\",\"verificationStatus\":\"APPROVED_VERIFIED\"\x7d"

def jumioBody : Json :=
  .ofFields [("scanReference", .string "s1"), ("verificationStatus", .string "APPROVED_VERIFIED")]

/-- HMAC-SHA256 of `onfidoSent` under the key `secret`. -/
def sentMac : Bytes32 :=
  #v[68, 134, 17, 194, 23, 196, 197, 3, 46, 192, 170, 68, 147, 4, 97, 247,
    205, 126, 193, 176, 208, 188, 206, 77, 165, 108, 254, 79, 239, 200, 39, 60]

/-- HMAC-SHA256 of `onfidoPrinted` under the key `secret`. -/
def printedMac : Bytes32 :=
  #v[141, 194, 175, 23, 158, 184, 32, 92, 189, 200, 221, 42, 118, 92, 136, 36,
    198, 155, 95, 188, 109, 51, 191, 111, 2, 104, 115, 206, 219, 7, 96, 253]

def sampleWorld : WebhookWorld where
  fromSlice bytes := if bytes = onfidoSent then some onfidoBody
    else if bytes = asBytes jumioPrinted then some jumioBody else none
  toString body := if (body.get "action").isSome then onfidoPrinted else jumioPrinted
  hmacSha256 _ data := if data = onfidoSent then sentMac else printedMac

theorem onfidoPrinted_ne_sent : asBytes onfidoPrinted ≠ onfidoSent := by
  rw [onfidoSent, ne_eq, asBytes_inj]
  decide

theorem jumioPrinted_ne_sent : asBytes jumioPrinted ≠ onfidoSent := by
  rw [onfidoSent, ne_eq, asBytes_inj]
  decide

theorem mac_sent (key : Bytes) : sampleWorld.hmacSha256 key onfidoSent = sentMac := by
  simp [sampleWorld]

theorem mac_printed (key : Bytes) :
    sampleWorld.hmacSha256 key (asBytes onfidoPrinted) = printedMac := by
  simp [sampleWorld, onfidoPrinted_ne_sent]

/-- A genuine event of Onfido, signed over the bytes that were sent. -/
def genuineEvent : WebhookRequest sampleWorld where
  handler := .onfido
  headers := [("x-sha2-signature", hexEncode sentMac.toList)]
  rawBody := onfidoSent
  body := onfidoBody
  parsed := by simp [sampleWorld]

/-- An event of Jumio with no token at all. -/
def forgedEvent : WebhookRequest sampleWorld where
  handler := .jumio
  headers := []
  rawBody := asBytes jumioPrinted
  body := jumioBody
  parsed := by simp [sampleWorld, jumioPrinted_ne_sent]

theorem sentMac_signs : Signs sampleWorld "secret" onfidoSent (hexEncode sentMac.toList) := by
  rw [Signs, mac_sent, hexDecode_hexEncode]
  exact .inl rfl

theorem genuineEvent_carries : genuineEvent.CarriesFor "secret" genuineEvent.rawBody :=
  ⟨[], hexEncode sentMac.toList, rfl, sentMac_signs⟩

theorem genuineEvent_dropped : ¬ genuineEvent.Processed "secret" := by
  rw [processed_iff, signed_verified genuineEvent "secret" (by decide)]
  rintro ⟨⟨before, signature, claims, signed⟩, _⟩
  have claims' : genuineEvent.claimed = some ([], hexEncode sentMac.toList) := rfl
  obtain ⟨rfl, rfl⟩ := Prod.mk.inj (Option.some.inj (claims'.symm.trans claims))
  -- the same signature would be the MAC of both spellings
  have printed : Signs sampleWorld "secret" (asBytes onfidoPrinted) (hexEncode sentMac.toList) :=
    signed
  have same := printed.mac_eq sentMac_signs
  rw [mac_sent, mac_printed] at same
  exact absurd same (by decide)

theorem forgedEvent_processed : forgedEvent.Processed "secret" := by
  rw [processed_iff, jumio_verified forgedEvent "secret" rfl]
  exact ⟨nofun, ⟨"APPROVED_VERIFIED", rfl⟩, "s1", rfl⟩

/-- An event without the token is processed, and one that is signed as it was sent is dropped. -/
theorem webhooks_not_authentic :
    (forgedEvent.Processed "secret" ∧
      ¬ forgedEvent.CarriesFor "secret" forgedEvent.rawBody) ∧
    genuineEvent.CarriesFor "secret" genuineEvent.rawBody ∧
      ¬ genuineEvent.Processed "secret" := by
  refine ⟨⟨forgedEvent_processed, ?_⟩, genuineEvent_carries, genuineEvent_dropped⟩
  exact nofun

end WebhookRequest

end OwlId.Issuer
