import Mathlib
import OwlId.Lib.Runs
import OwlId.ProofSystem.Json
import OwlId.Verification.Sessions

/-! # The presentation relay

The sockets of a holder and a verifier meet in a presentation session.  Each is
served by a task of its own: it registers in the slot of its role, relays what the
client sends to the channel of the peer, and frees the slot when it is done.  The
session buffers the verifier's last request and the holder's last terminal message
for a peer that joins later.

A task takes the session's lock, waits for a channel and writes to its socket in
separate steps, and the steps of all tasks interleave.  `presentation_relay_guarantees`
holds after every one of them.
-/

namespace OwlId.Verification

open OwlId.Lib OwlId.ProofSystem

/-! ## The session -/

inductive Role where
  | holder
  | verifier
deriving DecidableEq

def Role.name : Role → String
  | .holder => "holder"
  | .verifier => "verifier"

inductive SessionState where
  | created
  | holderConnected
  | verifierConnected
  | bothConnected
  | complete
deriving DecidableEq

/-- The task of a socket, by the order of the upgrades; it stands for the sender of its channel. -/
abbrev SocketId := Nat

/-- The fields of a session that the relay works on. -/
structure RelaySession where
  nonce : String
  expiresAt : Time
  state : SessionState
  holderTx : Option SocketId
  verifierTx : Option SocketId
  bufferedRequest : Option String
  bufferedTerminal : Option String
deriving DecidableEq

inductive PresentationError where
  | notFound
  | expired

inductive ConnectOutcome where
  | connected (bothConnected : Bool) (replay : Option String)
  | alreadyConnected

namespace RelaySession

def create (nonce : String) (expiresAt : Time) : RelaySession :=
  ⟨nonce, expiresAt, .created, none, none, none, none⟩

def tx (session : RelaySession) : Role → Option SocketId
  | .holder => session.holderTx
  | .verifier => session.verifierTx

def connect (session : RelaySession) (now : Time) (role : Role) (tx : SocketId) :
    RelaySession × Except PresentationError ConnectOutcome :=
  if session.expiresAt < now then (session, .error .expired)
  else match role with
    | .holder =>
      if session.holderTx.isSome then (session, .ok .alreadyConnected)
      else
        let session := { session with
          holderTx := some tx
          state := if session.verifierTx.isSome then .bothConnected else .holderConnected }
        (session, .ok (.connected (session.state = .bothConnected) session.bufferedRequest))
    | .verifier =>
      if session.verifierTx.isSome then (session, .ok .alreadyConnected)
      else
        let session := { session with
          verifierTx := some tx
          state := if session.holderTx.isSome then .bothConnected else .verifierConnected }
        (session, .ok (.connected (session.state = .bothConnected) session.bufferedTerminal))

/-- The holder's messages that end a presentation. -/
def terminalTypes : List String :=
  ["response", "proof_failed", "predicate_not_satisfied", "consent_denied"]

/-- Only a request and a terminal message are kept, each in place of the one before. -/
def bufferMessage (session : RelaySession) (senderRole : Role) (msgType text : String) :
    RelaySession :=
  match senderRole with
  | .verifier =>
    if msgType = "request" then { session with bufferedRequest := some text } else session
  | .holder =>
    if msgType ∈ terminalTypes then { session with bufferedTerminal := some text } else session

def getPeerTx (session : RelaySession) : Role → Option SocketId
  | .holder => session.verifierTx
  | .verifier => session.holderTx

def disconnect (session : RelaySession) : Role → RelaySession
  | .holder => { session with holderTx := none }
  | .verifier => { session with verifierTx := none }

end RelaySession

/-! ## The task of a socket -/

/-- Where `handle_presentation_ws` stands: what it does next. -/
inductive Phase where
  | connecting
  | rejected (err : String)
  /-- Both sides are connected: the nonce is read, and the peer and the client are told. -/
  | readingNonce (replay : Option String)
  | findingPeer (ready : String) (replay : Option String)
  | readyingPeer (peer : SocketId) (ready : String) (replay : Option String)
  | readyingSelf (ready : String) (replay : Option String)
  | replaying (replay : Option String)
  /-- The head of the relay loop. -/
  | relaying
  | delivering (msg : String)
  | refusing (err : String)
  | buffering (msgType text : String)
  | lookingUp (text : String)
  | forwarding (peer : SocketId) (text : String)
  /-- After the loop. -/
  | closing
  | noticing (peer : SocketId)
  | leaving
  | closed
deriving DecidableEq

/-- Between a successful `connect` and `disconnect`. -/
def Phase.isRegistered : Phase → Bool
  | .connecting | .rejected _ | .closed => false
  | _ => true

/-- A task with the messages queued in its channel and those written to its socket. -/
structure SocketTask where
  role : Role
  phase : Phase
  queue : List String
  sent : List String
deriving DecidableEq

/-- What the client's side of a socket yields; the end of the stream counts as a close. -/
inductive WsFrame where
  | text (text : String)
  | ping
  | close
  | other

/-- What a task waited for. -/
inductive TaskEvent where
  /-- A lock, or room in a channel. -/
  | proceed (now : Time)
  /-- A write to the socket, and whether it succeeded. -/
  | sent (ok : Bool)
  /-- The loop's choice: the channel or the client. -/
  | deliver
  | receive (frame : WsFrame)

inductive RelayStep where
  | upgrade (role : Role)
  | run (socket : SocketId) (event : TaskEvent)

/-- A message that passed validation and was given to `buffer_message`. -/
structure AcceptedMessage where
  role : Role
  msgType : String
  text : String
deriving DecidableEq

structure Relay where
  session : RelaySession
  tasks : List SocketTask
  /-- History: the accepted messages, oldest first. -/
  accepted : List AcceptedMessage

/-- `serde_json`, on texts. -/
structure JsonCodec where
  fromStr : String → Option Json
  toString : Json → String

namespace Relay

def start (nonce : String) (expiresAt : Time) : Relay := ⟨.create nonce expiresAt, [], []⟩

def updateTask (relay : Relay) (socket : SocketId) (f : SocketTask → SocketTask) : Relay :=
  { relay with tasks := relay.tasks.modify socket f }

def setPhase (relay : Relay) (socket : SocketId) (phase : Phase) : Relay :=
  relay.updateTask socket fun task => { task with phase := phase }

/-- A write to the socket that may fail. -/
def emit (relay : Relay) (socket : SocketId) (msg : String) (ok : Bool) : Relay :=
  if ok then relay.updateTask socket fun task => { task with sent := task.sent ++ [msg] }
  else relay

def channelCapacity : Nat := 32

/-- `peer_tx.send(..).await`: it waits while the channel is full, and a receiver that is gone is
    an error the caller ignores. -/
def channelSend (relay : Relay) (peer : SocketId) (msg : String) : Option Relay :=
  match relay.tasks[peer]? with
  | none => some relay
  | some task =>
    if task.phase = .closed then some relay
    else if task.queue.length < channelCapacity then
      some (relay.updateTask peer fun task => { task with queue := task.queue ++ [msg] })
    else none

/-- Goes on once the peer's channel has taken the message. -/
def sendThen (relay : Relay) (socket peer : SocketId) (msg : String) (next : Phase) : Relay :=
  match relay.channelSend peer msg with
  | some relay => relay.setPhase socket next
  | none => relay

end Relay

/-! ## The relay loop -/

def errorJson (code message : String) : Json :=
  .ofFields [("type", .string "error"),
    ("payload", .ofFields [("code", .string code), ("message", .string message)])]

def sessionReady (nonce : String) : Json :=
  .ofFields [("type", .string "session_ready"), ("payload", .ofFields [("nonce", .string nonce)])]

def peerDisconnected : Json :=
  .ofFields [("type", .string "peer_disconnected"), ("payload", .null)]

/-- The message types a role may send. -/
def Role.maySend : Role → String → Bool
  | .verifier, msgType => msgType == "request"
  | .holder, msgType => RelaySession.terminalTypes.contains msgType || msgType == "error"

namespace Relay

variable (codec : JsonCodec)

/-- A client's frame; a text that is no JSON is dropped, and a pong carries no message. -/
def receiveFrame (relay : Relay) (socket : SocketId) (role : Role) : WsFrame → Relay
  | .text text =>
    match codec.fromStr text with
    | none => relay
    | some parsed =>
      let msgType := (parsed.getStr "type").getD ""
      if role.maySend msgType then relay.setPhase socket (.buffering msgType text)
      else relay.setPhase socket (.refusing (codec.toString (errorJson "invalid_message"
        ("Role '" ++ role.name ++ "' cannot send '" ++ msgType ++ "'"))))
  | .ping => relay
  | .close => relay.setPhase socket .closing
  | .other => relay

def connectTask (relay : Relay) (socket : SocketId) (role : Role) (now : Time) : Relay :=
  match relay.session.connect now role socket with
  | (session, .ok (.connected bothConnected replay)) =>
    { relay with session := session }.setPhase socket
      (if bothConnected then .readingNonce replay else .replaying replay)
  | (_, .ok .alreadyConnected) =>
    relay.setPhase socket
      (.rejected (codec.toString (errorJson "invalid_session" "Role already connected")))
  | (_, .error _) =>
    relay.setPhase socket
      (.rejected (codec.toString (errorJson "invalid_session" "Session not found or expired")))

/-- One step of a task; what it does not wait for leaves it where it is. -/
def runTask (relay : Relay) (socket : SocketId) (task : SocketTask) : Phase → TaskEvent → Relay
  | .connecting, .proceed now => relay.connectTask codec socket task.role now
  | .rejected err, .sent ok => (relay.emit socket err ok).setPhase socket .closed
  | .readingNonce replay, .proceed _ =>
    relay.setPhase socket
      (.findingPeer (codec.toString (sessionReady relay.session.nonce)) replay)
  | .findingPeer ready replay, .proceed _ =>
    match relay.session.getPeerTx task.role with
    | some peer => relay.setPhase socket (.readyingPeer peer ready replay)
    | none => relay.setPhase socket (.readyingSelf ready replay)
  | .readyingPeer peer ready replay, .proceed _ =>
    relay.sendThen socket peer ready (.readyingSelf ready replay)
  | .readyingSelf ready replay, .sent ok =>
    (relay.emit socket ready ok).setPhase socket (.replaying replay)
  | .replaying none, .proceed _ => relay.setPhase socket .relaying
  | .replaying (some buffered), .sent ok =>
    (relay.emit socket buffered ok).setPhase socket .relaying
  | .relaying, .deliver =>
    match task.queue with
    | [] => relay
    | msg :: rest =>
      (relay.updateTask socket fun task => { task with queue := rest }).setPhase socket
        (.delivering msg)
  | .relaying, .receive frame => relay.receiveFrame codec socket task.role frame
  | .delivering msg, .sent ok =>
    (relay.emit socket msg ok).setPhase socket (if ok then .relaying else .closing)
  | .refusing err, .sent ok => (relay.emit socket err ok).setPhase socket .relaying
  | .buffering msgType text, .proceed _ =>
    { relay with
      session := relay.session.bufferMessage task.role msgType text
      accepted := relay.accepted ++ [AcceptedMessage.mk task.role msgType text] }.setPhase socket
        (.lookingUp text)
  | .lookingUp text, .proceed _ =>
    match relay.session.getPeerTx task.role with
    | some peer => relay.setPhase socket (.forwarding peer text)
    | none => relay.setPhase socket .relaying
  | .forwarding peer text, .proceed _ => relay.sendThen socket peer text .relaying
  | .closing, .proceed _ =>
    match relay.session.getPeerTx task.role with
    | some peer => relay.setPhase socket (.noticing peer)
    | none => relay.setPhase socket .leaving
  | .noticing peer, .proceed _ =>
    relay.sendThen socket peer (codec.toString peerDisconnected) .leaving
  | .leaving, .proceed _ =>
    { relay with session := relay.session.disconnect task.role }.setPhase socket .closed
  | _, _ => relay

def step (relay : Relay) : RelayStep → Relay
  | .upgrade role => { relay with tasks := relay.tasks ++ [SocketTask.mk role .connecting [] []] }
  | .run socket event =>
    match relay.tasks[socket]? with
    | none => relay
    | some task => relay.runTask codec socket task task.phase event

end Relay

def relayRun (codec : JsonCodec) (nonce : String) (expiresAt : Time) (steps : List RelayStep) :
    Relay :=
  Runs.run (Relay.step codec) (Relay.start nonce expiresAt) steps

/-! ## What a step does to the slots and the buffers -/

namespace Relay

/-- The role a task holds a slot for. -/
def registeredAs (relay : Relay) (socket : SocketId) : Option Role :=
  (relay.tasks[socket]?).bind fun task => if task.phase.isRegistered then some task.role else none

/-- The slots hold exactly the registered tasks. -/
def SlotsHeld (relay : Relay) : Prop :=
  ∀ role socket, relay.session.tx role = some socket ↔ relay.registeredAs socket = some role

theorem registeredAs_updateTask (relay : Relay) (socket other : SocketId)
    {f : SocketTask → SocketTask}
    (same : ∀ task, (f task).role = task.role ∧ (f task).phase = task.phase) :
    (relay.updateTask socket f).registeredAs other = relay.registeredAs other := by
  simp only [registeredAs, updateTask, List.getElem?_modify]
  cases relay.tasks[other]? with
  | none => rfl
  | some task => by_cases here : socket = other <;> simp [here, same task]

@[simp] theorem registeredAs_emit (relay : Relay) (socket other : SocketId) (msg : String)
    (ok : Bool) : (relay.emit socket msg ok).registeredAs other = relay.registeredAs other := by
  cases ok with
  | false => rfl
  | true => exact registeredAs_updateTask relay socket other fun task => ⟨rfl, rfl⟩

theorem registeredAs_setPhase {relay : Relay} {socket : SocketId} {task : SocketTask}
    (here : relay.tasks[socket]? = some task) (phase : Phase) (other : SocketId) :
    (relay.setPhase socket phase).registeredAs other =
      if other = socket then (if phase.isRegistered then some task.role else none)
      else relay.registeredAs other := by
  simp only [registeredAs, setPhase, updateTask, List.getElem?_modify]
  by_cases same : other = socket
  · subst same
    simp [here]
  · have different : socket ≠ other := fun eq => same eq.symm
    cases relay.tasks[other]? <;> simp [same, different]

/-- The two agree on the session, the history and who is registered. -/
structure Agrees (relay relay' : Relay) : Prop where
  session : relay'.session = relay.session
  accepted : relay'.accepted = relay.accepted
  registered : ∀ socket, relay'.registeredAs socket = relay.registeredAs socket

theorem Agrees.refl (relay : Relay) : Agrees relay relay := ⟨rfl, rfl, fun _ => rfl⟩

theorem Agrees.trans {a b c : Relay} (first : Agrees a b) (second : Agrees b c) : Agrees a c :=
  ⟨second.session.trans first.session, second.accepted.trans first.accepted,
    fun socket => (second.registered socket).trans (first.registered socket)⟩

theorem agrees_updateTask (relay : Relay) (socket : SocketId) {f : SocketTask → SocketTask}
    (same : ∀ task, (f task).role = task.role ∧ (f task).phase = task.phase) :
    Agrees relay (relay.updateTask socket f) :=
  ⟨rfl, rfl, fun other => registeredAs_updateTask relay socket other same⟩

theorem agrees_emit (relay : Relay) (socket : SocketId) (msg : String) (ok : Bool) :
    Agrees relay (relay.emit socket msg ok) := by
  cases ok with
  | false => exact .refl relay
  | true => exact agrees_updateTask relay socket fun task => ⟨rfl, rfl⟩

/-- A task that moves on between two phases in which it holds its slot, or between two in which
    it does not. -/
theorem agrees_setPhase {relay : Relay} {socket : SocketId} {phase : Phase}
    (still : (relay.registeredAs socket).isSome = phase.isRegistered) :
    Agrees relay (relay.setPhase socket phase) := by
  refine ⟨rfl, rfl, fun other => ?_⟩
  cases here : relay.tasks[socket]? with
  | none =>
    simp only [setPhase, updateTask, registeredAs, List.getElem?_modify]
    by_cases same : socket = other
    · subst same
      simp [here]
    · cases relay.tasks[other]? <;> simp [same]
  | some task =>
    rw [registeredAs_setPhase here]
    by_cases same : other = socket
    · subst same
      simp only [registeredAs, here, Option.bind_some] at still ⊢
      cases before : task.phase.isRegistered <;> cases after : phase.isRegistered <;>
        simp_all
    · simp [same]

theorem agrees_channelSend {relay relay' : Relay} {peer : SocketId} {msg : String}
    (sends : relay.channelSend peer msg = some relay') : Agrees relay relay' := by
  unfold channelSend at sends
  split at sends
  · rw [← Option.some.inj sends]
    exact .refl relay
  · split at sends
    · rw [← Option.some.inj sends]
      exact .refl relay
    · split at sends
      · rw [← Option.some.inj sends]
        exact agrees_updateTask relay peer fun task => ⟨rfl, rfl⟩
      · cases sends

theorem agrees_sendThen {relay : Relay} {socket : SocketId} (peer : SocketId) (msg : String)
    {next : Phase} (still : (relay.registeredAs socket).isSome = next.isRegistered) :
    Agrees relay (relay.sendThen socket peer msg next) := by
  unfold sendThen
  split
  · rename_i relay' sends
    have sent := agrees_channelSend sends
    exact sent.trans (agrees_setPhase (by rw [sent.registered, still]))
  · exact .refl relay

theorem agrees_emit_setPhase {relay : Relay} {socket : SocketId} (msg : String) (ok : Bool)
    {phase : Phase} (still : (relay.registeredAs socket).isSome = phase.isRegistered) :
    Agrees relay ((relay.emit socket msg ok).setPhase socket phase) :=
  (agrees_emit relay socket msg ok).trans (agrees_setPhase (by rw [registeredAs_emit, still]))

/-- Everything a step of a task can do to the session: join it, give it a message, leave it. -/
inductive TaskEffect (relay : Relay) (socket : SocketId) (task : SocketTask) (event : TaskEvent)
    (relay' : Relay) : Prop where
  | quiet (agrees : Agrees relay relay')
  | joins (now : Time) (bothConnected : Bool) (replay : Option String)
      (connecting : task.phase = .connecting)
      (connects : relay.session.connect now task.role socket =
        (relay'.session, .ok (.connected bothConnected replay)))
      (accepted : relay'.accepted = relay.accepted)
      (registered : ∀ other, relay'.registeredAs other =
        if other = socket then some task.role else relay.registeredAs other)
  | accepts (msgType text : String)
      (session : relay'.session = relay.session.bufferMessage task.role msgType text)
      (accepted : relay'.accepted = relay.accepted ++ [⟨task.role, msgType, text⟩])
      (registered : ∀ other, relay'.registeredAs other = relay.registeredAs other)
  | leaves (now : Time) (leaving : task.phase = .leaving) (proceeds : event = .proceed now)
      (session : relay'.session = relay.session.disconnect task.role)
      (accepted : relay'.accepted = relay.accepted)
      (registered : ∀ other, relay'.registeredAs other =
        if other = socket then none else relay.registeredAs other)

section

variable (codec : JsonCodec) {relay : Relay} {socket : SocketId} {task : SocketTask}
  (here : relay.tasks[socket]? = some task)

include here

theorem registeredAs_isSome : (relay.registeredAs socket).isSome = task.phase.isRegistered := by
  cases registered : task.phase.isRegistered <;> simp [registeredAs, here, registered]

theorem connectTask_effect (now : Time) (event : TaskEvent) (connecting : task.phase = .connecting) :
    TaskEffect relay socket task event (relay.connectTask codec socket task.role now) := by
  have free : (relay.registeredAs socket).isSome = false := by
    rw [registeredAs_isSome here, connecting]
    rfl
  rcases connects : relay.session.connect now task.role socket with ⟨session, outcome⟩
  rw [connectTask, connects]
  match outcome with
  | .ok (.connected bothConnected replay) =>
    have here' : { relay with session := session }.tasks[socket]? = some task := here
    refine .joins now bothConnected replay connecting connects rfl fun other => ?_
    rw [registeredAs_setPhase here']
    cases bothConnected <;> rfl
  | .ok .alreadyConnected => exact .quiet (agrees_setPhase (by rw [free]; rfl))
  | .error _ => exact .quiet (agrees_setPhase (by rw [free]; rfl))

theorem receiveFrame_effect (event : TaskEvent) (relaying : task.phase = .relaying)
    (frame : WsFrame) :
    TaskEffect relay socket task event (relay.receiveFrame codec socket task.role frame) := by
  have held : (relay.registeredAs socket).isSome = true := by
    rw [registeredAs_isSome here, relaying]
    rfl
  cases frame with
  | text text =>
    rw [receiveFrame]
    split
    · exact .quiet (.refl relay)
    · simp only
      split
      · exact .quiet (agrees_setPhase (by rw [held]; rfl))
      · exact .quiet (agrees_setPhase (by rw [held]; rfl))
  | close => exact .quiet (agrees_setPhase (by rw [held]; rfl))
  | ping => exact .quiet (.refl relay)
  | other => exact .quiet (.refl relay)

/-- One case for each phase: only three of them touch the session. -/
theorem runTask_effect (event : TaskEvent) :
    TaskEffect relay socket task event (relay.runTask codec socket task task.phase event) := by
  have held := registeredAs_isSome here
  generalize stands : task.phase = phase at held
  cases phase with
  | connecting =>
    cases event with
    | proceed now => exact connectTask_effect codec here now _ stands
    | _ => exact .quiet (.refl relay)
  | rejected err =>
    cases event with
    | sent ok => exact .quiet (agrees_emit_setPhase err ok held)
    | _ => exact .quiet (.refl relay)
  | readingNonce replay =>
    cases event with
    | proceed now => exact .quiet (agrees_setPhase held)
    | _ => exact .quiet (.refl relay)
  | findingPeer ready replay =>
    cases event with
    | proceed now =>
      rw [runTask]
      split
      · exact .quiet (agrees_setPhase held)
      · exact .quiet (agrees_setPhase held)
    | _ => exact .quiet (.refl relay)
  | readyingPeer peer ready replay =>
    cases event with
    | proceed now => exact .quiet (agrees_sendThen peer ready held)
    | _ => exact .quiet (.refl relay)
  | readyingSelf ready replay =>
    cases event with
    | sent ok => exact .quiet (agrees_emit_setPhase ready ok held)
    | _ => exact .quiet (.refl relay)
  | replaying replay =>
    cases replay with
    | none =>
      cases event with
      | proceed now => exact .quiet (agrees_setPhase held)
      | _ => exact .quiet (.refl relay)
    | some buffered =>
      cases event with
      | sent ok => exact .quiet (agrees_emit_setPhase buffered ok held)
      | _ => exact .quiet (.refl relay)
  | relaying =>
    cases event with
    | deliver =>
      rw [runTask]
      split
      · exact .quiet (.refl relay)
      · rename_i msg rest _
        have popped : Agrees relay
            (relay.updateTask socket fun task => { task with queue := rest }) :=
          agrees_updateTask relay socket fun task => ⟨rfl, rfl⟩
        exact .quiet (popped.trans (agrees_setPhase (by rw [popped.registered, held]; rfl)))
    | receive frame => exact receiveFrame_effect codec here _ stands frame
    | _ => exact .quiet (.refl relay)
  | delivering msg =>
    cases event with
    | sent ok => exact .quiet (agrees_emit_setPhase msg ok (by rw [held]; cases ok <;> rfl))
    | _ => exact .quiet (.refl relay)
  | refusing err =>
    cases event with
    | sent ok => exact .quiet (agrees_emit_setPhase err ok held)
    | _ => exact .quiet (.refl relay)
  | buffering msgType text =>
    cases event with
    | proceed now =>
      have moved (given : Relay) (same : given.tasks = relay.tasks) :
          Agrees given (given.setPhase socket (.lookingUp text)) := by
        refine agrees_setPhase ?_
        rw [registeredAs, same]
        exact held
      have given := moved { relay with
        session := relay.session.bufferMessage task.role msgType text
        accepted := relay.accepted ++ [⟨task.role, msgType, text⟩] } rfl
      exact .accepts msgType text given.session given.accepted given.registered
    | _ => exact .quiet (.refl relay)
  | lookingUp text =>
    cases event with
    | proceed now =>
      rw [runTask]
      split
      · exact .quiet (agrees_setPhase held)
      · exact .quiet (agrees_setPhase held)
    | _ => exact .quiet (.refl relay)
  | forwarding peer text =>
    cases event with
    | proceed now => exact .quiet (agrees_sendThen peer text held)
    | _ => exact .quiet (.refl relay)
  | closing =>
    cases event with
    | proceed now =>
      rw [runTask]
      split
      · exact .quiet (agrees_setPhase held)
      · exact .quiet (agrees_setPhase held)
    | _ => exact .quiet (.refl relay)
  | noticing peer =>
    cases event with
    | proceed now => exact .quiet (agrees_sendThen peer _ held)
    | _ => exact .quiet (.refl relay)
  | leaving =>
    cases event with
    | proceed now =>
      have here' : { relay with session := relay.session.disconnect task.role }.tasks[socket]? =
        some task := here
      exact .leaves now stands rfl rfl rfl fun other => registeredAs_setPhase here' .closed other
    | _ => exact .quiet (.refl relay)
  | closed => exact .quiet (.refl relay)

end

end Relay

/-! ## Joining -/

namespace RelaySession

/-- What is kept for a role that joins. -/
def bufferedFor (session : RelaySession) : Role → Option String
  | .holder => session.bufferedRequest
  | .verifier => session.bufferedTerminal

variable {session session' : RelaySession} {now : Time} {role : Role} {socket : SocketId}
  {bothConnected : Bool} {replay : Option String}

/-- A socket that joins found its slot free; nothing but its slot and the state changes. -/
structure Joined (session session' : RelaySession) (role : Role) (socket : SocketId)
    (bothConnected : Bool) (replay : Option String) : Prop where
  free : session.tx role = none
  slots : ∀ other, session'.tx other = if other = role then some socket else session.tx other
  both : bothConnected = true → ∀ other, (session'.tx other).isSome = true
  replay : replay = session.bufferedFor role
  buffered : ∀ other, session'.bufferedFor other = session.bufferedFor other

theorem joined_of_connect
    (connects : session.connect now role socket =
      (session', .ok (.connected bothConnected replay))) :
    Joined session session' role socket bothConnected replay := by
  unfold connect at connects
  split at connects
  · cases connects
  · cases role with
    | holder =>
      simp only at connects
      split at connects
      · cases connects
      · rename_i _ vacant
        simp only [Prod.mk.injEq, Except.ok.injEq, ConnectOutcome.connected.injEq] at connects
        obtain ⟨rfl, rfl, rfl⟩ := connects
        refine ⟨by simpa [tx] using vacant, fun other => by cases other <;> rfl,
          fun both other => ?_, rfl, fun other => by cases other <;> rfl⟩
        cases present : session.verifierTx with
        | none => simp [present] at both
        | some peer => cases other <;> simp [tx]
    | verifier =>
      simp only at connects
      split at connects
      · cases connects
      · rename_i _ vacant
        simp only [Prod.mk.injEq, Except.ok.injEq, ConnectOutcome.connected.injEq] at connects
        obtain ⟨rfl, rfl, rfl⟩ := connects
        refine ⟨by simpa [tx] using vacant, fun other => by cases other <;> rfl,
          fun both other => ?_, rfl, fun other => by cases other <;> rfl⟩
        cases present : session.holderTx with
        | none => simp [present] at both
        | some peer => cases other <;> simp [tx]

@[simp] theorem tx_bufferMessage (session : RelaySession) (role : Role) (msgType text : String)
    (other : Role) : (session.bufferMessage role msgType text).tx other = session.tx other := by
  cases role with
  | holder =>
    rw [bufferMessage]
    split <;> cases other <;> rfl
  | verifier =>
    rw [bufferMessage]
    split <;> cases other <;> rfl

@[simp] theorem tx_disconnect (session : RelaySession) (role other : Role) :
    (session.disconnect role).tx other = if other = role then none else session.tx other := by
  cases role <;> cases other <;> rfl

@[simp] theorem bufferedFor_disconnect (session : RelaySession) (role other : Role) :
    (session.disconnect role).bufferedFor other = session.bufferedFor other := by
  cases role <;> cases other <;> rfl

end RelaySession

/-! ## Invariants of a run -/

/-- A message the session keeps for the other role. -/
def AcceptedMessage.isKept (message : AcceptedMessage) : Bool :=
  match message.role with
  | .verifier => message.msgType == "request"
  | .holder => RelaySession.terminalTypes.contains message.msgType

theorem RelaySession.bufferedFor_bufferMessage (session : RelaySession) (role other : Role)
    (msgType text : String) :
    (session.bufferMessage role msgType text).bufferedFor other =
      if role ≠ other ∧ (AcceptedMessage.mk role msgType text).isKept then some text
      else session.bufferedFor other := by
  cases role with
  | holder =>
    simp only [bufferMessage, AcceptedMessage.isKept, List.contains_eq_mem, decide_eq_true_eq]
    by_cases kept : msgType ∈ terminalTypes <;> cases other <;> simp [kept, bufferedFor]
  | verifier =>
    simp only [bufferMessage, AcceptedMessage.isKept, beq_iff_eq]
    by_cases kept : msgType = "request" <;> cases other <;> simp [kept, bufferedFor]

namespace Relay

/-- The last request for a holder, the last terminal message for a verifier. -/
def lastFor (relay : Relay) (role : Role) : Option String :=
  ((relay.accepted.filter fun message => message.role ≠ role ∧ message.isKept).getLast?).map
    AcceptedMessage.text

/-- The session keeps the last message for each role. -/
def BuffersLast (relay : Relay) : Prop :=
  ∀ role, relay.session.bufferedFor role = relay.lastFor role

theorem lastFor_accept {relay relay' : Relay} {message : AcceptedMessage}
    (accepted : relay'.accepted = relay.accepted ++ [message]) (role : Role) :
    relay'.lastFor role = if message.role ≠ role ∧ message.isKept then some message.text
      else relay.lastFor role := by
  rw [lastFor, accepted, List.filter_append]
  by_cases kept : message.role ≠ role ∧ message.isKept = true
  · rw [if_pos kept, List.filter_cons_of_pos (by simpa using kept)]
    simp
  · rw [if_neg kept, List.filter_cons_of_neg (by simpa using kept), List.filter_nil,
      List.append_nil, lastFor]

section

variable {relay relay' : Relay} {socket : SocketId} {task : SocketTask} {event : TaskEvent}

/-- Only the task that leaves gives up a slot, and it is its own. -/
theorem slotsHeld_of_effect (slots : relay.SlotsHeld)
    (here : relay.tasks[socket]? = some task)
    (effect : TaskEffect relay socket task event relay') : relay'.SlotsHeld := by
  intro role other
  cases effect with
  | quiet agrees => rw [agrees.session, agrees.registered, slots]
  | joins now bothConnected replay connecting connects accepted registered =>
    have joined := RelaySession.joined_of_connect connects
    have unregistered : relay.registeredAs socket = none := by
      simp [registeredAs, here, connecting, Phase.isRegistered]
    rw [joined.slots, registered]
    by_cases ours : role = task.role
    · subst ours
      have none' := slots task.role other
      rw [joined.free] at none'
      by_cases self : other = socket
      · simp [self]
      · simpa [self, Ne.symm self] using none'
    · by_cases self : other = socket
      · have vacant := slots role socket
        rw [unregistered] at vacant
        simpa [self, ours, eq_comm] using vacant
      · simp [ours, self, slots role other]
  | accepts msgType text session accepted registered =>
    rw [session, RelaySession.tx_bufferMessage, registered, slots]
  | leaves now leaving proceeds session accepted registered =>
    have holds : relay.registeredAs socket = some task.role := by
      simp [registeredAs, here, leaving, Phase.isRegistered]
    have slot := (slots task.role socket).mpr holds
    rw [session, RelaySession.tx_disconnect, registered]
    by_cases ours : role = task.role
    · subst ours
      have only := slots task.role other
      rw [slot] at only
      by_cases self : other = socket
      · simp [self]
      · simpa [self, Ne.symm self] using only
    · by_cases self : other = socket
      · have elsewhere := slots role socket
        rw [holds] at elsewhere
        simpa [self, ours, eq_comm] using elsewhere
      · simp [ours, self, slots role other]

theorem buffersLast_of_effect (buffers : relay.BuffersLast)
    (effect : TaskEffect relay socket task event relay') : relay'.BuffersLast := by
  intro role
  cases effect with
  | quiet agrees => rw [agrees.session, buffers, lastFor, lastFor, agrees.accepted]
  | joins now bothConnected replay connecting connects accepted registered =>
    rw [(RelaySession.joined_of_connect connects).buffered, buffers, lastFor, lastFor, accepted]
  | accepts msgType text session accepted registered =>
    rw [session, RelaySession.bufferedFor_bufferMessage, buffers, lastFor_accept accepted]
  | leaves now leaving proceeds session accepted registered =>
    rw [session, RelaySession.bufferedFor_disconnect, buffers, lastFor, lastFor, accepted]

/-- A slot stays with its task until the task itself leaves. -/
theorem keepsSlot_of_effect (slots : relay.SlotsHeld) (here : relay.tasks[socket]? = some task)
    (effect : TaskEffect relay socket task event relay') {role : Role} {holder : SocketId}
    (held : relay.session.tx role = some holder) :
    relay'.session.tx role = some holder ∨
      (holder = socket ∧ task.role = role ∧ task.phase = .leaving ∧ ∃ now, event = .proceed now) := by
  cases effect with
  | quiet agrees => exact .inl (by rw [agrees.session, held])
  | joins now bothConnected replay connecting connects accepted registered =>
    have joined := RelaySession.joined_of_connect connects
    have different : role ≠ task.role := by
      rintro rfl
      simp [joined.free] at held
    exact .inl (by rw [joined.slots, if_neg different, held])
  | accepts msgType text session accepted registered =>
    exact .inl (by rw [session, RelaySession.tx_bufferMessage, held])
  | leaves now leaving proceeds session accepted registered =>
    by_cases ours : role = task.role
    · subst ours
      have holds : relay.registeredAs socket = some task.role := by
        simp [registeredAs, here, leaving, Phase.isRegistered]
      have slot := (slots task.role socket).mpr holds
      rw [held] at slot
      exact .inr ⟨Option.some.inj slot, rfl, leaving, now, proceeds⟩
    · exact .inl (by rw [session, RelaySession.tx_disconnect, if_neg ours, held])

end

/-- A new task holds no slot. -/
theorem agrees_upgrade (relay : Relay) (codec : JsonCodec) (role : Role) :
    Agrees relay (relay.step codec (.upgrade role)) := by
  refine ⟨rfl, rfl, fun socket => ?_⟩
  simp only [step, registeredAs]
  by_cases old : socket < relay.tasks.length
  · rw [List.getElem?_append_left old]
  · have beyond : relay.tasks.length ≤ socket := Nat.not_lt.mp old
    rw [List.getElem?_append_right beyond, List.getElem?_eq_none beyond]
    cases fresh : socket - relay.tasks.length with
    | zero => rfl
    | succ n => rfl

/-- The two invariants of every state of a run. -/
structure Inv (relay : Relay) : Prop where
  slots : relay.SlotsHeld
  buffers : relay.BuffersLast

theorem inv_step (codec : JsonCodec) {relay : Relay} (inv : relay.Inv) (input : RelayStep) :
    (relay.step codec input).Inv := by
  cases input with
  | upgrade role =>
    have agrees := agrees_upgrade relay codec role
    constructor
    · intro other socket
      rw [agrees.session, agrees.registered, inv.slots]
    · intro other
      rw [agrees.session, inv.buffers, lastFor, lastFor, agrees.accepted]
  | run socket event =>
    rw [step]
    split
    · exact inv
    · rename_i task here
      have effect := runTask_effect codec here event
      exact ⟨slotsHeld_of_effect inv.slots here effect, buffersLast_of_effect inv.buffers effect⟩

theorem inv_run (codec : JsonCodec) (nonce : String) (expiresAt : Time) (steps : List RelayStep) :
    (relayRun codec nonce expiresAt steps).Inv := by
  refine Runs.run_invariant Inv ⟨fun role socket => ?_, fun role => ?_⟩
    (fun relay input inv => inv_step codec inv input) steps
  · cases role <;> simp [start, RelaySession.create, RelaySession.tx, registeredAs]
  · cases role <;> rfl

end Relay

/-! ## Main result -/

/-- What holds in a state of the relay, for the next step and the next socket to join. -/
structure RelayGuarantees (codec : JsonCodec) (relay : Relay) : Prop where
  /-- At most one task is registered for a role, the one in its slot. -/
  single : ∀ role i j, relay.registeredAs i = some role → relay.registeredAs j = some role → i = j
  slot : ∀ role i, relay.session.tx role = some i ↔ relay.registeredAs i = some role
  /-- Whatever happens next, a rejected connect included, only the registered task itself frees
      its slot, when it leaves. -/
  freed : ∀ role socket input, relay.session.tx role = some socket →
    (relay.step codec input).session.tx role = some socket ∨
      ∃ now task, input = .run socket (.proceed now) ∧ relay.tasks[socket]? = some task ∧
        task.role = role ∧ task.phase = .leaving
  /-- A socket is told that both are connected only when both slots are held. -/
  both : ∀ now role socket session replay,
    relay.session.connect now role socket = (session, .ok (.connected true replay)) →
      session.holderTx.isSome = true ∧ session.verifierTx.isSome = true
  /-- The last terminal message and the last request are stored. -/
  terminal : relay.session.bufferedTerminal = relay.lastFor .verifier
  request : relay.session.bufferedRequest = relay.lastFor .holder
  /-- A socket that joins is given the last message for its role. -/
  replayed : ∀ now role socket session bothConnected replay,
    relay.session.connect now role socket = (session, .ok (.connected bothConnected replay)) →
      replay = relay.lastFor role

/-- After every interleaving of the tasks' steps. -/
theorem presentation_relay_guarantees (codec : JsonCodec) (nonce : String) (expiresAt : Time)
    (steps : List RelayStep) :
    RelayGuarantees codec (relayRun codec nonce expiresAt steps) := by
  have inv := Relay.inv_run codec nonce expiresAt steps
  refine ⟨?_, inv.slots, ?_, ?_, inv.buffers .verifier, inv.buffers .holder, ?_⟩
  · intro role i j first second
    rw [← inv.slots] at first second
    exact Option.some.inj (first.symm.trans second)
  · intro role socket input held
    cases input with
    | upgrade other => exact .inl held
    | run runner event =>
      rw [Relay.step]
      split
      · exact .inl held
      · rename_i task here
        rcases Relay.keepsSlot_of_effect inv.slots here (Relay.runTask_effect codec here event) held
          with kept | ⟨rfl, same, leaving, now, rfl⟩
        · exact .inl kept
        · exact .inr ⟨now, task, rfl, here, same, leaving⟩
  · intro now role socket session replay connects
    have both := (RelaySession.joined_of_connect connects).both rfl
    exact ⟨both .holder, both .verifier⟩
  · intro now role socket session bothConnected replay connects
    rw [(RelaySession.joined_of_connect connects).replay, inv.buffers]

/-! ### A terminal message that is overwritten -/

/-- The message is written to a verifier's socket, queued in the registered verifier's channel, or
    stored for the next verifier. -/
def Relay.KeepsTerminal (relay : Relay) (text : String) : Prop :=
  (∃ task ∈ relay.tasks, task.role = .verifier ∧ text ∈ task.sent) ∨
    (∃ socket task, relay.session.verifierTx = some socket ∧
      relay.tasks[socket]? = some task ∧ text ∈ task.queue) ∨
    relay.session.bufferedTerminal = some text

def responseText : String := "\x7b\"type\":\"response\"\x7d"

def proofFailedText : String := "\x7b\"type\":\"proof_failed\"\x7d"

/-- Reads the two texts; nothing is written below. -/
def sampleCodec : JsonCodec where
  fromStr text :=
    if text = responseText then some (.ofFields [("type", .string "response")])
    else if text = proofFailedText then some (.ofFields [("type", .string "proof_failed")])
    else none
  toString _ := ""

/-- A holder alone answers twice. -/
def twoAnswers : List RelayStep :=
  [.upgrade .holder, .run 0 (.proceed 0), .run 0 (.proceed 0),
    .run 0 (.receive (.text responseText)), .run 0 (.proceed 0), .run 0 (.proceed 0),
    .run 0 (.receive (.text proofFailedText)), .run 0 (.proceed 0), .run 0 (.proceed 0)]

theorem twoAnswers_run : relayRun sampleCodec "00" 300 twoAnswers =
    ⟨⟨"00", 300, .holderConnected, some 0, none, none, some proofFailedText⟩,
      [⟨.holder, .relaying, [], []⟩],
      [⟨.holder, "response", responseText⟩, ⟨.holder, "proof_failed", proofFailedText⟩]⟩ := by
  rfl

/-- The first answer was accepted, and is nowhere. -/
theorem overwritten_terminal_lost :
    ⟨.holder, "response", responseText⟩ ∈ (relayRun sampleCodec "00" 300 twoAnswers).accepted ∧
      ¬ (relayRun sampleCodec "00" 300 twoAnswers).KeepsTerminal responseText := by
  rw [twoAnswers_run]
  refine ⟨List.mem_cons_self, ?_⟩
  rintro (⟨task, member, verifier, _⟩ | ⟨socket, task, slot, _⟩ | stored)
  · obtain rfl := List.mem_singleton.mp member
    cases verifier
  · cases slot
  · exact absurd (Option.some.inj stored) (by decide)

end OwlId.Verification
