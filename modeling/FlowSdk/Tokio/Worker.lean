/-
  FlowSdk.Tokio.Worker — the worker of the Tokio client.

  One task owns the engine, the transport and the callers that wait for an answer. Its loop
  waits for the first of several things (a command, a local publication, the transport, a
  timer), handles it and then writes what the engine has to send.

  What the worker cannot know in advance comes from an environment: at the n-th time that the
  worker asks, it says what the clock shows, how an input or output operation ends, which
  publications arrive while a callback runs and which callers have given up. A caller is a
  ticket, and so is a connection attempt. The code that opens a transport and the callbacks
  themselves are left out; a batch of events is recorded when it is delivered.
-/
import FlowSdk.Machine.Zoom
import FlowSdk.Client.Timer

namespace FlowSdk

open Machine Wire

variable {T : Type} [TimePoint T]

/-! ## Configuration -/

structure TokioAsyncClientConfig where
  autoReconnect : Bool := true
  maxReconnectDelayMs : Nat := 30000
  maxReconnectAttempts : Nat := 0
  commandQueueSize : Nat := 1000
  bufferMessages : Bool := true
  maxBufferSize : Nat := 1000
  tcpNodelay : Bool := true
  connectTimeoutMs : Option Nat := some 30000
  defaultOperationTimeoutMs : Nat := 30000
  receiveMaximum : Option UInt16 := none
  topicAliasMaximum : Option UInt16 := none
  priorityQueueEnabled : Bool := true
  priorityQueueLimit : Nat := 1000
deriving DecidableEq, Repr

namespace Tokio

/-- CONNECT properties of the core options win, unless they say something else. -/
def mergeProperty (options : MqttClientOptions) (value : Property) :
    Except MqttClientError MqttClientOptions := do
  let same := options.connectProperties.filter (fun p => p.id = value.id)
  rejectIf (same.any (· ≠ value)) (.invalidConfiguration "CONNECT properties"
    "Async configuration conflicts with core CONNECT properties")
  return if same = [] then { options with connectProperties := options.connectProperties ++ [value] }
    else options

def resolveReceiveMaximum (options : MqttClientOptions) :
    Option UInt16 → Except MqttClientError MqttClientOptions
  | none => .ok options
  | some maximum => do
    rejectIf (maximum = 0 ∨ options.incomingReceiveMaximum.any (· ≠ maximum))
      (.invalidConfiguration "receive_maximum"
        "Receive Maximum is zero or conflicts with core options")
    let options ← mergeProperty options (.receiveMaximum maximum)
    return { options with incomingReceiveMaximum := some maximum }

def resolveAliasMaximum (options : MqttClientOptions) :
    Option UInt16 → Except MqttClientError MqttClientOptions
  | none => .ok options
  | some maximum => mergeProperty options (.topicAliasMaximum maximum)

def resolveOptions (options : MqttClientOptions) (config : TokioAsyncClientConfig) :
    Except MqttClientError MqttClientOptions := do
  rejectIf (config.commandQueueSize = 0 ∨ config.defaultOperationTimeoutMs = 0)
    (.invalidConfiguration "async configuration"
      "Command capacity and default operation timeout must be nonzero")
  let options ← resolveReceiveMaximum options config.receiveMaximum
  let options ← resolveAliasMaximum options config.topicAliasMaximum
  let options := { options with
    reconnect := config.autoReconnect
    reconnectMaxDelayMs := config.maxReconnectDelayMs
    maxReconnectAttempts := config.maxReconnectAttempts
    operationTimeouts := { options.operationTimeouts with
      connect := options.operationTimeouts.connect.or (config.connectTimeoutMs.map fromMillis) } }
  rejectIf (config.priorityQueueEnabled ∧ config.priorityQueueLimit = 0)
    (.invalidConfiguration "priority_queue_limit" "Priority queue capacity must be nonzero")
  return if config.priorityQueueEnabled then
    { options with maxOutgoingPacketCount := min options.maxOutgoingPacketCount config.priorityQueueLimit }
    else options

/-! ## Commands and events -/

/-- The sender of a caller's one-shot channel. -/
abbrev Ticket := Nat

inductive Command where
  | connect
  | connectSync (responseTx : Ticket)
  | subscribe (command : SubscribeCommand)
  | subscribeSync (command : SubscribeCommand) (responseTx : Ticket)
  | publish (command : PublishCommand)
  | publishSync (command : PublishCommand) (responseTx : Ticket)
  | unsubscribe (command : UnsubscribeCommand)
  | unsubscribeSync (command : UnsubscribeCommand) (responseTx : Ticket)
  | ping
  | pingSync (responseTx : Ticket)
  | disconnect (reasonCode : UInt8) (properties : Properties) (responseTx : Option Ticket)
  | acknowledge (kind : AckKind) (packetId : UInt16) (reasonCode : UInt8) (properties : Properties)
      (responseTx : Ticket)
  | shutdown
  | setAutoReconnect (enabled : Bool)
  | auth (reasonCode : UInt8) (properties : Properties)
  | sendPacket (packet : MqttPacket)

structure PublishAdmission where
  command : PublishCommand
  responseTx : Ticket

/-- The events that the worker hands to the application. -/
inductive TokioMqttEvent where
  | connected (result : ConnectionResult)
  | disconnected (reason : Option UInt8)
  | published (result : PublishResult)
  | subscribed (result : SubscribeResult)
  | unsubscribed (result : SubscribeResult)
  | messageReceived (message : V5.MqttPublish)
  | pingResponse
  | error (e : MqttClientError)
  | connectionLost
  | reconnectAttempt (attempt : Nat)
  | authReceived (result : AuthResult)
  | disconnectReceived (reasonCode : UInt8) (properties : Properties)
  | pubRelReceived (packetId : UInt16)
  | engineEvent (ev : MqttEvent)
deriving DecidableEq, Repr

/-! ## The environment -/

/-- How a transport operation ends; `stalled` is the end of its timeout. -/
inductive Io where
  | done | stalled
  | failed (message : String)
deriving DecidableEq, Repr

/-- What the environment says when the worker asks. -/
structure Moment (T : Type) where
  now : T
  io : Io := .done
  /-- the local publications that arrive while a callback runs, or wait at shutdown -/
  admissions : List PublishAdmission := []
  /-- the admission channel is closed behind them -/
  admissionsClosed : Bool := false
  /-- the callers that no longer wait -/
  closed : Ticket → Bool := fun _ => false

abbrev Environment (T : Type) := Nat → Moment T

/-! ## The worker -/

inductive ConnectionState where
  | disconnected | connecting
  | connected (result : ConnectionResult)
  | disconnecting
deriving DecidableEq, Repr

structure Pending where
  connect : List Ticket
  publish : AList (fun _ : UInt16 => Ticket)
  subscribe : AList (fun _ : UInt16 => Ticket)
  unsubscribe : AList (fun _ : UInt16 => Ticket)
  ping : List Ticket

def Pending.default : Pending := ⟨[], ∅, ∅, ∅, []⟩

/-- What a caller is told. -/
inductive Answer where
  | connection (result : ConnectionResult)
  | publish (result : PublishResult)
  | subscribe (result : SubscribeResult)
  | unsubscribe (result : SubscribeResult)
  | ping
  | packetId (id : Option UInt16)
  | unit
deriving DecidableEq, Repr

/-- Why a caller is answered: the command itself decided it, the worker gives the operation up,
or the engine has an event for it. -/
inductive Cause where
  | direct | cancelled
  | event (ev : MqttEvent)
deriving DecidableEq, Repr

inductive Note where
  /-- a caller waits for an operation that the engine accepted -/
  | waiting (kind : OperationKind) (id : UInt16) (ticket : Ticket)
  | answered (ticket : Ticket) (cause : Cause) (reply : Except MqttClientError Answer)
  | delivered (batch : List TokioMqttEvent)
deriving DecidableEq

end Tokio

open Tokio

structure TokioClientWorker (T : Type) where
  engine : MqttEngine T
  /-- the transport, named by the attempt that opened it -/
  stream : Option Nat
  state : ConnectionState
  /-- the connection attempt that is under way -/
  connecting : Option Nat
  intentionalStop : Bool
  pending : Pending
  admissionOpen : Bool
  admissionTransportFailed : Bool
  admissionNeedsDrain : Bool
  config : TokioAsyncClientConfig
  /-- how many attempts there were -/
  attempts : Nat
  /-- how often the environment was asked -/
  turn : Nat
  /-- the worker has returned -/
  stopped : Bool
  notes : List Note

namespace TokioClientWorker

variable {ε : Type}

def new (options : MqttClientOptions) (config : TokioAsyncClientConfig) (now : T) :
    TokioClientWorker T where
  engine := .newAt options now
  stream := none
  state := .disconnected
  connecting := none
  intentionalStop := false
  pending := .default
  admissionOpen := true
  admissionTransportFailed := false
  admissionNeedsDrain := false
  config := config
  attempts := 0
  turn := 0
  stopped := false
  notes := []

def note (w : TokioClientWorker T) (n : Note) : TokioClientWorker T := { w with notes := n :: w.notes }

/-- `response_tx.send(reply)`. -/
def answer (w : TokioClientWorker T) (cause : Cause) (reply : Except MqttClientError Answer)
    (ticket : Ticket) : TokioClientWorker T := w.note (.answered ticket cause reply)

def answerAll (w : TokioClientWorker T) (cause : Cause) (reply : Except MqttClientError Answer)
    (tickets : List Ticket) : TokioClientWorker T := tickets.foldl (fun w t => w.answer cause reply t) w

/-! ### Waiting callers -/

def failConnect (w : TokioClientWorker T) (error : MqttClientError) : TokioClientWorker T :=
  { w.answerAll .cancelled (.error error) w.pending.connect with pending.connect := [] }

def failPing (w : TokioClientWorker T) (error : MqttClientError) : TokioClientWorker T :=
  { w.answerAll .cancelled (.error error) w.pending.ping with pending.ping := [] }

/-- The callers of the operations that have an identifier. -/
def Pending.identified (p : Pending) : List Ticket :=
  (p.publish.entries ++ p.subscribe.entries ++ p.unsubscribe.entries).map Sigma.snd

def failAll (w : TokioClientWorker T) (error : MqttClientError) : TokioClientWorker T :=
  let w := (w.failConnect error).failPing error
  { w.answerAll .cancelled (.error error) (Pending.identified w.pending) with
    pending := { w.pending with publish := ∅, subscribe := ∅, unsubscribe := ∅ } }

/-- Forget the callers that no longer wait. -/
def prune (w : TokioClientWorker T) (closed : Ticket → Bool) : TokioClientWorker T :=
  { w with pending := {
      connect := w.pending.connect.filter (fun t => ¬ closed t)
      ping := w.pending.ping.filter (fun t => ¬ closed t)
      publish := retain (fun _ t => ¬ closed t) w.pending.publish
      subscribe := retain (fun _ t => ¬ closed t) w.pending.subscribe
      unsubscribe := retain (fun _ t => ¬ closed t) w.pending.unsubscribe } }

/-! ### Asking -/

/-- Ask the environment. -/
def ask (env : Environment T) : Eff (TokioClientWorker T) ε (Moment T) := do
  let w ← Eff.read
  Eff.update (fun w => { w with turn := w.turn + 1 })
  return env w.turn

def onEngine {α : Type} (m : Eff (MqttEngine T) ε α) : Eff (TokioClientWorker T) ε α :=
  Eff.zoom engine (fun e w => { w with engine := e }) m

/-- A call of the engine's host interface. -/
def engineCall (B : Build) (env : Environment T) (action : Action) :
    Eff (TokioClientWorker T) MqttClientError Reply := do
  let m ← ask env
  onEngine (MqttEngine.call B (.host m.now action))

end TokioClientWorker

namespace Tokio

/-- The identifier in a reply of the engine. -/
def replyId : Reply → Option UInt16
  | .packetId id => id
  | _ => none

def replyEvents : Reply → List MqttEvent
  | .events events => events
  | _ => []

def replyBytes : Reply → Bytes
  | .bytes bytes => bytes
  | _ => []

end Tokio

namespace TokioClientWorker

section Code

variable (B : Build) (env : Environment T)

/-! ### Events for the application -/

def publishCommand (command : PublishCommand) :
    Eff (TokioClientWorker T) MqttClientError (Option UInt16) := do
  Eff.ask (fun w => rejectIf (¬ w.engine.isConnected ∧ (¬ w.config.bufferMessages ∨ w.intentionalStop))
    .notConnected)
  Eff.ask (fun w => rejectIf
    (¬ w.engine.isConnected ∧ w.engine.priorityQueue.size ≥ w.config.maxBufferSize)
    (.bufferFull "offline publish queue" w.config.maxBufferSize))
  let w ← Eff.read
  let reply ← engineCall B env (.publish
    (if w.config.priorityQueueEnabled then command else { command with priority := 128 }))
  return replyId reply

/-- `publish`: nothing is accepted while a write of the transport is known to have failed. -/
def publish (command : PublishCommand) :
    Eff (TokioClientWorker T) MqttClientError (Option UInt16) := do
  Eff.ask (fun w => rejectIf w.admissionTransportFailed .notConnected)
  publishCommand B env command

def admitRequest (request : PublishAdmission) : Eff (TokioClientWorker T) ε Unit := do
  let result ← Eff.attempt (publish B env request.command)
  Eff.update (fun w => w.answer .direct (result.map .packetId) request.responseTx)

/-- Deliver a batch; local publications are served while the callback runs. -/
def deliverBatch (batch : List TokioMqttEvent) : Eff (TokioClientWorker T) ε Unit := do
  Eff.update (fun w => w.note (.delivered batch))
  let m ← ask env
  let w ← Eff.read
  Eff.onlyWhen w.admissionOpen (do
    Eff.forEach (fun request => do
      Eff.update (fun w => { w with admissionNeedsDrain := true })
      admitRequest B env request) m.admissions
    Eff.update (fun w => { w with admissionOpen := !m.admissionsClosed }))

def emitBatch (batch : List TokioMqttEvent) : Eff (TokioClientWorker T) ε Unit :=
  Eff.onlyWhen (batch ≠ []) (deliverBatch B env batch)

def emitEvent (ev : TokioMqttEvent) : Eff (TokioClientWorker T) ε Unit := emitBatch B env [ev]

/-! ### The connection -/

/-- `create_transport`: the state in which a new attempt is under way. -/
def createTransport (w : TokioClientWorker T) : TokioClientWorker T :=
  { w with state := .connecting, connecting := some w.attempts, attempts := w.attempts + 1 }

def startConnect : Eff (TokioClientWorker T) MqttClientError Unit := do
  let w ← Eff.read
  Eff.onlyWhen (w.state = .disconnected) (do
    Eff.update (fun w => { w with intentionalStop := false })
    let _ ← onEngine (MqttEngine.call B (.setReconnect w.config.autoReconnect))
    let _ ← onEngine (MqttEngine.call B .resetReconnectState)
    Eff.update createTransport)

/-- Reconnecting is not wanted. -/
def ReconnectOff (w : TokioClientWorker T) : Prop :=
  w.config.autoReconnect = false ∨ w.intentionalStop = true

instance (w : TokioClientWorker T) : Decidable w.ReconnectOff :=
  inferInstanceAs (Decidable (_ ∨ _))

def lostError : MqttClientError := .connectionLost "MQTT transport closed"

/-- Without another attempt nothing that is waited for can happen. -/
def abandon : Eff (TokioClientWorker T) ε Unit := do
  let w ← Eff.read
  if w.ReconnectOff then Eff.update (fun w => w.failAll lostError)
  else do
    let next ← onEngine MqttEngine.nextTickAt
    Eff.onlyWhen (next = none) (Eff.update (fun w => w.failAll lostError))

def recordConnectionLost (reason : Option UInt8) :
    Eff (TokioClientWorker T) MqttClientError (List TokioMqttEvent) := do
  let w ← Eff.read
  if w.state = .disconnected then return []
  else do
    Eff.update (fun w => { w with stream := none, connecting := none, state := .disconnected })
    let _ ← engineCall B env .handleConnectionLost
    Eff.update (fun w => (w.failConnect lostError).failPing lostError)
    abandon
    return [.disconnected reason, .connectionLost]

def transportFailed (error : MqttClientError) : Eff (TokioClientWorker T) MqttClientError Unit := do
  let lost ← recordConnectionLost B env none
  Eff.update (fun w => { w with admissionTransportFailed := false })
  emitBatch B env (.error error :: lost)

/-- A new transport is taken over, and CONNECT is made for it. -/
def attach (attempt : Nat) (result : Except MqttClientError Unit) :
    Eff (TokioClientWorker T) MqttClientError Unit := do
  Eff.lift result
  let w ← Eff.read
  Eff.onlyWhen w.config.tcpNodelay (do
    match (← ask env).io with
    | .failed message => emitEvent B env (.error (.networkError ("TCP_NODELAY: " ++ message)))
    | _ => pure ())
  Eff.update (fun w => { w with stream := some attempt })
  let _ ← engineCall B env .resetForNewTransport
  let _ ← engineCall B env .connect
  return ()

def transportConnected (attempt : Nat) (result : Except MqttClientError Unit) :
    Eff (TokioClientWorker T) MqttClientError Unit := do
  match ← (Eff.attempt (attach B env attempt result) : Eff _ MqttClientError _) with
  | .ok () => pure ()
  | .error error => do
    Eff.update (fun w => w.failConnect error)
    transportFailed B env error

/-! ### Events of the engine -/

/-- Answer the caller of an operation, if there is one. -/
def settle (find : Pending → Option Ticket) (remove : Pending → Pending) (ev : MqttEvent)
    (reply : Except MqttClientError Answer) (w : TokioClientWorker T) : TokioClientWorker T :=
  match find w.pending with
  | some ticket => { w.answer (.event ev) reply ticket with pending := remove w.pending }
  | none => w

def settlePublish (id : UInt16) (ev : MqttEvent) (reply : Except MqttClientError Answer)
    (w : TokioClientWorker T) : TokioClientWorker T :=
  w.settle (fun p => p.publish.lookup id) (fun p => { p with publish := p.publish.erase id }) ev reply

def settleSubscribe (id : UInt16) (ev : MqttEvent) (reply : Except MqttClientError Answer)
    (w : TokioClientWorker T) : TokioClientWorker T :=
  w.settle (fun p => p.subscribe.lookup id) (fun p => { p with subscribe := p.subscribe.erase id }) ev
    reply

def settleUnsubscribe (id : UInt16) (ev : MqttEvent) (reply : Except MqttClientError Answer)
    (w : TokioClientWorker T) : TokioClientWorker T :=
  w.settle (fun p => p.unsubscribe.lookup id)
    (fun p => { p with unsubscribe := p.unsubscribe.erase id }) ev reply

/-- The caller of an operation that failed. -/
def settleFailed (kind : OperationKind) (id : Option UInt16) (error : MqttClientError)
    (w : TokioClientWorker T) : TokioClientWorker T :=
  let ev := MqttEvent.operationFailed kind id error
  match kind, id with
  | .connect, _ => w.failConnect error
  | .publish, some id => w.settlePublish id ev (.error error)
  | .subscribe, some id => w.settleSubscribe id ev (.error error)
  | .unsubscribe, some id => w.settleUnsubscribe id ev (.error error)
  | _, none => w

def connectedEvent (result : ConnectionResult) (w : TokioClientWorker T) : TokioClientWorker T :=
  { w.answerAll (.event (.connected result)) (.ok (.connection result)) w.pending.connect with
    state := .connected result, pending.connect := [] }

def pingEvent (w : TokioClientWorker T) : TokioClientWorker T :=
  { w.answerAll (.event .pingResponse) (.ok .ping) w.pending.ping with pending.ping := [] }

def reconnectEvent : Eff (TokioClientWorker T) MqttClientError (List TokioMqttEvent) := do
  let w ← Eff.read
  if w.ReconnectOff then return []
  else if w.stream.isSome then recordConnectionLost B env none
  else do
    -- The counters of the attempts are kept; CONNACK resets them.
    Eff.onlyWhen (w.state = .disconnected) (Eff.update createTransport)
    return []

/-- One event of the engine, and what the application is told. -/
def dispatchEvent (ev : MqttEvent) (next : Option MqttEvent) :
    Eff (TokioClientWorker T) MqttClientError (List TokioMqttEvent) :=
  match ev with
  | .connected result => do
    Eff.update (connectedEvent result)
    if result.reasonCode = 0 then return [.connected result]
    else return .connected result :: (← recordConnectionLost B env (some result.reasonCode))
  | .disconnected reason => do
    let w ← Eff.read
    if w.state = .disconnected then return [.engineEvent ev]
    else recordConnectionLost B env reason
  | .disconnectReceived reasonCode properties =>
    return .disconnectReceived reasonCode properties ::
      (← recordConnectionLost B env (some reasonCode))
  | .published result => do
    Eff.update (fun w => result.packetId.elim w
      (fun id => w.settlePublish id ev (.ok (.publish result))))
    return [.published result]
  | .subscribed result => do
    Eff.update (settleSubscribe result.packetId ev (.ok (.subscribe result)))
    return [.subscribed result]
  | .unsubscribed result => do
    Eff.update (settleUnsubscribe result.packetId ev (.ok (.unsubscribe result)))
    return [.unsubscribed result]
  | .messageReceived message => return [.messageReceived message]
  | .pubRelReceived packetId _ => return [.pubRelReceived packetId]
  | .pingResponse => do
    Eff.update pingEvent
    return [.pingResponse]
  | .authReceived result => return [.authReceived result]
  | .operationFailed operation packetId error => do
    Eff.update (settleFailed operation packetId error)
    if operation = .connect then return .error error :: (← recordConnectionLost B env none)
    else return [.error error]
  | .error error => do
    Eff.update (fun w => if w.state = .connecting then w.failConnect error else w)
    return [.error error]
  | .reconnectNeeded => return .engineEvent ev :: (← reconnectEvent B env)
  | .reconnectScheduled attempt _ => do
    let w ← Eff.read
    return if w.ReconnectOff then [.engineEvent ev] else [.reconnectAttempt attempt]
  -- A fully parsed PUBLISH has two events; only the message is passed on.
  | .publishReceived _ _ =>
    match next with
    | some (.messageReceived _) => return []
    | _ => return [.engineEvent ev]

def dispatchLoop : List MqttEvent → Eff (TokioClientWorker T) MqttClientError (List TokioMqttEvent)
  | [] => return []
  | ev :: events => do
    let batch ← dispatchEvent B env ev events.head?
    let more ← dispatchLoop events
    return batch ++ more

def dispatchEvents (events : List MqttEvent) : Eff (TokioClientWorker T) MqttClientError Unit :=
  Eff.onlyWhen (events ≠ []) (do
    let batch ← dispatchLoop B env events
    emitBatch B env batch)

/-! ### Output -/

def ioResult (operation : String) (timeoutMs : Nat) (message : String → MqttClientError) :
    Io → Except MqttClientError Unit
  | .done => .ok ()
  | .stalled => .error (.operationTimeout operation timeoutMs)
  | .failed text => .error (message text)

def writeOutput : Eff (TokioClientWorker T) MqttClientError Unit := do
  let bytes := replyBytes (← engineCall B env .takeOutgoing)
  Eff.onlyWhen (bytes ≠ []) (do
    Eff.ask (fun w => rejectIf w.stream.isNone .notConnected)
    let w ← Eff.read
    let m ← ask env
    Eff.lift (ioResult "transport write" w.config.defaultOperationTimeoutMs
      (fun text => .networkError ("transport write: " ++ text)) m.io))

def takeEvents : Eff (TokioClientWorker T) MqttClientError (List MqttEvent) := do
  return replyEvents (← onEngine (MqttEngine.call B .takeEvents))

def handleOutgoing : Eff (TokioClientWorker T) MqttClientError Unit := do
  Eff.update (fun w => { w with admissionNeedsDrain := false })
  let result ← Eff.attempt (writeOutput B env)
  -- What the drain has exposed is delivered first, also after a failed write.
  Eff.update (fun w => { w with admissionTransportFailed := !result.isOk })
  let events ← takeEvents B
  dispatchEvents B env events
  Eff.lift result

/-! ### Commands -/

def closeStream : Eff (TokioClientWorker T) MqttClientError Unit := do
  let w ← Eff.read
  Eff.onlyWhen w.stream.isSome (do
    Eff.update (fun w => { w with stream := none })
    let m ← ask env
    Eff.lift (ioResult "transport close" w.config.defaultOperationTimeoutMs .networkError m.io))

def disconnectedBy (reason : UInt8) : TokioMqttEvent := .disconnected (some reason)

def disconnect (reason : UInt8) (properties : Properties) :
    Eff (TokioClientWorker T) MqttClientError Unit := do
  let _ ← engineCall B env (.disconnect reason properties)
  let w ← Eff.read
  Eff.update (fun w => { w with state := .disconnecting, intentionalStop := true })
  let _ ← onEngine (MqttEngine.call B (.setReconnect false))
  Eff.update (fun w => { w with connecting := none }.failAll (.operationCancelled "disconnect"))
  let write ← Eff.attempt (writeOutput B env)
  let close ← Eff.attempt (closeStream env)
  let _ ← engineCall B env .resetForNewTransport
  Eff.update (fun w => { w with state := .disconnected })
  Eff.onlyWhen (w.state ≠ .disconnected) (emitEvent B env (disconnectedBy reason))
  Eff.lift write
  Eff.lift close

/-- Register the caller of an operation under its identifier, or tell it at once why there is
none. -/
def register (kind : OperationKind) (insert : UInt16 → Ticket → Pending → Pending) (ticket : Ticket)
    (none_ : Answer) : Except MqttClientError (Option UInt16) →
      Eff (TokioClientWorker T) MqttClientError Unit
  | .ok (some id) => Eff.update (fun w =>
      { w.note (.waiting kind id ticket) with pending := insert id ticket w.pending })
  | .ok none => Eff.update (fun w => w.answer .direct (.ok none_) ticket)
  | .error error => do
    Eff.update (fun w => w.answer .direct (.error error) ticket)
    emitEvent B env (.error error)

/-- The answer to a publication without an acknowledgement. -/
def unacknowledged : Answer := .publish ⟨none, none, none, 0⟩

def ping : Eff (TokioClientWorker T) MqttClientError Unit := do
  Eff.ask (fun w => rejectIf (¬ w.engine.isConnected) .notConnected)
  let _ ← engineCall B env .sendPing
  return ()

/-- A ping that a caller waits for; one PINGREQ serves all of them. -/
def pingSync (ticket : Ticket) : Eff (TokioClientWorker T) MqttClientError Unit := do
  let w ← Eff.read
  if w.pending.ping = [] then do
    match ← (Eff.attempt (ping B env) : Eff _ MqttClientError _) with
    | .error error => do
      Eff.update (fun w => w.answer .direct (.error error) ticket)
      emitEvent B env (.error error)
    | .ok () => Eff.update (fun w => { w with pending.ping := w.pending.ping ++ [ticket] })
  else Eff.update (fun w => { w with pending.ping := w.pending.ping ++ [ticket] })

def acknowledge (kind : AckKind) (id : UInt16) (reason : UInt8) (properties : Properties) :
    Eff (TokioClientWorker T) MqttClientError Unit := do
  let _ ← engineCall B env (.acknowledge kind id reason properties)
  return ()

def setAutoReconnect (enabled : Bool) : Eff (TokioClientWorker T) MqttClientError Unit := do
  Eff.update (fun w => { w with config.autoReconnect := enabled })
  let w ← Eff.read
  let _ ← onEngine (MqttEngine.call B (.setReconnect (enabled && !w.intentionalStop)))
  if enabled = false ∧ w.state = .disconnected then Eff.update (fun w => w.failAll .notConnected)
  else Eff.onlyWhen (w.state = .disconnected ∧ w.intentionalStop = false) (do
    let _ ← engineCall B env .scheduleReconnect
    return ())

def auth (reasonCode : UInt8) (properties : Properties) :
    Eff (TokioClientWorker T) MqttClientError Unit := do
  let _ ← engineCall B env (.auth reasonCode properties)
  return ()

def sendPacket : MqttPacket → Eff (TokioClientWorker T) MqttClientError Unit
  | .pubAck5 p => acknowledge B env .puback p.packetId p.reasonCode p.properties
  | .pubRec5 p => acknowledge B env .pubrec p.packetId p.reasonCode p.properties
  | .pubComp5 p => acknowledge B env .pubcomp p.packetId p.reasonCode p.properties
  | .pubAck3 p => acknowledge B env .puback p.messageId 0 []
  | .pubRec3 p => acknowledge B env .pubrec p.messageId 0 []
  | .pubComp3 p => acknowledge B env .pubcomp p.messageId 0 []
  | .disconnect5 p => disconnect B env p.reasonCode p.properties
  | .disconnect3 => disconnect B env 0 []
  | .auth p => auth B env p.reasonCode p.properties
  | packet => do
    let _ ← engineCall B env (.enqueuePacket packet)
    return ()

def connectSync (ticket : Ticket) : Eff (TokioClientWorker T) MqttClientError Unit := do
  let w ← Eff.read
  match w.state with
  | .connected result => Eff.update (fun w => w.answer .direct (.ok (.connection result)) ticket)
  | _ => do
    Eff.update (fun w => { w with pending.connect := w.pending.connect ++ [ticket] })
    startConnect B

def publishSync (command : PublishCommand) (ticket : Ticket) :
    Eff (TokioClientWorker T) MqttClientError Unit := do
  let result ← Eff.attempt (publish B env command)
  register B env .publish (fun id t p => { p with publish := p.publish.insert id t }) ticket
    unacknowledged result

def subscribe (command : SubscribeCommand) :
    Eff (TokioClientWorker T) MqttClientError (Option UInt16) := do
  return replyId (← engineCall B env (.subscribe command))

/-- A subscription whose caller has given up before is skipped. -/
def subscribeSync (command : SubscribeCommand) (ticket : Ticket) :
    Eff (TokioClientWorker T) MqttClientError Unit := do
  let m ← ask env
  if m.closed ticket then pure ()
  else do
    let result ← Eff.attempt (subscribe B env command)
    register B env .subscribe (fun id t p => { p with subscribe := p.subscribe.insert id t }) ticket
      .unit result

def unsubscribe (command : UnsubscribeCommand) :
    Eff (TokioClientWorker T) MqttClientError (Option UInt16) := do
  return replyId (← engineCall B env (.unsubscribe command))

def unsubscribeSync (command : UnsubscribeCommand) (ticket : Ticket) :
    Eff (TokioClientWorker T) MqttClientError Unit := do
  let result ← Eff.attempt (unsubscribe B env command)
  register B env .unsubscribe (fun id t p => { p with unsubscribe := p.unsubscribe.insert id t })
    ticket .unit result

/-- Tell a caller how a command ended. -/
def reporting (ticket : Option Ticket) (m : Eff (TokioClientWorker T) MqttClientError Unit) :
    Eff (TokioClientWorker T) MqttClientError Unit := do
  let result ← Eff.attempt m
  Eff.update (fun w => ticket.elim w
    (w.answer .direct (result.map (fun _ => Answer.unit))))
  Eff.lift result

def runCommand : Command → Eff (TokioClientWorker T) MqttClientError Unit
  | .connect => startConnect B
  | .connectSync ticket => connectSync B ticket
  | .publish command => do
    let _ ← publish B env command
    return ()
  | .publishSync command ticket => publishSync B env command ticket
  | .subscribe command => do
    let _ ← subscribe B env command
    return ()
  | .subscribeSync command ticket => subscribeSync B env command ticket
  | .unsubscribe command => do
    let _ ← unsubscribe B env command
    return ()
  | .unsubscribeSync command ticket => unsubscribeSync B env command ticket
  | .ping => ping B env
  | .pingSync ticket => pingSync B env ticket
  | .acknowledge kind id reason properties ticket =>
    reporting (some ticket) (acknowledge B env kind id reason properties)
  | .disconnect reason properties ticket => reporting ticket (disconnect B env reason properties)
  | .setAutoReconnect enabled => setAutoReconnect B env enabled
  | .auth reasonCode properties => auth B env reasonCode properties
  | .sendPacket packet => sendPacket B env packet
  -- handled by the loop
  | .shutdown => pure ()

def handleCommand (command : Command) : Eff (TokioClientWorker T) MqttClientError Unit := do
  match ← (Eff.attempt (runCommand B env command) : Eff _ MqttClientError _) with
  | .ok () => pure ()
  | .error error => emitEvent B env (.error error)

/-! ### The loop -/

/-- What the loop was waiting for. -/
inductive Branch where
  /-- no command: the channel is closed -/
  | command (command : Option Command)
  | admission (request : Option PublishAdmission)
  | connected (result : Except MqttClientError Unit)
  | read (result : Except String Bytes)
  | tick
  | drain
  | cancelled

def closeAdmissions : Eff (TokioClientWorker T) MqttClientError Unit := do
  let m ← ask env
  Eff.update (fun w => { w with admissionOpen := false }.answerAll .direct
    (.error (.operationCancelled "publish admission during shutdown"))
    (m.admissions.map PublishAdmission.responseTx))

def shutdown : Eff (TokioClientWorker T) MqttClientError Unit := do
  closeAdmissions env
  let result ← Eff.attempt (disconnect B env 0 [])
  match result with
  | .ok () => pure ()
  | .error error => do
    let _ ← onEngine (MqttEngine.call B (.setReconnect false))
    Eff.update (fun w => { w with connecting := none, stream := none }.failAll error)
    let w ← Eff.read
    Eff.onlyWhen (w.state ≠ .disconnected) (emitEvent B env (.disconnected none))
  Eff.update (fun w => { w with stopped := true })

def readError : Except String Bytes → MqttClientError
  | .error message => .networkError ("transport read: " ++ message)
  | .ok _ => .connectionLost "Connection closed by server"

def handleRead (result : Except String Bytes) : Eff (TokioClientWorker T) MqttClientError Unit :=
  match result with
  | .ok (byte :: bytes) => do
    let events := replyEvents (← engineCall B env (.handleIncoming (byte :: bytes)))
    dispatchEvents B env events
  | result => transportFailed B env (readError result)

def handleConnected (result : Except MqttClientError Unit) :
    Eff (TokioClientWorker T) MqttClientError Unit := do
  let w ← Eff.read
  Eff.update (fun w => { w with connecting := none })
  transportConnected B env (w.connecting.getD 0) result

def handleBranch : Branch → Eff (TokioClientWorker T) MqttClientError Unit
  | .command (some .shutdown) | .command none => shutdown B env
  | .command (some command) => handleCommand B env command
  | .admission (some request) => admitRequest B env request
  | .admission none => Eff.update (fun w => { w with admissionOpen := false })
  | .connected result => handleConnected B env result
  | .read result => handleRead B env result
  | .tick => do
    let events := replyEvents (← engineCall B env .handleTick)
    dispatchEvents B env events
  | .drain | .cancelled => pure ()

/-- Write what there is to write; a failure ends the connection. -/
def finishTurn : Eff (TokioClientWorker T) MqttClientError Unit := do
  match ← (Eff.attempt (handleOutgoing B env) : Eff _ MqttClientError _) with
  | .ok () => pure ()
  | .error error => transportFailed B env error

/-- One turn of the loop. -/
def iterate (branch : Branch) : Eff (TokioClientWorker T) MqttClientError Unit := do
  let m ← ask env
  Eff.update (fun w => w.prune m.closed)
  let _ ← onEngine MqttEngine.nextTickAt
  handleBranch B env branch
  let w ← Eff.read
  Eff.onlyWhen (w.stopped = false) (finishTurn B env)

end Code

/-- `has_pending_output`. -/
def hasPendingOutput (e : MqttEngine T) : Prop := e.outgoingBuffer ≠ [] ∨ e.state.responses ≠ []

instance (e : MqttEngine T) : Decidable (hasPendingOutput e) :=
  inferInstanceAs (Decidable (_ ∨ _))

/-- The time of the next tick, if there is one. -/
def nextTick (e : MqttEngine T) : Option T :=
  ((MqttEngine.nextTickAt : Eff _ MqttClientError _) e).value.join

/-- What the loop can be woken by. -/
def Ready (w : TokioClientWorker T) : Branch → Prop
  | .admission _ => w.admissionOpen = true
  | .connected _ => w.connecting.isSome = true
  | .read _ => w.stream.isSome = true
  | .drain => w.admissionNeedsDrain = true ∨ hasPendingOutput w.engine
  | .tick => (nextTick w.engine).isSome = true
  | .command _ | .cancelled => True

instance (w : TokioClientWorker T) : (branch : Branch) → Decidable (w.Ready branch)
  | .admission _ => inferInstanceAs (Decidable (_ = _))
  | .connected _ => inferInstanceAs (Decidable (_ = _))
  | .read _ => inferInstanceAs (Decidable (_ = _))
  | .drain => inferInstanceAs (Decidable (_ ∨ _))
  | .tick => inferInstanceAs (Decidable (_ = _))
  | .command _ => isTrue trivial
  | .cancelled => isTrue trivial

/-- The states at the start of the loop, when every turn satisfies a condition. -/
inductive Run (B : Build) (env : Environment T) (allowed : TokioClientWorker T → Branch → Prop)
    (start : TokioClientWorker T) : TokioClientWorker T → Prop
  | start : Run B env allowed start start
  | turn {w w' : TokioClientWorker T} {branch : Branch} {r : Except MqttClientError Unit}
      (run : Run B env allowed start w) (going : w.stopped = false) (ready : w.Ready branch)
      (permitted : allowed w branch) (returns : iterate B env branch w = .done r w') :
      Run B env allowed start w'

/-- The state after some turns. -/
def follow (B : Build) (env : Environment T) : TokioClientWorker T → List Branch → TokioClientWorker T
  | w, [] => w
  | w, branch :: branches => follow B env (iterate B env branch w).state branches

def returns (B : Build) (env : Environment T) (w : TokioClientWorker T) (branch : Branch) : Bool :=
  match iterate B env branch w with
  | .done _ _ => true
  | .panic _ => false

/-- Each turn can be made, and it returns. -/
def Follows (B : Build) (env : Environment T) (allowed : TokioClientWorker T → Branch → Prop) :
    TokioClientWorker T → List Branch → Prop
  | _, [] => True
  | w, branch :: branches => (w.stopped = false ∧ w.Ready branch ∧ allowed w branch ∧
      w.returns B env branch = true) ∧ Follows B env allowed (iterate B env branch w).state branches

instance (B : Build) (env : Environment T) (allowed : TokioClientWorker T → Branch → Prop)
    [∀ w branch, Decidable (allowed w branch)] :
    ∀ (w : TokioClientWorker T) (branches : List Branch), Decidable (Follows B env allowed w branches)
  | _, [] => isTrue trivial
  | w, branch :: branches =>
    have : Decidable (Follows B env allowed (iterate B env branch w).state branches) :=
      instDecidableFollows B env allowed _ branches
    inferInstanceAs (Decidable (_ ∧ _))

theorem Run.follow {B : Build} {env : Environment T} {allowed : TokioClientWorker T → Branch → Prop}
    {start w : TokioClientWorker T} (run : Run B env allowed start w) {branches : List Branch}
    (h : Follows B env allowed w branches) : Run B env allowed start (follow B env w branches) := by
  induction branches generalizing w with
  | nil => exact run
  | cons branch branches ih =>
    obtain ⟨⟨hgoing, hready, hallowed, hreturns⟩, hrest⟩ := h
    have hturn : ∃ r, iterate B env branch w = .done r (iterate B env branch w).state := by
      unfold returns at hreturns
      split at hreturns
      next r w' heq => exact ⟨r, by rw [heq]; rfl⟩
      next => cases hreturns
    obtain ⟨r, hr⟩ := hturn
    exact ih (run.turn hgoing hready hallowed hr) hrest

end TokioClientWorker

end FlowSdk
