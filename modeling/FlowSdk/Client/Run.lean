/-
  FlowSdk.Client.Run — the public calls of the engine and their runs.

  A timed call checks its time point first and then does its work at that time. A run is any
  sequence of calls, each of which may depend on the state it is made in; it ends with the
  first call that panics. `migrate` is not a call of the engine: it takes a snapshot and
  restores it into a new engine that the run goes on with.
-/
import FlowSdk.Client.Session

namespace FlowSdk

open Machine Wire

variable {T : Type} [TimePoint T]

/-! ## Calls -/

/-- The acknowledgements an application can send itself. -/
inductive AckKind where
  | puback | pubrec | pubcomp
deriving DecidableEq, Repr

def AckKind.code : AckKind → UInt8
  | .puback => 4
  | .pubrec => 5
  | .pubcomp => 7

/-- The calls that are made at a time point. -/
inductive Action where
  | connect
  | publish (command : PublishCommand)
  | subscribe (command : SubscribeCommand)
  | unsubscribe (command : UnsubscribeCommand)
  | disconnect (reasonCode : UInt8) (properties : Properties)
  | auth (reasonCode : UInt8) (properties : Properties)
  | sendPing
  | handleConnectionLost
  | resetForNewTransport
  | scheduleReconnect
  | handleIncoming (data : Bytes)
  | handleTick
  | takeOutgoing
  | enqueuePacket (packet : MqttPacket)
  | acknowledge (kind : AckKind) (id : UInt16) (reason : UInt8) (properties : Properties)
  | publishEncoded (command : PublishCommand) (stream : Option Nat)
  | subscribeEncoded (command : SubscribeCommand) (stream : Option Nat)
  | unsubscribeEncoded (command : UnsubscribeCommand) (stream : Option Nat)
  | ingestStreamPacket (packet : MqttPacket) (stream : Nat)

inductive Call (T : Type) where
  /-- a call with an explicit time point -/
  | timed (now : T) (action : Action)
  /-- the same call of the host interface, which never moves time backwards -/
  | host (now : T) (action : Action)
  | takeEvents
  | setParseLevel (level : ParseLevel)
  | trySetParseLevel (level : ParseLevel)
  | setReconnect (enabled : Bool)
  | resetReconnectState
  | nextPacketId
  | takeStreamRetransmissions
  | restoreSessionState (saved : ClientSessionState)
  | migrate (options : MqttClientOptions) (now : T)

inductive Reply where
  | unit
  | packetId (id : Option UInt16)
  | events (events : List MqttEvent)
  | bytes (bytes : Bytes)
  | encoded (id : Option UInt16) (bytes : Bytes)
  | ingested (events : List MqttEvent) (bytes : Bytes)
  | retransmissions (packets : List (Nat × Bytes))
deriving DecidableEq, Repr

namespace MqttEngine

/-! ## Time -/

/-- The durations a deadline can be set for. -/
def horizon (options : MqttClientOptions) : List Nat :=
  [fromSecs 65535 * max options.pingTimeoutMultiplier 1, fromMillis options.retransmissionTimeoutMs,
    fromMillis options.reconnectBaseDelayMs, fromMillis options.reconnectMaxDelayMs] ++
  ([options.operationTimeouts.connect, options.operationTimeouts.publish,
    options.operationTimeouts.subscribe, options.operationTimeouts.unsubscribe].filterMap id)

def clockError (reason : String) : MqttClientError := .invalidConfiguration "monotonic_time" reason

def checkTimeRange (options : MqttClientOptions) (now : T) : Except MqttClientError Unit :=
  rejectIf ((horizon options).any (fun duration => (TimePoint.checkedAdd now duration).isNone))
    (clockError "timestamp cannot represent the configured deadline horizon")

def tryNewAt (options : MqttClientOptions) (now : T) : Except MqttClientError (MqttEngine T) := do
  rejectIf (options.mqttVersion < 3 ∨ options.mqttVersion > 5 ∨ options.parserBufferSize = 0 ∨
      options.maxEventCount = 0 ∨ options.maxOutgoingPacketCount = 0)
    (invalid "engine options"
      "MQTT version must be 3, 4 or 5 and parser/event/packet limits must be nonzero")
  checkTimeRange options now
  return newAt options now

def timeCheck (e : MqttEngine T) (now : T) : Except MqttClientError Unit := do
  rejectIf (now < e.now) (clockError "timestamp moved backwards")
  checkTimeRange e.options now

def beginUpdate (now : T) : Eff (MqttEngine T) MqttClientError Unit := do
  Eff.ask (fun e => e.timeCheck now)
  Eff.update (fun e => { e with now := now })

/-! ## The public interface -/

/-- What a timed call does once its time point is accepted. -/
def perform (B : Build) (now : T) : Action → Eff (MqttEngine T) MqttClientError Reply
  | .connect => do connectInner B; return .unit
  | .publish command => do return .packetId (← publishInner B command)
  | .subscribe command => do return .packetId (some (← subscribeInner B command))
  | .unsubscribe command => do return .packetId (some (← unsubscribeInner B command))
  | .disconnect reasonCode properties => do
    tryDisconnectWithInner B reasonCode properties
    return .unit
  | .auth reasonCode properties => do tryAuthInner B reasonCode properties; return .unit
  | .sendPing => do sendPingInner B; return .unit
  | .handleConnectionLost => do handleConnectionLostInner B; return .unit
  | .resetForNewTransport => do resetForNewTransportInner B; return .unit
  | .scheduleReconnect => do scheduleReconnectInner now; return .unit
  | .handleIncoming data => do return .events (← handleIncomingInner B data)
  | .handleTick => do return .events (← handleTickInner B now)
  | .takeOutgoing => do return .bytes (← takeOutgoingInner B)
  | .enqueuePacket packet => do enqueuePacketInner B .raw packet; return .unit
  | .acknowledge kind id reason properties => do
    manualAck B id kind.code reason properties
    return .unit
  | .publishEncoded command stream => do
    let (id, bytes) ← publishEncodedInner B command stream
    return .encoded id bytes
  | .subscribeEncoded command stream => do
    let (id, bytes) ← subscribeEncodedInner B command stream
    return .encoded (some id) bytes
  | .unsubscribeEncoded command stream => do
    let (id, bytes) ← unsubscribeEncodedInner B command stream
    return .encoded (some id) bytes
  | .ingestStreamPacket packet stream => do
    let (events, bytes) ← ingestStreamPacketInner B packet stream
    return .ingested events bytes

def timedCall (B : Build) (now : T) (action : Action) : Eff (MqttEngine T) MqttClientError Reply := do
  beginUpdate now
  perform B now action

/-- What the host interface does with an error of a call that cannot report it. -/
def hostFallback (error : MqttClientError) : Action → Eff (MqttEngine T) MqttClientError Reply
  | .handleConnectionLost | .resetForNewTransport | .scheduleReconnect => do
    Eff.update (fun e => e.pushEvent (.error error))
    return .unit
  | .takeOutgoing => do
    Eff.update (fun e => e.pushEvent (.error error))
    return .bytes []
  | .handleIncoming _ | .handleTick => return .events [.error error]
  | .ingestStreamPacket _ _ => return .ingested [.error error] []
  | _ => Eff.fail error

def hostCall (B : Build) (now : T) (action : Action) : Eff (MqttEngine T) MqttClientError Reply := do
  let e ← Eff.read
  match ← Eff.attempt (timedCall B (max now e.now) action) with
  | .ok reply => return reply
  | .error error => hostFallback error action

def parseLevelCheck (e : MqttEngine T) (level : ParseLevel) : Except MqttClientError Unit :=
  rejectIf (level ≠ .full ∧
      (¬ e.isConnected ∨ ¬ e.inflightQueue.isEmpty ∨ e.priorityQueue.size ≠ 0))
    (.invalidState "connected with no outstanding operations"
      "connecting or waiting for acknowledgements")

def withParseLevel (e : MqttEngine T) (level : ParseLevel) : MqttEngine T :=
  { e with parser := e.parser.setParseLevel level }

/-- An event that announces a reconnect. -/
def isReconnect : MqttEvent → Bool
  | .reconnectNeeded | .reconnectScheduled _ _ => true
  | _ => false

def setReconnect (e : MqttEngine T) (enabled : Bool) : MqttEngine T :=
  let e := { e with options.reconnect := enabled }
  if enabled then e
  else { e with nextReconnectAt := none, events := e.events.filter (fun ev => ¬ isReconnect ev) }

/-- A snapshot of the engine, restored into a new one. -/
def migrateInner (B : Build) (options : MqttClientOptions) (now : T) :
    Eff (MqttEngine T) MqttClientError Unit := do
  let saved ← Eff.ask (fun e => e.snapshotSession B)
  let fresh ← Eff.lift (tryNewAt options now)
  let e ← Eff.read
  let next := { fresh with trace := e.trace }
  let loaded ← Eff.lift (next.loadSession B saved)
  Eff.update (fun _ => next.commitSession saved loaded)

def call (B : Build) : Call T → Eff (MqttEngine T) MqttClientError Reply
  | .timed now action => timedCall B now action
  | .host now action => hostCall B now action
  | .takeEvents => do return .events (← FlowSdk.takeEvents)
  | .setParseLevel level => do Eff.update (fun e => e.withParseLevel level); return .unit
  | .trySetParseLevel level => do
    Eff.ask (fun e => e.parseLevelCheck level)
    Eff.update (fun e => e.withParseLevel level)
    return .unit
  | .setReconnect enabled => do Eff.update (fun e => e.setReconnect enabled); return .unit
  | .resetReconnectState => do Eff.update resetReconnectState; return .unit
  | .nextPacketId => do return .packetId (some (← nextPacketId))
  | .takeStreamRetransmissions => do
    let e ← Eff.read
    Eff.update (fun e => { e with streamRetransmissions := [] })
    return .retransmissions e.streamRetransmissions
  | .restoreSessionState saved => do restoreSessionState B saved; return .unit
  | .migrate options now => do migrateInner B options now; return .unit

/-- The state that a call leaves behind. -/
def after (B : Build) (e : MqttEngine T) (c : Call T) : MqttEngine T :=
  match call B c e with
  | .done _ e' => e'
  | .panic e' => e'

/-- The runs whose calls satisfy a condition on the state they are made in. -/
inductive Run (B : Build) (allowed : MqttEngine T → Call T → Prop) (start : MqttEngine T) :
    MqttEngine T → Prop
  | start : Run B allowed start start
  | call {e : MqttEngine T} {c : Call T} (run : Run B allowed start e) (alive : e.panicked = none)
      (permitted : allowed e c) : Run B allowed start (e.after B c)

/-- The state after some calls. -/
def follow (B : Build) : MqttEngine T → List (Call T) → MqttEngine T
  | e, [] => e
  | e, c :: calls => follow B (e.after B c) calls

/-- None of the calls before the last one panics, and each of them is allowed. -/
def Follows (B : Build) (allowed : MqttEngine T → Call T → Prop) :
    MqttEngine T → List (Call T) → Prop
  | _, [] => True
  | e, c :: calls => e.panicked = none ∧ allowed e c ∧ Follows B allowed (e.after B c) calls

instance (B : Build) (allowed : MqttEngine T → Call T → Prop) [∀ e c, Decidable (allowed e c)] :
    ∀ (e : MqttEngine T) (calls : List (Call T)), Decidable (Follows B allowed e calls)
  | _, [] => isTrue trivial
  | e, c :: calls =>
    have : Decidable (Follows B allowed (e.after B c) calls) :=
      instDecidableFollows B allowed (e.after B c) calls
    inferInstanceAs (Decidable (_ ∧ _ ∧ _))

theorem Run.follow {B : Build} {allowed : MqttEngine T → Call T → Prop} {start e : MqttEngine T}
    (run : Run B allowed start e) {calls : List (Call T)} (h : Follows B allowed e calls) :
    Run B allowed start (follow B e calls) := by
  induction calls generalizing e with
  | nil => exact run
  | cons c calls ih => exact ih (run.call h.1 h.2.1) h.2.2

end MqttEngine

end FlowSdk
