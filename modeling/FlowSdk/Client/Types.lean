/-
  FlowSdk.Client.Types — time, errors, commands, options and events of the MQTT client.

  The clock is a parameter: the engine never reads one, it is given a time point with every
  call. Durations are nanoseconds. Of the client's error type only the errors that the
  engine and the worker can raise are kept, and of its events those of a byte transport; the
  options leave out the TLS settings, which the engine does not read.
-/
import FlowSdk.Serde.Stream
import Mathlib.Order.Fin.Basic

namespace FlowSdk

/-! ## Time -/

/-- `trait TimePoint`: a monotonic clock value. -/
class TimePoint (T : Type) extends LinearOrder T where
  checkedAdd : T → Nat → Option T
  saturatingDurationSince : T → T → Nat

/-- Nanoseconds since an origin that the application chose, in a `u64`. -/
abbrev Timestamp := Fin (2 ^ 64)

instance timestampNeZero : NeZero (2 ^ 64) := ⟨by decide⟩

def Timestamp.checkedAdd (t : Timestamp) (duration : Nat) : Option Timestamp :=
  if h : t.val + duration < 2 ^ 64 then some ⟨t.val + duration, h⟩ else none

instance : TimePoint Timestamp where
  checkedAdd := Timestamp.checkedAdd
  saturatingDurationSince t earlier := t.val - earlier.val

def fromMillis (ms : Nat) : Nat := ms * 1000000

def fromSecs (s : Nat) : Nat := s * 1000000000

/-! ## Errors and results -/

inductive MqttClientError where
  | protocolViolation (message : String)
  | packetParsing (parseError : String) (rawData : Bytes)
  | invalidPacketId (packetId : UInt16)
  | sessionExpired
  | packetIdExhausted
  | operationTimeout (operation : String) (timeoutMs : Nat)
  | invalidState (expected actual : String)
  | alreadyConnected
  | bufferFull (bufferType : String) (capacity : Nat)
  | invalidConfiguration (field reason : String)
  | internalError (message : String)
  | connectionLost (reason : String)
  | networkError (message : String)
  | operationCancelled (operation : String)
  | notConnected
deriving DecidableEq, Repr

namespace MqttClientError

/-- `impl From<ParseError> for MqttClientError`. -/
def fromParseError (e : ParseError) : MqttClientError := .packetParsing e.toText []

def isBufferFull : MqttClientError → Bool
  | .bufferFull _ _ => true
  | _ => false

def isProtocolViolation : MqttClientError → Bool
  | .protocolViolation _ => true
  | _ => false

def isOperationTimeout : MqttClientError → Bool
  | .operationTimeout _ _ => true
  | _ => false

end MqttClientError

inductive OperationKind where
  | connect | publish | subscribe | unsubscribe
deriving DecidableEq, Repr

/-- `{:?}` of the operation. -/
def OperationKind.toText : OperationKind → String
  | .connect => "Connect"
  | .publish => "Publish"
  | .subscribe => "Subscribe"
  | .unsubscribe => "Unsubscribe"

structure ConnectionResult where
  reasonCode : UInt8
  sessionPresent : Bool
  properties : Option Properties
deriving DecidableEq, Repr

structure AuthResult where
  reasonCode : UInt8
  properties : Properties
deriving DecidableEq, Repr

/-- `SubscribeResult` and `UnsubscribeResult`, which have the same fields. -/
structure SubscribeResult where
  packetId : UInt16
  reasonCodes : Bytes
  properties : Properties
deriving DecidableEq, Repr

structure PublishResult where
  packetId : Option UInt16
  reasonCode : Option UInt8
  properties : Option Properties
  qos : UInt8
deriving DecidableEq, Repr

/-! ## Events -/

inductive MqttEvent where
  | operationFailed (operation : OperationKind) (packetId : Option UInt16)
      (error : MqttClientError)
  | connected (result : ConnectionResult)
  | authReceived (result : AuthResult)
  | disconnected (reason : Option UInt8)
  | disconnectReceived (reasonCode : UInt8) (properties : Properties)
  | published (result : PublishResult)
  | subscribed (result : SubscribeResult)
  | unsubscribed (result : SubscribeResult)
  | publishReceived (packetId : Option UInt16) (stream : Option Nat)
  | messageReceived (message : V5.MqttPublish)
  | pubRelReceived (packetId : UInt16) (stream : Option Nat)
  | pingResponse
  | error (e : MqttClientError)
  | reconnectNeeded
  | reconnectScheduled (attempt : Nat) (delay : Nat)
deriving DecidableEq, Repr

/-! ## Commands -/

structure PublishCommand where
  topicName : String
  payload : Bytes
  qos : UInt8
  retain : Bool
  dup : Bool
  packetId : Option UInt16
  properties : Properties
  priority : UInt8
deriving DecidableEq, Repr

def PublishCommand.intoMqttPublish (c : PublishCommand) : V5.MqttPublish :=
  ⟨c.topicName, c.qos, c.dup, c.retain, c.packetId, c.payload, c.properties⟩

def PublishCommand.intoMqttv3Publish (c : PublishCommand) : V3.MqttPublish :=
  ⟨c.dup, c.qos, c.retain, c.topicName, c.packetId, c.payload⟩

structure SubscribeCommand where
  packetId : Option UInt16
  subscriptions : List V5.TopicSubscription
  properties : Properties
deriving DecidableEq, Repr

structure UnsubscribeCommand where
  packetId : Option UInt16
  topics : List String
  properties : Properties
deriving DecidableEq, Repr

/-! ## Options -/

structure OperationTimeouts where
  connect : Option Nat
  publish : Option Nat
  subscribe : Option Nat
  unsubscribe : Option Nat
deriving DecidableEq, Repr

structure MqttClientOptions where
  operationTimeouts : OperationTimeouts := ⟨none, none, none, none⟩
  incomingReceiveMaximum : Option UInt16 := none
  maxIncomingPacketSize : Option Nat := none
  maxIncomingBufferBytes : Option Nat := none
  maxOutgoingBufferBytes : Option Nat := none
  peer : String := "localhost:1883"
  clientId : String := "mqtt_client"
  cleanStart : Bool := true
  keepAlive : UInt16 := 60
  username : Option String := none
  password : Option Bytes := none
  will : Option V5.Will := none
  reconnect : Bool := false
  mqttVersion : UInt8 := 5
  sessionless : Bool := false
  subscriptionTopics : List V5.TopicSubscription := []
  autoAck : Bool := true
  sessionExpiryInterval : Option UInt32 := none
  maximumPacketSize : Option UInt32 := none
  requestResponseInformation : Option Bool := none
  requestProblemInformation : Option Bool := none
  reconnectBaseDelayMs : Nat := 1000
  reconnectMaxDelayMs : Nat := 60000
  maxReconnectAttempts : Nat := 0
  retransmissionTimeoutMs : Nat := 5000
  pingTimeoutMultiplier : Nat := 2
  maxOutgoingPacketCount : Nat := 1000
  maxEventCount : Nat := 1000
  receiveMaximum : UInt16 := 65535
  connectProperties : Properties := []
  parserBufferSize : Nat := 16384
  autoKeepalive : Bool := true
deriving DecidableEq, Repr

/-! ## Saved sessions -/

inductive ReceivedStage where
  | publish | pubRec | pubRel
deriving DecidableEq, Repr

structure ReceivedExchange where
  stream : Option Nat
  packetId : UInt16
  stage : ReceivedStage
deriving DecidableEq, Repr

/-- `ClientSessionState`, the checkpoint of `snapshot_session`. -/
structure ClientSessionState where
  version : Nat
  peer : String
  clientId : String
  mqttVersion : UInt8
  hasSession : Bool
  sessionExpiryInterval : UInt32
  packetIdCounter : UInt16
  outbound : List (UInt16 × MqttPacket)
  queued : List (UInt8 × MqttPacket)
  received : List ReceivedExchange
deriving DecidableEq, Repr

/-- `ClientSession`: of its fields the engine uses the identifier counter. -/
structure ClientSession where
  packetIdCounter : UInt16
deriving DecidableEq, Repr

/-- `next_packet_id` of the session: the identifiers run from 1 to 65535 in a cycle. -/
def ClientSession.nextPacketId (s : ClientSession) : UInt16 × ClientSession :=
  let id := if s.packetIdCounter = 65535 ∨ s.packetIdCounter = 0 then 1 else s.packetIdCounter + 1
  (id, ⟨id⟩)

end FlowSdk
