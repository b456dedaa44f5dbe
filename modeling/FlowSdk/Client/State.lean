/-
  FlowSdk.Client.State — the state of the MQTT engine.

  `MqttEngine` has the fields of the source's engine and protocol state. Three things are
  added for the proofs and change nothing the engine computes:
    1. `trace` records, newest first, what the engine does: the events it produces, the
       packets it appends to the output, the operations it accepts and finishes.
    2. a queued publication carries a `ticket`, its place in the order of admission.
    3. `panicked` names the assertion that stopped the engine, if one did.

  The hash maps of the source are iterated in an order that the program cannot choose. A
  `Build` fixes one such order, an arbitrary rearrangement, next to the build's feature flag.
-/
import FlowSdk.Client.Inflight
import FlowSdk.Client.PriorityQueue
import FlowSdk.Machine.Effect
import FlowSdk.Machine.Assoc
import Mathlib.Data.Finset.Basic

namespace FlowSdk

open Machine

/-- The parameters of a compiled engine. -/
structure Build where
  /-- The feature `strict-protocol-compliance`. -/
  strict : Bool
  /-- The order in which a map or a set is iterated. -/
  iter : {α : Type} → List α → List α
  iter_perm : ∀ {α : Type} (list : List α), (iter list).Perm list

/-- A build whose maps are iterated in the order in which their entries are stored. -/
def Build.ordered (strict : Bool) : Build := ⟨strict, fun list => list, fun list => .refl list⟩

/-- The priorities, in the order of `u8`. -/
instance priorityOrder : LinearOrder UInt8 where
  le_refl := UInt8.le_refl
  le_trans _ _ _ := UInt8.le_trans
  lt_iff_le_not_ge a b := by
    rw [UInt8.le_iff_toNat_le, UInt8.le_iff_toNat_le, UInt8.lt_iff_toNat_lt]
    omega
  le_antisymm _ _ := UInt8.le_antisymm
  le_total := UInt8.le_total
  toDecidableLE := inferInstance

inductive ReceiveStage where
  | publish (qos : UInt8)
  | pubRec
  | pubRel
deriving DecidableEq, Repr

/-! ## What is observed -/

/-- Who appended a packet to the output buffer. -/
inductive Origin where
  /-- a command of the engine itself -/
  | command
  /-- the caller, with `enqueue_packet` -/
  | raw
  | response
  | retransmission
  | replay
  /-- the publication queue -/
  | queue (priority : UInt8) (ticket : Nat)
deriving DecidableEq, Repr

inductive Obs where
  /-- an operation was accepted and its identifier reserved -/
  | accepted (id : UInt16)
  /-- an identifier came with a restored session -/
  | inherited (id : UInt16)
  /-- the identifier of an operation was given up, and whether it was reserved -/
  | released (id : UInt16) (reserved : Bool)
  | event (ev : MqttEvent)
  | appended (origin : Origin) (packet : MqttPacket)
  /-- a publication was queued, and whether the queue had to evict one for it -/
  | queued (priority : UInt8) (ticket : Nat) (evicting : Bool) (packet : MqttPacket)
  /-- the queue starts to drain -/
  | drain
  /-- CONNACK hands an exchange over to the replay -/
  | carried (id : UInt16) (packet : MqttPacket)
  /-- an acknowledgement ends an exchange -/
  | completed (ack : MqttPacket)
  /-- a PUBREC turns a publication into a PUBREL -/
  | pubrec (id : UInt16)
  /-- an incoming PUBREL advances an exchange -/
  | pubrel (id : UInt16)
  /-- the application's PUBREC was accepted -/
  | pubrecSent (id : UInt16) (reason : UInt8)
  /-- the incoming exchanges of the session were discarded -/
  | discarded
  /-- the output buffer was handed to the transport -/
  | taken (bytes : Bytes)
  /-- the engine was reset for another transport -/
  | reset
  /-- an incoming publication was counted against the receive maximum -/
  | charged (key : Option Nat × UInt16)
  /-- an acknowledgement gave its place in the receive window back -/
  | credited (key : Option Nat × UInt16)
  /-- a publication was handed to a transport with several streams -/
  | streamed (packet : MqttPacket)
  /-- an incoming exchange is now kept under a key: it is new, a packet has taken it up, or a
  PUBREC has answered it -/
  | entered (key : Option Nat × UInt16) (stage : ReceiveStage)
  /-- the application closed the connection -/
  | closed
deriving DecidableEq, Repr

/-- The assertions of the engine. -/
inductive PanicSite where
  /-- `expect("reserved packet ID and checked quota")` -/
  | reservedPacketId
  /-- `packet_id.unwrap()` of a queued publication -/
  | packetIdUnwrap
  /-- `expect("validated queued packet")` -/
  | queuedPacket
  /-- `expect("validated PUBREL state")` -/
  | pubrelState
  /-- `unreachable!("full packets use handle_packet")` -/
  | reducedPacket
  /-- `unreachable!()` in `manual_ack_packet` -/
  | manualAck
  /-- `expect("validated engine deadline horizon")` -/
  | deadlineHorizon
  /-- `expect("validated engine time")` -/
  | engineTime
  /-- `expect("QoS > 0 always assigns a packet id")` -/
  | packetIdAssigned
  | parser (p : Panic)
deriving DecidableEq, Repr

/-! ## The state -/

/-- The stream, if any, and the identifier of an incoming exchange. -/
abbrev ReceiveKey := Option Nat × UInt16

/-- A packet the protocol answers with: never a PUBLISH. -/
abbrev Response := { packet : MqttPacket // packet.isPublish = false }

/-- A topic an alias can stand for. -/
abbrev Topic := { topic : String // topic ≠ "" }

structure Queued where
  packet : MqttPacket
  ticket : Nat
deriving DecidableEq, Repr

structure ProtocolState (T : Type) where
  reserved : Finset UInt16
  received : AList (fun _ : ReceiveKey => ReceiveStage)
  receivedUnbound : List ReceiveKey
  receivedOnConnection : List ReceiveKey
  incomingQuotaUsed : Nat
  incomingAliases : AList (fun _ : UInt16 => String)
  outgoingAliases : AList (fun _ : UInt16 => Topic)
  incomingAliasMaximum : UInt16
  outgoingAliasMaximum : UInt16
  incomingReceiveMaximum : UInt16
  maximumPacketSize : Option Nat
  maximumQos : UInt8
  retainAvailable : Bool
  wildcardAvailable : Bool
  sharedAvailable : Bool
  subscriptionIdsAvailable : Bool
  keepAlive : UInt16
  sessionExpiry : UInt32
  hasSession : Bool
  connecting : Bool
  inputClosed : Bool
  reauthenticating : Bool
  queuedBytes : Nat
  controlReserve : Nat
  replayReserve : Nat
  responses : List Response
  deadlines : AList (fun _ : OperationKind × Option UInt16 => T × Nat)

def ProtocolState.new {T : Type} (keepAlive : UInt16) : ProtocolState T where
  reserved := ∅
  received := ∅
  receivedUnbound := []
  receivedOnConnection := []
  incomingQuotaUsed := 0
  incomingAliases := ∅
  outgoingAliases := ∅
  incomingAliasMaximum := 0
  outgoingAliasMaximum := 0
  incomingReceiveMaximum := 65535
  maximumPacketSize := none
  maximumQos := 2
  retainAvailable := true
  wildcardAvailable := true
  sharedAvailable := true
  subscriptionIdsAvailable := true
  keepAlive := keepAlive
  sessionExpiry := 0
  hasSession := false
  connecting := false
  inputClosed := false
  reauthenticating := false
  queuedBytes := 0
  controlReserve := 6
  replayReserve := 0
  responses := []
  deadlines := ∅

structure MqttEngine (T : Type) where
  now : T
  state : ProtocolState T
  options : MqttClientOptions
  session : Option ClientSession
  priorityQueue : PriorityQueue UInt8 Queued
  isConnected : Bool
  lastPacketSent : T
  lastPacketReceived : T
  pingSentAt : Option T
  parser : MqttParser
  outgoingBuffer : List Bytes
  streamRetransmissions : List (Nat × Bytes)
  inflightQueue : InflightQueue T
  previousInflight : List (UInt16 × MqttPacket)
  transportManagesSession : Bool
  sessionReplay : List (UInt16 × MqttPacket)
  configuredSubscriptionsPending : Bool
  events : List MqttEvent
  reconnectAttempts : Nat
  nextReconnectAt : Option T
  reconnectBaseDelay : Nat
  reconnectMaxDelay : Nat
  maxReconnectAttempts : Nat
  trace : List Obs
  panicked : Option PanicSite

variable {T : Type} {ε α : Type}

namespace MqttEngine

/-- `new_at`. -/
def newAt (options : MqttClientOptions) (now : T) : MqttEngine T where
  now := now
  state := ProtocolState.new options.keepAlive
  options := options
  session := none
  priorityQueue := PriorityQueue.new options.maxOutgoingPacketCount
  isConnected := false
  lastPacketSent := now
  lastPacketReceived := now
  pingSentAt := none
  parser := MqttParser.new options.mqttVersion
  outgoingBuffer := []
  streamRetransmissions := []
  inflightQueue := InflightQueue.new options.receiveMaximum options.mqttVersion
    (fromMillis options.retransmissionTimeoutMs)
  previousInflight := []
  transportManagesSession := false
  sessionReplay := []
  configuredSubscriptionsPending := false
  events := []
  reconnectAttempts := 0
  nextReconnectAt := none
  reconnectBaseDelay := fromMillis options.reconnectBaseDelayMs
  reconnectMaxDelay := fromMillis options.reconnectMaxDelayMs
  maxReconnectAttempts := options.maxReconnectAttempts
  trace := []
  panicked := none

/-! ## Recording -/

def record (e : MqttEngine T) (o : Obs) : MqttEngine T := { e with trace := o :: e.trace }

/-- Record events that a function keeps in a vector of its own, oldest first. -/
def recordEvents (e : MqttEngine T) : List MqttEvent → MqttEngine T
  | [] => e
  | ev :: evs => recordEvents (e.record (.event ev)) evs

/-- `self.events.push(ev)`. -/
def pushEvent (e : MqttEngine T) (ev : MqttEvent) : MqttEngine T :=
  { e.record (.event ev) with events := e.events ++ [ev] }

end MqttEngine

/-- Stop at an assertion. -/
def panicAt (site : PanicSite) : Eff (MqttEngine T) ε α :=
  Eff.halt (fun e => { e with panicked := some site })

/-- Record the events of a vector that is returned. -/
def noted (evs : List MqttEvent) : Eff (MqttEngine T) ε (List MqttEvent) := do
  Eff.update (fun e => e.recordEvents evs)
  return evs

/-- `take_events`. -/
def takeEvents : Eff (MqttEngine T) ε (List MqttEvent) := do
  let e ← Eff.read
  Eff.update (fun e => { e with events := [] })
  return e.events

end FlowSdk
