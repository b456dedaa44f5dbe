/-
  FlowSdk.Client.Operations — the commands that wait for an acknowledgement.

  Publishing goes through the queue; subscribing and unsubscribing append their packet at
  once. The `*_encoded` variants hand the bytes to a transport with several streams and
  bypass both.
-/
import FlowSdk.Client.Connection

namespace FlowSdk

open Machine Wire

variable {T : Type} [TimePoint T] {ε : Type}

def topicAliases (properties : Properties) : List UInt16 :=
  properties.filterMap (fun
    | .topicAlias v => some v
    | _ => none)

namespace MqttEngine

/-! ## PUBLISH -/

/-- `validate_publish`: the command with its topic resolved, and the alias to register. -/
def validatePublish (e : MqttEngine T) (command : PublishCommand) :
    Except MqttClientError (PublishCommand × Option (UInt16 × Topic)) := do
  rejectIf (e.unsupported command.qos command.retain)
    (invalid "PUBLISH" "Broker does not support requested QoS or retain")
  match topicAliases command.properties with
  | [] => return (command, none)
  | topicAlias :: more =>
    if more ≠ [] ∨ topicAlias = 0 ∨ topicAlias > e.state.outgoingAliasMaximum then
      throw (invalid "Topic Alias" "Alias exceeds negotiated maximum or is duplicated")
    else if h : command.topicName = "" then
      match e.state.outgoingAliases.lookup topicAlias with
      | none => throw (invalid "Topic Alias" "Undefined alias")
      | some topic => return ({ command with topicName := topic.val }, none)
    else return (command, some (topicAlias, ⟨command.topicName, h⟩))

def publishPacket (mqttVersion : UInt8) (command : PublishCommand) : MqttPacket :=
  if mqttVersion = 5 then .publish5 command.intoMqttPublish else .publish3 command.intoMqttv3Publish

/-- The identifier of a command: only QoS 1 and 2 take one. The identifier that a QoS 0
command carries stays in its packet. -/
def assignId (command : PublishCommand) :
    Eff (MqttEngine T) MqttClientError (PublishCommand × Option UInt16) :=
  if command.qos > 0 then do
    let pid ← candidateId command.packetId
    return ({ command with packetId := some pid }, some pid)
  else return (command, none)

/-- `state.reserved.insert(id)` with the space its replay needs. -/
def reserve (e : MqttEngine T) (id : UInt16) (size : Nat) : MqttEngine T :=
  { e.record (.accepted id) with
    state := { e.state with
      reserved := insert id e.state.reserved
      replayReserve := max e.state.replayReserve size } }

def registerAlias (e : MqttEngine T) : Option (UInt16 × Topic) → MqttEngine T
  | none => e
  | some (topicAlias, topic) =>
    { e with state.outgoingAliases := e.state.outgoingAliases.insert topicAlias topic }

/-- `priority_queue.enqueue(priority, packet)`. -/
def enqueuePublication (e : MqttEngine T) (priority : UInt8) (packet : MqttPacket) : MqttEngine T :=
  let ticket := e.trace.length
  let evicting := e.priorityQueue.size ≥ e.priorityQueue.capacity
  { e.record (.queued priority ticket evicting packet) with
    priorityQueue := e.priorityQueue.enqueue priority ⟨packet, ticket⟩ }

/-- The checks of `publish_inner` once the packet is known. -/
def publishCheck (B : Build) (e : MqttEngine T) (packet : MqttPacket) :
    Except MqttClientError Bytes := do
  let bytes ← encoded B packet
  e.checkPacketSize bytes
  -- Queued publications leave room for acknowledgements, the next CONNECT and a replay.
  e.checkOutputCapacity (bytes.length + max e.state.controlReserve e.state.replayReserve)
  return bytes

/-- The state changes of `publish_inner` before the queue is processed. -/
def admitPublication (e : MqttEngine T) (pid : Option UInt16)
    (registration : Option (UInt16 × Topic)) (priority : UInt8) (packet : MqttPacket)
    (size : Nat) : MqttEngine T :=
  let e := { e with state.queuedBytes := e.state.queuedBytes + size }
  let e := pid.elim e (fun id => e.reserve id size)
  (e.registerAlias registration).enqueuePublication priority packet

def publishInner (B : Build) (command : PublishCommand) :
    Eff (MqttEngine T) MqttClientError (Option UInt16) := do
  Eff.onlyWhen (command.qos > 0) requireFullParser
  let (command, registration) ← Eff.ask (fun e => e.validatePublish command)
  Eff.ask (fun e => rejectIf (e.priorityQueue.size ≥ e.options.maxOutgoingPacketCount)
    (.bufferFull "publish queue" e.options.maxOutgoingPacketCount))
  let (command, pid) ← assignId command
  let e ← Eff.read
  let packet := publishPacket e.mqttVersion command
  let bytes ← Eff.lift (e.publishCheck B packet)
  -- An empty queue guarantees that this encoding belongs to its first entry.
  let first := if e.priorityQueue.size = 0 then some bytes else none
  Eff.update (fun e => e.admitPublication pid registration command.priority packet bytes.length)
  processQueueWithEncoding B first
  return pid

/-- Track a packet that a transport sends itself. -/
def trackEncoded (id : UInt16) (packet : MqttPacket) (qos : UInt8) (stream : Option Nat) :
    Eff (MqttEngine T) MqttClientError Unit := do
  let inflight ← Eff.ask (fun e => e.inflightQueue.pushWithStreamAt id packet qos stream e.now)
  Eff.update (fun e => { e with inflightQueue := inflight })

def encodedCheck (B : Build) (e : MqttEngine T) (packet : MqttPacket) :
    Except MqttClientError Bytes := do
  let bytes ← encoded B packet
  e.checkPacketSize bytes
  return bytes

/-- The part of `publish_encoded_inner` that tracks a QoS 1 or 2 publication. -/
def trackPublication (pid : Option UInt16) (packet : MqttPacket) (qos : UInt8)
    (stream : Option Nat) (size : Nat) : Eff (MqttEngine T) MqttClientError Unit :=
  match pid with
  | some id => do
    trackEncoded id packet qos stream
    Eff.update (fun e => (e.reserve id size).record (.streamed packet))
    startDeadline .publish (some id)
  | none => if qos > 0 then panicAt .packetIdAssigned else pure ()

def publishEncodedInner (B : Build) (command : PublishCommand) (stream : Option Nat) :
    Eff (MqttEngine T) MqttClientError (Option UInt16 × Bytes) := do
  Eff.ask (fun e => e.ensureOutgoingAllowed B .publish)
  Eff.onlyWhen (command.qos > 0) requireFullParser
  let (command, registration) ← Eff.ask (fun e => e.validatePublish command)
  let (command, pid) ← assignId command
  let e ← Eff.read
  let packet := publishPacket e.mqttVersion command
  let bytes ← Eff.lift (e.encodedCheck B packet)
  trackPublication pid packet command.qos stream bytes.length
  Eff.update (fun e => { e.registerAlias registration with lastPacketSent := e.now })
  return (pid, bytes)

/-! ## SUBSCRIBE and UNSUBSCRIBE -/

def validateSubscribe (e : MqttEngine T) (command : SubscribeCommand) :
    Except MqttClientError Unit := do
  rejectIf (¬ e.state.subscriptionIdsAvailable ∧
      command.properties.any (·.id = .subscriptionIdentifier))
    (invalid "SUBSCRIBE" "Broker does not support subscription identifiers")
  Wire.forEach (fun s : V5.TopicSubscription =>
    rejectIf ((¬ e.state.wildcardAvailable ∧ s.topicFilter.toList.any (fun c => c = '+' ∨ c = '#')) ∨
        (¬ e.state.sharedAvailable ∧ isShared s.topicFilter))
      (invalid "SUBSCRIBE" "Broker does not support this subscription")) command.subscriptions

def subscribePacket (mqttVersion : UInt8) (pid : UInt16) (command : SubscribeCommand) : MqttPacket :=
  if mqttVersion = 5 then .subscribe5 ⟨pid, command.subscriptions, command.properties⟩
  else .subscribe3 ⟨pid, command.subscriptions.map (fun s => ⟨s.topicFilter, s.qos⟩)⟩

def unsubscribePacket (mqttVersion : UInt8) (pid : UInt16) (command : UnsubscribeCommand) :
    MqttPacket :=
  if mqttVersion = 5 then .unsubscribe5 ⟨pid, command.topics, command.properties⟩
  else .unsubscribe3 ⟨pid, command.topics⟩

/-- `state.reserved.insert(pid)`. -/
def accept (e : MqttEngine T) (id : UInt16) : MqttEngine T :=
  { e.record (.accepted id) with state.reserved := insert id e.state.reserved }

/-- Append the packet of an operation and track it. -/
def operate (B : Build) (kind : OperationKind) (pid : UInt16) (packet : MqttPacket) :
    Eff (MqttEngine T) MqttClientError UInt16 := do
  enqueuePacketInner B .command packet
  trackEncoded pid packet 1 none
  Eff.update (fun e => e.accept pid)
  startDeadline kind (some pid)
  return pid

def subscribeInner (B : Build) (command : SubscribeCommand) :
    Eff (MqttEngine T) MqttClientError UInt16 := do
  Eff.ask (fun e => e.ensureOutgoingAllowed B .subscribe)
  requireFullParser
  Eff.ask (fun e => e.validateSubscribe command)
  let pid ← candidateId command.packetId
  let e ← Eff.read
  operate B .subscribe pid (subscribePacket e.mqttVersion pid command)

def unsubscribeInner (B : Build) (command : UnsubscribeCommand) :
    Eff (MqttEngine T) MqttClientError UInt16 := do
  Eff.ask (fun e => e.ensureOutgoingAllowed B .unsubscribe)
  requireFullParser
  let pid ← candidateId command.packetId
  let e ← Eff.read
  operate B .unsubscribe pid (unsubscribePacket e.mqttVersion pid command)

/-- Encode the packet of an operation and track it on a stream. -/
def operateEncoded (B : Build) (kind : OperationKind) (pid : UInt16) (packet : MqttPacket)
    (stream : Option Nat) : Eff (MqttEngine T) MqttClientError (UInt16 × Bytes) := do
  let bytes ← Eff.ask (fun e => e.encodedCheck B packet)
  trackEncoded pid packet 1 stream
  Eff.update (fun e => e.accept pid)
  startDeadline kind (some pid)
  Eff.update (fun e => { e with lastPacketSent := e.now })
  return (pid, bytes)

def subscribeEncodedInner (B : Build) (command : SubscribeCommand) (stream : Option Nat) :
    Eff (MqttEngine T) MqttClientError (UInt16 × Bytes) := do
  Eff.ask (fun e => e.ensureOutgoingAllowed B .subscribe)
  requireFullParser
  Eff.ask (fun e => e.validateSubscribe command)
  let pid ← candidateId command.packetId
  let e ← Eff.read
  operateEncoded B .subscribe pid (subscribePacket e.mqttVersion pid command) stream

def unsubscribeEncodedInner (B : Build) (command : UnsubscribeCommand) (stream : Option Nat) :
    Eff (MqttEngine T) MqttClientError (UInt16 × Bytes) := do
  Eff.ask (fun e => e.ensureOutgoingAllowed B .unsubscribe)
  requireFullParser
  let pid ← candidateId command.packetId
  let e ← Eff.read
  operateEncoded B .unsubscribe pid (unsubscribePacket e.mqttVersion pid command) stream

end MqttEngine

end FlowSdk
