/-
  FlowSdk.Client.Output — identifiers, deadlines and the output buffer of the engine.

  The checks are functions of the state into `Except`; code that changes the state is an
  effect on it, or a plain function when it can neither fail nor panic.
-/
import FlowSdk.Client.State
import FlowSdk.Machine.Cyclic

namespace FlowSdk

open Machine Wire

variable {T : Type} [TimePoint T] {ε : Type}

/-- The name of a packet type in messages. -/
def ControlPacketType.toText : ControlPacketType → String
  | .connect => "CONNECT" | .connack => "CONNACK" | .publish => "PUBLISH" | .puback => "PUBACK"
  | .pubrec => "PUBREC" | .pubrel => "PUBREL" | .pubcomp => "PUBCOMP"
  | .subscribe => "SUBSCRIBE" | .suback => "SUBACK" | .unsubscribe => "UNSUBSCRIBE"
  | .unsuback => "UNSUBACK" | .pingreq => "PINGREQ" | .pingresp => "PINGRESP"
  | .disconnect => "DISCONNECT" | .auth => "AUTH"

def ParseLevel.toText : ParseLevel → String
  | .full => "Full"
  | .headersParsed => "HeadersParsed"
  | .rawBody => "RawBody"
  | .typeOnly => "TypeOnly"

namespace MqttPacket

/-- The QoS and the retain flag of a PUBLISH. -/
def publishFlags : MqttPacket → Option (UInt8 × Bool)
  | .publish5 p => some (p.qos, p.retain)
  | .publish3 p => some (p.qos, p.retain)
  | _ => none

/-- The QoS of a PUBLISH, and 0 for any other packet. -/
def qos (p : MqttPacket) : UInt8 := (p.publishFlags.map Prod.fst).getD 0

/-- The identifier field of a PUBLISH. -/
def publishId : MqttPacket → Option UInt16
  | .publish5 p => p.packetId
  | .publish3 p => p.messageId
  | _ => none

/-- Drop the topic aliases of a PUBLISH: they belong to one connection. -/
def withoutAlias : MqttPacket → MqttPacket
  | .publish5 p => .publish5 { p with properties := p.properties.filter (·.id ≠ .topicAlias) }
  | p => p

/-- The operation that a packet in flight belongs to. -/
def operation : MqttPacket → OperationKind
  | .subscribe3 _ | .subscribe5 _ => .subscribe
  | .unsubscribe3 _ | .unsubscribe5 _ => .unsubscribe
  | _ => .publish

end MqttPacket

def Queued.withoutAlias (item : Queued) : Queued :=
  { item with packet := item.packet.withoutAlias }

def invalid (field reason : String) : MqttClientError := .invalidConfiguration field reason

/-- An encoding, with the error of the client. -/
def encoded (B : Build) (packet : MqttPacket) : Except MqttClientError Bytes :=
  (packet.toBytes B.strict).mapError MqttClientError.fromParseError

/-- `find_map` of the authentication method. -/
def authenticationMethod (properties : Properties) : Option String :=
  properties.findSome? (fun
    | .authenticationMethod method => some method
    | _ => none)

namespace MqttEngine

def mqttVersion (e : MqttEngine T) : UInt8 := e.options.mqttVersion

/-! ## CONNECT -/

/-- The check of one CONNECT property. -/
def connectProperty : Property → Except MqttClientError Unit
  | .receiveMaximum v =>
    rejectIf (v = 0) (invalid "CONNECT" "Receive Maximum and Maximum Packet Size must be nonzero")
  | .maximumPacketSize v =>
    rejectIf (v = 0) (invalid "CONNECT" "Receive Maximum and Maximum Packet Size must be nonzero")
  | .requestResponseInformation v | .requestProblemInformation v =>
    rejectIf (v > 1) (invalid "CONNECT" "Boolean property must be 0 or 1")
  | .sessionExpiryInterval _ | .topicAliasMaximum _ | .userProperty _ _
  | .authenticationMethod _ | .authenticationData _ => .ok ()
  | _ => .error (invalid "CONNECT" "Property is not valid in CONNECT")

/-- The loop of `connect_properties`: equal singletons are merged, different ones conflict. -/
def mergeProperties : Properties → Properties → Except MqttClientError Properties
  | [], merged => .ok merged
  | property :: rest, merged => do
    connectProperty property
    match if property.id = .userProperty then none else merged.find? (·.id = property.id) with
    | some existing =>
      if existing ≠ property then
        .error (invalid "CONNECT" "Conflicting singleton property values")
      else mergeProperties rest merged
    | none => mergeProperties rest (merged ++ [property])

def boolByte (b : Bool) : UInt8 := if b then 1 else 0

def connectProperties (options : MqttClientOptions) : Except MqttClientError Properties := do
  let merged ← mergeProperties (options.connectProperties ++
    (options.sessionExpiryInterval.map Property.sessionExpiryInterval).toList ++
    (options.maximumPacketSize.map Property.maximumPacketSize).toList ++
    (options.requestResponseInformation.map (.requestResponseInformation <| boolByte ·)).toList ++
    (options.requestProblemInformation.map (.requestProblemInformation <| boolByte ·)).toList ++
    (options.incomingReceiveMaximum.map Property.receiveMaximum).toList) []
  rejectIf (merged.any (·.id = .authenticationData) ∧ ¬ merged.any (·.id = .authenticationMethod))
    (invalid "CONNECT" "Authentication Data requires Authentication Method")
  return merged

def connectPacket (options : MqttClientOptions) : Except MqttClientError MqttPacket :=
  if options.mqttVersion = 5 then do
    let properties ← connectProperties options
    return .connect5 ⟨"MQTT", 5, options.keepAlive, options.clientId, options.will,
      options.username, options.password, properties, options.cleanStart⟩
  else
    .ok (.connect3 ⟨"MQTT", 4, options.cleanStart, options.keepAlive, options.clientId,
      options.will.map (fun w => ⟨w.willRetain, w.willQos, w.willTopic, w.willMessage⟩),
      options.username, options.password⟩)

/-! ## The output buffer -/

/-- `ensure_outgoing_allowed`, a check of the strict build. -/
def ensureOutgoingAllowed (B : Build) (e : MqttEngine T) (packetType : ControlPacketType) :
    Except MqttClientError Unit :=
  rejectIf (B.strict ∧ e.mqttVersion = 5 ∧ e.state.connecting ∧
      (authenticationMethod e.options.connectProperties).isSome ∧
      packetType ≠ .auth ∧ packetType ≠ .disconnect)
    (.invalidState "AUTH or DISCONNECT until CONNACK"
      (packetType.toText ++ " during initial enhanced authentication"))

def unsupported (e : MqttEngine T) (qos : UInt8) (retain : Bool) : Prop :=
  qos > e.state.maximumQos ∨ (retain ∧ ¬ e.state.retainAvailable)

instance (e : MqttEngine T) (qos : UInt8) (retain : Bool) : Decidable (e.unsupported qos retain) :=
  inferInstanceAs (Decidable (_ ∨ _))

def validatePacketCapabilities (e : MqttEngine T) (packet : MqttPacket) :
    Except MqttClientError Unit :=
  match packet.publishFlags with
  | none => .ok ()
  | some (qos, retain) =>
    rejectIf (e.unsupported qos retain)
      (invalid "PUBLISH" "Broker does not support requested QoS or retain")

/-- A size against an optional limit. -/
def rejectOver (limit : Option Nat) (size : Nat) (bufferType : String) :
    Except MqttClientError Unit :=
  match limit with
  | none => .ok ()
  | some capacity => rejectIf (size > capacity) (.bufferFull bufferType capacity)

def checkPacketSize (e : MqttEngine T) (bytes : Bytes) : Except MqttClientError Unit := do
  rejectOver e.options.maxOutgoingBufferBytes bytes.length "outgoing packet"
  rejectIf (e.state.maximumPacketSize.any (fun max => bytes.length > max))
    (invalid "packet size" "Packet exceeds the broker's Maximum Packet Size")

def outgoingBytes (e : MqttEngine T) : Nat :=
  e.state.queuedBytes + (e.outgoingBuffer.map List.length).sum

def checkOutputCapacity (e : MqttEngine T) (additional : Nat) : Except MqttClientError Unit :=
  rejectOver e.options.maxOutgoingBufferBytes (e.outgoingBytes + additional) "outgoing bytes"

/-- The checks of `enqueue_packet_inner`, and the bytes that pass them. -/
def enqueueCheck (B : Build) (e : MqttEngine T) (packet : MqttPacket) :
    Except MqttClientError Bytes := do
  e.ensureOutgoingAllowed B packet.packetType
  rejectIf (e.outgoingBuffer.length ≥ e.options.maxOutgoingPacketCount)
    (.bufferFull "outgoing" e.options.maxOutgoingPacketCount)
  e.validatePacketCapabilities packet
  let bytes ← encoded B packet
  e.checkPacketSize bytes
  e.checkOutputCapacity bytes.length
  return bytes

/-- `outgoing_buffer.push_back(bytes)`. -/
def appendOutgoing (e : MqttEngine T) (origin : Origin) (packet : MqttPacket) (bytes : Bytes) :
    MqttEngine T :=
  { e.record (.appended origin packet) with
    outgoingBuffer := e.outgoingBuffer ++ [bytes]
    lastPacketSent := e.now }

def enqueuePacketInner (B : Build) (origin : Origin) (packet : MqttPacket) :
    Eff (MqttEngine T) MqttClientError Unit := do
  let bytes ← Eff.ask (fun e => e.enqueueCheck B packet)
  Eff.update (fun e => e.appendOutgoing origin packet bytes)

/-! ## Deadlines -/

def deadlineFrom (start : T) (duration : Nat) : Eff (MqttEngine T) ε T :=
  match TimePoint.checkedAdd start duration with
  | some deadline => pure deadline
  | none => panicAt .deadlineHorizon

def timeoutOf (timeouts : OperationTimeouts) : OperationKind → Option Nat
  | .connect => timeouts.connect
  | .publish => timeouts.publish
  | .subscribe => timeouts.subscribe
  | .unsubscribe => timeouts.unsubscribe

def startDeadline (operation : OperationKind) (id : Option UInt16) : Eff (MqttEngine T) ε Unit := do
  let e ← Eff.read
  match timeoutOf e.options.operationTimeouts operation with
  | none => pure ()
  | some duration => do
    let deadline ← deadlineFrom e.now duration
    Eff.update (fun e => { e with
      state.deadlines := e.state.deadlines.insert (operation, id) (deadline, duration) })

/-! ## Operations -/

def finishOperation (e : MqttEngine T) (id : UInt16) : MqttEngine T :=
  let reserved := e.state.reserved.erase id
  { e.record (.released id (id ∈ e.state.reserved)) with
    state := { e.state with
      reserved := reserved
      replayReserve := if reserved = ∅ then 0 else e.state.replayReserve
      deadlines := retain (fun key _ => key.2 ≠ some id) e.state.deadlines } }

/-- `inflight_queue.acknowledge(id)` for its effect. -/
def acknowledged (e : MqttEngine T) (id : UInt16) : MqttEngine T :=
  { e with inflightQueue := (e.inflightQueue.acknowledge id).2 }

def failOperation (e : MqttEngine T) (id : UInt16) (packet : MqttPacket) (error : MqttClientError) :
    MqttEngine T :=
  ((e.acknowledged id).finishOperation id).pushEvent
    (.operationFailed packet.operation (some id) error)

/-- The search of `next_packet_id`: the first identifier of the session that is free. -/
def searchId (taken : UInt16 → Bool) : Nat → ClientSession → Option UInt16 × ClientSession
  | 0, session => (none, session)
  | fuel + 1, session =>
    let (id, session) := session.nextPacketId
    if taken id then searchId taken fuel session else (some id, session)

theorem nextPacketId_eq (session : ClientSession) :
    session.nextPacketId = (successor session.packetIdCounter, ⟨successor session.packetIdCounter⟩) := by
  obtain ⟨counter⟩ := session
  simp only [ClientSession.nextPacketId, successor]
  by_cases hzero : counter = 0
  · rw [hzero]
    rfl
  · simp only [hzero, or_false]

theorem searchId_eq (taken : UInt16 → Bool) (fuel : Nat) (session : ClientSession) :
    searchId taken fuel session = ((searchFree successor taken fuel session.packetIdCounter).1,
      ⟨(searchFree successor taken fuel session.packetIdCounter).2⟩) := by
  induction fuel generalizing session with
  | zero => rfl
  | succ fuel ih =>
    rw [searchId, searchFree, nextPacketId_eq]
    dsimp only
    split
    · exact ih _
    · rfl

def inUse (e : MqttEngine T) (id : UInt16) : Bool :=
  id ∈ e.state.reserved || e.inflightQueue.contains id

def nextPacketId : Eff (MqttEngine T) MqttClientError UInt16 := do
  let e ← Eff.read
  match e.session with
  | none => Eff.fail (.protocolViolation "No session available for packet ID allocation")
  | some session => do
    let (found, session) := searchId e.inUse 65535 session
    Eff.update (fun e => { e with session := some session })
    match found with
    | some id => pure id
    | none => Eff.fail .packetIdExhausted

def candidateId (requested : Option UInt16) : Eff (MqttEngine T) MqttClientError UInt16 := do
  let e ← Eff.read
  match requested with
  | some id => if id = 0 ∨ e.inUse id then Eff.fail (.invalidPacketId id) else pure id
  | none => nextPacketId

def requireFullParser : Eff (MqttEngine T) MqttClientError Unit :=
  Eff.ask (fun e => rejectIf (e.parser.parseLevel ≠ .full)
    (.invalidState "Full parser for acknowledgement-bearing operations" e.parser.parseLevel.toText))

end MqttEngine

end FlowSdk
