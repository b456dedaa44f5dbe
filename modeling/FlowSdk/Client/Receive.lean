/-
  FlowSdk.Client.Receive — incoming publications and the checks of acknowledgements.

  An incoming QoS 1 or 2 exchange is a key with a stage in `received`. After a reset the
  exchanges that are kept are unbound: the next packet with their identifier binds them to
  the stream it arrives on.
-/
import FlowSdk.Client.Operations

namespace FlowSdk

open Machine Wire

variable {T : Type} [TimePoint T] {ε : Type}

namespace MqttEngine

/-! ## What may come in -/

def acceptable (e : MqttEngine T) : ControlPacketType → Bool
  | .connack => e.state.connecting && !e.isConnected
  | .auth | .disconnect => e.isConnected || (e.mqttVersion = 5 && e.state.connecting)
  | _ => e.isConnected

def acceptIncoming (B : Build) (packetType : ControlPacketType) : Eff (MqttEngine T) ε Bool := do
  let e ← Eff.read
  if e.state.inputClosed then return false
  else if e.acceptable packetType then return true
  else do
    failConnection B (.protocolViolation
      ("Unexpected " ++ packetType.toText ++ " in the current connection state"))
    return false

/-- The results of a function that failed the connection. -/
def connectionFailed (B : Build) (error : MqttClientError) :
    Eff (MqttEngine T) ε (List MqttEvent × List Response) := do
  failConnection B error
  let events ← takeEvents
  return (events, [])

/-! ## Exchanges -/

def receivedKey (B : Build) (e : MqttEngine T) (key : ReceiveKey) : Option ReceiveKey :=
  if (e.state.received.lookup key).isSome then some key
  else (B.iter e.state.receivedUnbound).find? (fun k => k.2 = key.2)

def bindReceived (e : MqttEngine T) (previous key : ReceiveKey) : MqttEngine T :=
  let entered := (e.state.received.lookup previous).map (Obs.entered key)
  { e with
    trace := entered.toList ++ e.trace
    state := { e.state with
      receivedUnbound := e.state.receivedUnbound.filter (· ≠ previous)
      received :=
        if previous = key then e.state.received
        else match e.state.received.lookup previous with
          | none => e.state.received
          | some stage => (e.state.received.erase previous).insert key stage } }

def checkTopic (publish : V5.MqttPublish) : Eff (MqttEngine T) MqttClientError V5.MqttPublish :=
  if publish.topicName = "" then
    Eff.fail (invalid "PUBLISH" "Empty topic without a defined alias")
  else pure publish

def resolveIncoming (publish : V5.MqttPublish) :
    Eff (MqttEngine T) MqttClientError V5.MqttPublish := do
  let e ← Eff.read
  match topicAliases publish.properties with
  | [] => checkTopic publish
  | topicAlias :: more =>
    if more ≠ [] ∨ topicAlias = 0 ∨ topicAlias > e.state.incomingAliasMaximum then
      Eff.fail (invalid "Topic Alias" "Invalid incoming alias")
    else if publish.topicName = "" then
      match e.state.incomingAliases.lookup topicAlias with
      | none => Eff.fail (invalid "Topic Alias" "Undefined incoming alias")
      | some topic => checkTopic { publish with topicName := topic }
    else do
      Eff.update (fun e => { e with
        state.incomingAliases := e.state.incomingAliases.insert topicAlias publish.topicName })
      checkTopic publish

/-- A key counts against the receive maximum once on each connection. -/
def chargeQuota (key : ReceiveKey) : Eff (MqttEngine T) MqttClientError Unit := do
  let e ← Eff.read
  if key ∈ e.state.receivedOnConnection then pure ()
  else if e.state.incomingQuotaUsed ≥ e.state.incomingReceiveMaximum.toNat then
    Eff.fail (.protocolViolation "Incoming Receive Maximum exceeded")
  else Eff.update (fun e => { e.record (.charged key) with
    state := { e.state with
      receivedOnConnection := key :: e.state.receivedOnConnection
      incomingQuotaUsed := e.state.incomingQuotaUsed + 1 } })

/-- The exchange under a key is one of the other QoS. -/
def qosMismatch (e : MqttEngine T) (qos : UInt8) (key : ReceiveKey) : Bool :=
  (e.state.received.lookup key).any (fun stage => decide (qos = 1) != decide (stage = .publish 1))

/-- `receive_publish`: whether the message is to be delivered. -/
def receivePublish (B : Build) (qos : UInt8) (id : Option UInt16) (stream : Option Nat) :
    Eff (MqttEngine T) MqttClientError Bool :=
  match if qos > 0 then id else none with
  | none => return true
  | some id =>
    if id = 0 then Eff.fail (.invalidPacketId id)
    else do
      let e ← Eff.read
      let key := (stream, id)
      match e.receivedKey B key with
      | some previous =>
        if e.qosMismatch qos previous then Eff.fail (.invalidPacketId id)
        else do
          chargeQuota key
          Eff.update (fun e => e.bindReceived previous key)
          return false
      | none => do
        chargeQuota key
        Eff.update (fun e => { e.record (.entered key (.publish qos)) with
          state.received := e.state.received.insert key (.publish qos) })
        return true

/-! ## Acknowledging -/

/-- The stage of an exchange that a kind of acknowledgement (4, 5 or 7) answers. -/
def answers (kind : UInt8) (stage : ReceiveStage) : Bool :=
  match stage with
  | .publish qos => (kind = 4 && qos = 1) || (kind = 5 && qos = 2)
  | .pubRec => kind = 5
  | .pubRel => kind = 7

def manualAckCheck (e : MqttEngine T) (id : UInt16) (kind reason : UInt8) (properties : Properties)
    (stream : Option Nat) : Except MqttClientError Unit := do
  rejectIf (id = 0) (.invalidPacketId id)
  rejectIf (¬ (e.state.received.lookup (stream, id)).any (answers kind)) (.invalidPacketId id)
  rejectIf (e.mqttVersion ≠ 5 ∧ (reason ≠ 0 ∨ properties ≠ []))
    (invalid "acknowledgement" "MQTT 3 does not support reason codes or properties")
  rejectIf ((kind = 7 ∧ reason ∉ ([0, 0x92] : List UInt8)) ∨
      (kind ≠ 7 ∧ reason ∉ ([0, 0x10, 0x80, 0x83, 0x87, 0x90, 0x91, 0x97, 0x99] : List UInt8)))
    (invalid "acknowledgement" "Invalid reason code")
  rejectIf (properties.any (fun p => p.id ≠ .reasonString ∧ p.id ≠ .userProperty) ∨
      (properties.filter (·.id = .reasonString)).length > 1)
    (invalid "acknowledgement" "Invalid properties")

/-- The packet of an acknowledgement; no packet is the `unreachable!()` of the source. -/
def ackResponse (mqttVersion kind : UInt8) (id : UInt16) (reason : UInt8)
    (properties : Properties) : Option Response :=
  if kind = 4 then
    if mqttVersion = 5 then some ⟨.pubAck5 ⟨id, reason, properties⟩, rfl⟩
    else some ⟨.pubAck3 ⟨id⟩, rfl⟩
  else if kind = 5 then
    if mqttVersion = 5 then some ⟨.pubRec5 ⟨id, reason, properties⟩, rfl⟩
    else some ⟨.pubRec3 ⟨id⟩, rfl⟩
  else if kind = 7 then
    if mqttVersion = 5 then some ⟨.pubComp5 ⟨id, reason, properties⟩, rfl⟩
    else some ⟨.pubComp3 ⟨id⟩, rfl⟩
  else none

def manualAckPacket (id : UInt16) (kind reason : UInt8) (properties : Properties)
    (stream : Option Nat) : Eff (MqttEngine T) MqttClientError Response := do
  Eff.ask (fun e => e.manualAckCheck id kind reason properties stream)
  let e ← Eff.read
  match ackResponse e.mqttVersion kind id reason properties with
  | some packet => pure packet
  | none => panicAt .manualAck

def commitReceiveAck (e : MqttEngine T) (id : UInt16) (kind reason : UInt8) (stream : Option Nat) :
    MqttEngine T :=
  let key := (stream, id)
  let unbound := e.state.receivedUnbound.filter (· ≠ key)
  if kind = 5 ∧ reason < 0x80 then
    let entered := (e.state.received.lookup key).map (fun _ => Obs.entered key .pubRec)
    { e with
      trace := entered.toList ++ e.trace
      state := { e.state with
        receivedUnbound := unbound
        received := if (e.state.received.lookup key).isSome
          then e.state.received.insert key .pubRec else e.state.received } }
  else
    { e.record (.credited key) with
      state := { e.state with
        receivedUnbound := unbound
        received := e.state.received.erase key
        receivedOnConnection := e.state.receivedOnConnection.filter (· ≠ key)
        incomingQuotaUsed := e.state.incomingQuotaUsed - 1 } }

/-- The acknowledgement of an application is recorded when it is a PUBREC. -/
def recordPubrec (e : MqttEngine T) (id : UInt16) (kind reason : UInt8) : MqttEngine T :=
  if kind = 5 then e.record (.pubrecSent id reason) else e

def manualAck (B : Build) (id : UInt16) (kind reason : UInt8) (properties : Properties) :
    Eff (MqttEngine T) MqttClientError Unit := do
  let packet ← manualAckPacket id kind reason properties none
  enqueuePacketInner B .command packet
  Eff.update (fun e => (e.commitReceiveAck id kind reason none).recordPubrec id kind reason)

/-- The automatic acknowledgement at the end of `receive_message`. -/
def acknowledgeReceived (qos : UInt8) (id : UInt16) (stream : Option Nat) :
    Eff (MqttEngine T) ε (List MqttEvent × List Response) := do
  let e ← Eff.read
  if e.options.autoAck ∨ e.state.received.lookup (stream, id) = some .pubRec then do
    let kind : UInt8 := if qos = 1 then 4 else 5
    match ← Eff.attempt (manualAckPacket id kind 0 [] stream) with
    | .ok packet => do
      Eff.update (fun e => e.commitReceiveAck id kind 0 stream)
      return ([], [packet])
    | .error error => do
      let events ← noted [.error error]
      return (events, [])
  else return ([], [])

def deliveryEvents (deliver : Bool) (publish : V5.MqttPublish) (stream : Option Nat) :
    List MqttEvent :=
  if deliver then [.publishReceived publish.packetId stream, .messageReceived publish] else []

/-- `receive_message` once the publication has been received. -/
def deliverMessage (deliver : Bool) (publish : V5.MqttPublish) (stream : Option Nat) :
    Eff (MqttEngine T) ε (List MqttEvent × List Response) := do
  let events ← noted (deliveryEvents deliver publish stream)
  match if publish.qos > 0 then publish.packetId else none with
  | none => return (events, [])
  | some id => do
    let (more, responses) ← acknowledgeReceived publish.qos id stream
    return (events ++ more, responses)

def receiveMessage (B : Build) (publish : V5.MqttPublish) (stream : Option Nat) :
    Eff (MqttEngine T) ε (List MqttEvent × List Response) := do
  match ← Eff.attempt (resolveIncoming publish) with
  | .error error => connectionFailed B error
  | .ok publish => do
    match ← Eff.attempt (receivePublish B publish.qos publish.packetId stream) with
    | .error error => connectionFailed B error
    | .ok deliver => deliverMessage deliver publish stream

/-- The end of `receive_pubrel`: the event, and the PUBCOMP of an automatic client. -/
def pubrelReceived (id : UInt16) (reason : UInt8) (stream : Option Nat) :
    Eff (MqttEngine T) ε (List MqttEvent × List Response) := do
  let events ← noted [.pubRelReceived id stream]
  let e ← Eff.read
  if e.options.autoAck then do
    match ← Eff.attempt (manualAckPacket id 7 reason [] stream) with
    | .error _ => panicAt .pubrelState
    | .ok packet => do
      Eff.update (fun e => e.commitReceiveAck id 7 reason stream)
      return (events, [packet])
  else return (events, [])

/-- Advance an exchange to the PUBREL stage. -/
def advancePubrel (e : MqttEngine T) (key : ReceiveKey) : MqttEngine T :=
  { e.record (.pubrel key.2) with state.received := e.state.received.insert key .pubRel }

def receivePubrel (B : Build) (id : UInt16) (stream : Option Nat) :
    Eff (MqttEngine T) ε (List MqttEvent × List Response) :=
  if id = 0 then connectionFailed B (.invalidPacketId id)
  else do
    let e ← Eff.read
    let key := (stream, id)
    match e.receivedKey B key with
    | some previous =>
      if e.state.received.lookup previous = some .pubRec ∨
          e.state.received.lookup previous = some .pubRel then do
        Eff.update (fun e => (e.bindReceived previous key).advancePubrel key)
        pubrelReceived id 0 stream
      else do
        let events ← noted [.error (.invalidPacketId id)]
        return (events, [])
    | none =>
      -- A known exchange on another stream must not be advanced here.
      if e.state.received.keys.any (fun k => k.2 = id) then do
        let events ← noted [.error (.invalidPacketId id)]
        return (events, [])
      else do
        Eff.update (fun e => e.advancePubrel key)
        pubrelReceived id (if e.mqttVersion = 5 then 0x92 else 0) stream

/-! ## Checking acknowledgements -/

/-- The identifier and the packet type of an acknowledgement. -/
def ackTarget : MqttPacket → Option (UInt16 × UInt8)
  | .pubAck5 p => some (p.packetId, 4)
  | .pubAck3 p => some (p.messageId, 4)
  | .pubRec5 p => some (p.packetId, 5)
  | .pubRec3 p => some (p.messageId, 5)
  | .pubComp5 p => some (p.packetId, 7)
  | .pubComp3 p => some (p.messageId, 7)
  | .subAck5 p => some (p.packetId, 9)
  | .subAck3 p => some (p.messageId, 9)
  | .unsubAck5 p => some (p.packetId, 11)
  | .unsubAck3 p => some (p.messageId, 11)
  | _ => none

/-- The packet in flight is one that this type of acknowledgement answers. -/
def ackMatches (sent : MqttPacket) (kind : UInt8) : Bool :=
  match sent with
  | .publish5 p => (kind = 4 && p.qos = 1) || (kind = 5 && p.qos = 2)
  | .publish3 p => (kind = 4 && p.qos = 1) || (kind = 5 && p.qos = 2)
  | .pubRel5 _ | .pubRel3 _ => kind = 5 || kind = 7
  | .subscribe5 _ | .subscribe3 _ => kind = 9
  | .unsubscribe5 _ | .unsubscribe3 _ => kind = 11
  | _ => false

/-- The filters subscribed to and the results of a SUBACK. -/
def ackCounts : MqttPacket → MqttPacket → Option (Nat × Nat)
  | .subscribe3 sent, .subAck3 ack => some (sent.subscriptions.length, ack.returnCodes.length)
  | .subscribe5 sent, .subAck5 ack => some (sent.subscriptions.length, ack.reasonCodes.length)
  | _, _ => none

def validateAck (e : MqttEngine T) (packet : MqttPacket) (stream : Option Nat) :
    Except MqttClientError Unit :=
  match ackTarget packet with
  | none => .ok ()
  | some (id, kind) =>
    match e.inflightQueue.get id with
    | none => .error (.invalidPacketId id)
    | some entry =>
      if ¬ ackMatches entry.packet kind ∨ entry.stream ≠ stream then .error (.invalidPacketId id)
      else match ackCounts entry.packet packet with
        | none => .ok ()
        | some (expected, actual) =>
          rejectIf (expected ≠ actual) (.protocolViolation
            s!"SUBACK has {actual} results for {expected} subscription filters")

end MqttEngine

end FlowSdk
