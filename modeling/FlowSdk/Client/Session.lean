/-
  FlowSdk.Client.Session — opening and closing a connection, and saved sessions.

  CONNECT collects what the session still owes the broker in `previousInflight`: the
  exchanges of an interrupted handshake first, then those in flight, then those that wait for
  their replay, a later copy of an exchange taking the place of an earlier one. A snapshot
  does the same without changing the engine.
-/
import FlowSdk.Client.Input

namespace FlowSdk

open Machine Wire

variable {T : Type} [TimePoint T] {ε : Type}

/-! ## Merging exchanges -/

/-- Overwrite the last entry of the same identifier: its place is the one that the position
map of the source holds. -/
def replaceEntry (entry : UInt16 × MqttPacket) :
    List (UInt16 × MqttPacket) → List (UInt16 × MqttPacket)
  | [] => []
  | old :: rest =>
    if old.1 = entry.1 ∧ entry.1 ∉ rest.map Prod.fst then entry :: rest
    else old :: replaceEntry entry rest

def mergeEntry (list : List (UInt16 × MqttPacket)) (entry : UInt16 × MqttPacket) :
    List (UInt16 × MqttPacket) :=
  if entry.1 ∈ list.map Prod.fst then replaceEntry entry list else list ++ [entry]

def mergeEntries (list : List (UInt16 × MqttPacket)) :
    List (UInt16 × MqttPacket) → List (UInt16 × MqttPacket)
  | [] => list
  | entry :: rest => mergeEntries (mergeEntry list entry) rest

namespace MqttEngine

/-- What the session owes the broker: the loop of `connect_inner` and of `snapshot_session`. -/
def outstanding (e : MqttEngine T) : List (UInt16 × MqttPacket) :=
  mergeEntries (e.previousInflight.filter (fun entry => entry.1 ∈ e.state.reserved))
    (e.inflightQueue.snapshotForReconnect ++ e.sessionReplay)

/-! ## CONNECT -/

def connectAllowed (e : MqttEngine T) : Except MqttClientError Unit := do
  rejectIf e.isConnected .alreadyConnected
  rejectIf e.state.connecting (.invalidState "disconnected" "awaiting CONNACK")
  rejectIf (e.options.maxOutgoingPacketCount = 0 ∨ e.options.maxEventCount = 0)
    (invalid "buffer limits" "Packet and event limits must be nonzero")

/-- The limits that CONNECT announces. -/
def announce (state : ProtocolState T) : Properties → ProtocolState T
  | [] => state
  | .sessionExpiryInterval v :: rest => announce { state with sessionExpiry := v } rest
  | .receiveMaximum v :: rest => announce { state with incomingReceiveMaximum := v } rest
  | .topicAliasMaximum v :: rest => announce { state with incomingAliasMaximum := v } rest
  | _ :: rest => announce state rest

def announced (e : MqttEngine T) : MqttPacket → MqttEngine T
  | .connect5 connect => { e with state := announce e.state connect.properties }
  | _ => e

/-- The allocator of identifiers is created by the first CONNECT. -/
def openSession (e : MqttEngine T) : MqttEngine T :=
  { e with session := some (e.session.getD ⟨0⟩) }

/-- The state changes of `connect_inner` once CONNECT is queued. -/
def beginHandshake (e : MqttEngine T) (reserve : Nat) : MqttEngine T :=
  { e with
    previousInflight := e.outstanding
    sessionReplay := []
    state := { e.state with
      controlReserve := reserve
      inputClosed := false
      connecting := true
      reauthenticating := false }
    nextReconnectAt := none }

def connectInner (B : Build) : Eff (MqttEngine T) MqttClientError Unit := do
  Eff.ask (fun e => e.connectAllowed)
  let packet ← Eff.ask (fun e => connectPacket e.options)
  Eff.update (fun e => (e.announced packet).openSession)
  let bytes ← Eff.lift (encoded B packet)
  enqueuePacketInner B .command packet
  Eff.update (fun e => e.beginHandshake (max bytes.length 6))
  startDeadline .connect none

/-! ## DISCONNECT, AUTH and PINGREQ -/

def disconnectPacket (mqttVersion : UInt8) (reasonCode : UInt8) (properties : Properties) :
    MqttPacket :=
  if mqttVersion = 5 then .disconnect5 ⟨reasonCode, properties⟩ else .disconnect3

/-- The reason codes of a DISCONNECT that a client may send. -/
def clientReason (reasonCode : UInt8) : Prop :=
  reasonCode = 0 ∨ reasonCode = 4 ∨ (0x80 ≤ reasonCode ∧ reasonCode ≤ 0x83) ∨
    reasonCode = 0x90 ∨ (0x93 ≤ reasonCode ∧ reasonCode ≤ 0x99)

instance (reasonCode : UInt8) : Decidable (clientReason reasonCode) :=
  inferInstanceAs (Decidable (_ ∨ _ ∨ _ ∨ _ ∨ _))

/-- The property extends the expiry of a session to a time that is not zero. -/
def extendsExpiry : Property → Bool
  | .sessionExpiryInterval value => value ≠ 0
  | _ => false

def disconnectCheck (e : MqttEngine T) (reasonCode : UInt8) (properties : Properties) :
    Except MqttClientError Unit := do
  rejectIf (¬ clientReason reasonCode)
    (invalid "DISCONNECT reason code" "Not a client DISCONNECT reason code")
  rejectIf (e.mqttVersion ≠ 5 ∧ (reasonCode ≠ 0 ∨ properties ≠ []))
    (invalid "DISCONNECT" "Reason codes and properties require MQTT 5")
  rejectIf (e.state.sessionExpiry = 0 ∧ properties.any extendsExpiry)
    (.protocolViolation "DISCONNECT cannot extend a zero session expiry interval")

def tryDisconnectWithInner (B : Build) (reasonCode : UInt8) (properties : Properties) :
    Eff (MqttEngine T) MqttClientError Unit := do
  Eff.ask (fun e => e.disconnectCheck reasonCode properties)
  let e ← Eff.read
  Eff.onlyWhen e.isConnected
    (enqueuePacketInner B .command (disconnectPacket e.mqttVersion reasonCode properties))
  Eff.update (fun e => { e with nextReconnectAt := none }.closeInput.record .closed)

/-- The state in which the client may send an AUTH. -/
def authAllowed (e : MqttEngine T) (reasonCode : UInt8) : Bool :=
  if reasonCode = 0x19 then e.isConnected && !e.state.reauthenticating
  else if reasonCode = 0x18 then e.state.connecting || e.state.reauthenticating
  else false

/-- The checks of `try_auth_inner`, and the properties that are sent. -/
def authCheck (e : MqttEngine T) (reasonCode : UInt8) (properties : Properties) :
    Except MqttClientError Properties := do
  rejectIf (e.mqttVersion ≠ 5 ∨ (reasonCode ≠ 0x18 ∧ reasonCode ≠ 0x19))
    (invalid "AUTH" "Client AUTH requires MQTT 5 and reason code 0x18 or 0x19")
  match authenticationMethod e.options.connectProperties with
  | none => throw (invalid "AUTH" "CONNECT must specify an authentication method")
  | some method => do
    rejectIf ((authMethods properties).any (· ≠ method))
      (.protocolViolation "Authentication method cannot change during a connection")
    rejectIf (¬ e.authAllowed reasonCode ∨ e.state.inputClosed)
      (.protocolViolation "AUTH is not valid in the current authentication state")
    return if authMethods properties = [] then .authenticationMethod method :: properties
      else properties

def tryAuthInner (B : Build) (reasonCode : UInt8) (properties : Properties) :
    Eff (MqttEngine T) MqttClientError Unit := do
  let properties ← Eff.ask (fun e => e.authCheck reasonCode properties)
  enqueuePacketInner B .command (.auth ⟨reasonCode, properties⟩)
  Eff.update (fun e => if reasonCode = 0x19 then { e with state.reauthenticating := true } else e)

def sendPingInner (B : Build) : Eff (MqttEngine T) MqttClientError Unit := do
  let e ← Eff.read
  sendPingInnerAt B e.now

/-! ## Packets of other streams -/

/-- The encodings of responses that go back on their stream, and the events of those that
have none. -/
def encodeResponses (B : Build) : List Response → Bytes × List MqttEvent
  | [] => ([], [])
  | response :: rest =>
    let (bytes, events) := encodeResponses B rest
    match encoded B response.val with
    | .ok encoding => (encoding ++ bytes, events)
    | .error error => (bytes, .error error :: events)

/-- The end of `ingest_parsed_stream_packet_into`. -/
def finishIngest (B : Build) (responses : List Response) :
    Eff (MqttEngine T) ε (List MqttEvent × Bytes) := do
  let (bytes, failures) := encodeResponses B responses
  let failures ← noted failures
  Eff.update (fun e => if bytes = [] then e else { e with lastPacketSent := e.now })
  processQueue B
  let events ← takeEvents
  return (failures ++ events, bytes)

def ingestStreamPacketInner (B : Build) (packet : MqttPacket) (stream : Nat) :
    Eff (MqttEngine T) ε (List MqttEvent × Bytes) := do
  Eff.update (fun e => { e with lastPacketReceived := e.now })
  let before ← takeEvents
  let (events, responses) ← handlePacket B packet (some stream)
  let (after, bytes) ← finishIngest B responses
  return (before ++ events ++ after, bytes)

/-! ## Saved sessions -/

def sessionVersion : Nat := 1

def invalidSession (reason : String) : MqttClientError := .invalidConfiguration "session state" reason

def snapshotStage : ReceiveStage → Option ReceivedStage
  | .publish qos => if qos = 2 then some .publish else none
  | .pubRec => some .pubRec
  | .pubRel => some .pubRel

/-- The order of `sort_by_key(|entry| (entry.stream, entry.packet_id))`. -/
def exchangeBefore (a b : ReceivedExchange) : Bool :=
  match a.stream, b.stream with
  | none, none => a.packetId ≤ b.packetId
  | none, some _ => true
  | some _, none => false
  | some x, some y => x < y || (x = y && a.packetId ≤ b.packetId)

def snapshotReceived (B : Build) (e : MqttEngine T) : List ReceivedExchange :=
  ((B.iter e.state.received.entries).filterMap (fun entry =>
    (snapshotStage entry.2).map (⟨entry.1.1, entry.1.2, ·⟩))).mergeSort exchangeBefore

def snapshotSession (B : Build) (e : MqttEngine T) : Except MqttClientError ClientSessionState := do
  rejectIf (e.options.sessionless ∨ e.options.clientId = "")
    (invalidSession "Checkpointing requires session tracking and a client ID")
  return {
    version := sessionVersion
    peer := e.options.peer
    clientId := e.options.clientId
    mqttVersion := e.options.mqttVersion
    hasSession := e.state.hasSession
    sessionExpiryInterval := e.state.sessionExpiry
    packetIdCounter := (e.session.map ClientSession.packetIdCounter).getD 0
    outbound := e.outstanding.map (fun entry => (entry.1, entry.2.withoutAlias))
    queued := e.priorityQueue.items.map (fun item => (item.1, item.2.packet.withoutAlias))
    received := e.snapshotReceived B }

/-- The fields of a saved publication that are checked, if it is one of this version. -/
def savedPublish (mqttVersion : UInt8) :
    MqttPacket → Except MqttClientError (Option (UInt8 × Option UInt16 × String × Bool))
  | .publish5 p =>
    if mqttVersion = 5 then do
      rejectIf (p.properties.any (·.id = .topicAlias))
        (invalidSession "Saved publications must not contain topic aliases")
      return some (p.qos, p.packetId, p.topicName, p.dup)
    else return none
  | .publish3 p =>
    if mqttVersion ≠ 5 then return some (p.qos, p.messageId, p.topicName, p.dup) else return none
  | _ => return none

/-- The identifier of a packet that may be outstanding and is not a publication. -/
def savedRequest (mqttVersion : UInt8) (packet : MqttPacket) : Option UInt16 :=
  match packet with
  | .pubRel5 p => if mqttVersion = 5 then some p.packetId else none
  | .subscribe5 p => if mqttVersion = 5 then some p.packetId else none
  | .unsubscribe5 p => if mqttVersion = 5 then some p.packetId else none
  | .pubRel3 p => if mqttVersion ≠ 5 then some p.messageId else none
  | .subscribe3 p => if mqttVersion ≠ 5 then some p.messageId else none
  | .unsubscribe3 p => if mqttVersion ≠ 5 then some p.messageId else none
  | _ => none

/-- `packet_id`: the identifier of a saved packet that passes the checks. -/
def savedPacketId (packet : MqttPacket) (mqttVersion : UInt8) (queued : Bool) :
    Except MqttClientError (Option UInt16) := do
  match ← savedPublish mqttVersion packet with
  | some (qos, id, topic, dup) => do
    rejectIf (qos > 2 ∨ topic = "" ∨ topic.toList.any (fun c => c = '#' ∨ c = '+' ∨ c = '\x00') ∨
        (qos = 0 ∧ (id.isSome ∨ dup ∨ ¬ queued)) ∨ (qos > 0 ∧ (id = none ∨ id = some 0)))
      (invalidSession "Invalid saved publication")
    return id
  | none => do
    rejectIf queued (invalidSession "Only publications may be queued")
    match savedRequest mqttVersion packet with
    | none => throw (invalidSession "Invalid outstanding packet type or MQTT version")
    | some id => do
      rejectIf (id = 0) (invalidSession "Saved packet identifiers must be nonzero")
      return some id

/-- The loop over the outstanding packets: their identifiers and the largest encoding. -/
def loadOutbound (B : Build) (mqttVersion : UInt8) :
    List (UInt16 × MqttPacket) → Finset UInt16 × Nat → Except MqttClientError (Finset UInt16 × Nat)
  | [], acc => .ok acc
  | (id, packet) :: rest, (reserved, replayReserve) => do
    let found ← savedPacketId packet mqttVersion false
    rejectIf (found ≠ some id ∨ id ∈ reserved)
      (invalidSession "Duplicate or inconsistent outstanding packet identifier")
    let bytes ← encoded B packet
    loadOutbound B mqttVersion rest (insert id reserved, max replayReserve bytes.length)

/-- What the loop over the queued publications has read. -/
structure LoadedQueue where
  queue : PriorityQueue UInt8 Queued
  reserved : Finset UInt16
  queuedBytes : Nat
  replayReserve : Nat
  /-- what is recorded for the publications read -/
  trace : List Obs

/-- A queued publication that passed the checks. -/
def LoadedQueue.add (loaded : LoadedQueue) (priority : UInt8) (packet : MqttPacket)
    (id : Option UInt16) (size : Nat) : LoadedQueue :=
  let trace := (id.map Obs.inherited).toList ++ loaded.trace
  let evicting := loaded.queue.size ≥ loaded.queue.capacity
  { queue := loaded.queue.enqueue priority ⟨packet, trace.length⟩
    reserved := id.elim loaded.reserved (insert · loaded.reserved)
    queuedBytes := loaded.queuedBytes + size
    replayReserve := if id.isSome then max loaded.replayReserve size else loaded.replayReserve
    trace := .queued priority trace.length evicting packet :: trace }

def loadQueued (B : Build) (mqttVersion : UInt8) :
    List (UInt8 × MqttPacket) → LoadedQueue → Except MqttClientError LoadedQueue
  | [], loaded => .ok loaded
  | (priority, packet) :: rest, loaded => do
    let id ← savedPacketId packet mqttVersion true
    rejectIf (id.any (· ∈ loaded.reserved)) (invalidSession "Duplicate queued packet identifier")
    let bytes ← encoded B packet
    loadQueued B mqttVersion rest (loaded.add priority packet id bytes.length)

def loadStage : ReceivedStage → ReceiveStage
  | .publish => .publish 2
  | .pubRec => .pubRec
  | .pubRel => .pubRel

def loadReceived (hasSession : Bool) : List ReceivedExchange →
    AList (fun _ : ReceiveKey => ReceiveStage) →
    Except MqttClientError (AList (fun _ : ReceiveKey => ReceiveStage))
  | [], received => .ok received
  | entry :: rest, received => do
    rejectIf (¬ hasSession ∨ entry.packetId = 0 ∨
        (received.lookup (entry.stream, entry.packetId)).isSome)
      (invalidSession "Invalid or duplicate incoming QoS 2 exchange")
    loadReceived hasSession rest
      (received.insert (entry.stream, entry.packetId) (loadStage entry.stage))

/-- A saved session that passed the checks. -/
structure LoadedSession extends LoadedQueue where
  outbound : List (UInt16 × MqttPacket)
  controlReserve : Nat
  received : AList (fun _ : ReceiveKey => ReceiveStage)

def restoreCheck (e : MqttEngine T) (saved : ClientSessionState) : Except MqttClientError Unit := do
  rejectIf (e.session.isSome ∨ e.isConnected ∨ e.state.connecting ∨ e.state.reserved ≠ ∅ ∨
      e.priorityQueue.size ≠ 0 ∨ e.outgoingBuffer ≠ [])
    (.invalidState "a fresh engine before CONNECT or commands" "engine already in use")
  rejectIf (saved.version ≠ sessionVersion) (invalidSession "Unsupported session state version")
  rejectIf (e.options.sessionless ∨ e.options.cleanStart)
    (invalidSession "Resumption requires session tracking and clean_start(false)")
  rejectIf (saved.clientId = "" ∨ saved.clientId ≠ e.options.clientId ∨
      saved.peer ≠ e.options.peer ∨ saved.mqttVersion ≠ e.options.mqttVersion ∨
      saved.mqttVersion < 3 ∨ saved.mqttVersion > 5)
    (invalidSession "Saved broker/client identity or MQTT version does not match")
  rejectIf (saved.queued.length > e.options.maxOutgoingPacketCount)
    (invalidSession "Saved publications exceed the configured queue capacity")

def loadSession (B : Build) (e : MqttEngine T) (saved : ClientSessionState) :
    Except MqttClientError LoadedSession := do
  e.restoreCheck saved
  let (reserved, replayReserve) ← loadOutbound B saved.mqttVersion saved.outbound (∅, 0)
  let inherited := (saved.outbound.map (fun entry => Obs.inherited entry.1)).reverse ++ e.trace
  let loaded ← loadQueued B saved.mqttVersion saved.queued
    ⟨PriorityQueue.new e.options.maxOutgoingPacketCount, reserved, 0, replayReserve, inherited⟩
  let controlReserve ← connectReserve B e.options
  e.checkOutputCapacity (loaded.queuedBytes + max controlReserve loaded.replayReserve)
  let received ← loadReceived saved.hasSession saved.received ∅
  return { loaded with outbound := saved.outbound, controlReserve, received }

/-- The changes of `restore_session_state`. -/
def commitSession (e : MqttEngine T) (saved : ClientSessionState) (loaded : LoadedSession) :
    MqttEngine T :=
  { e with
    session := some ⟨saved.packetIdCounter⟩
    previousInflight := loaded.outbound
    priorityQueue := loaded.queue
    state := { e.state with
      reserved := loaded.reserved
      queuedBytes := loaded.queuedBytes
      controlReserve := loaded.controlReserve
      replayReserve := loaded.replayReserve
      hasSession := saved.hasSession
      sessionExpiry := saved.sessionExpiryInterval
      receivedUnbound := loaded.received.keys
      received := loaded.received
      inputClosed := true }
    trace := loaded.trace }

def restoreSessionState (B : Build) (saved : ClientSessionState) :
    Eff (MqttEngine T) MqttClientError Unit := do
  let loaded ← Eff.ask (fun e => e.loadSession B saved)
  Eff.update (fun e => e.commitSession saved loaded)

end MqttEngine

end FlowSdk
