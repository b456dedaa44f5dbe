/-
  FlowSdk.Client.Packets — handling a packet that came in.

  `handlePacket` is the dispatch over a decoded packet. CONNACK negotiates the limits of the
  connection and hands the exchanges of the session over to the replay; an acknowledgement
  ends an exchange or moves it on.
-/
import FlowSdk.Client.Receive

namespace FlowSdk

open Machine Wire

variable {T : Type} [TimePoint T] {ε : Type}

namespace MqttEngine

/-! ## Negotiation -/

/-- The effect of one CONNACK property. -/
def negotiateProperty (e : MqttEngine T) : Property → Except MqttClientError (MqttEngine T)
  | .receiveMaximum v =>
    if v = 0 then .error (invalid "CONNACK" "Limit must be nonzero")
    else .ok { e with
      inflightQueue := e.inflightQueue.updateReceiveMaximum (min v e.options.receiveMaximum) }
  | .maximumPacketSize v =>
    if v = 0 then .error (invalid "CONNACK" "Limit must be nonzero")
    else .ok { e with state.maximumPacketSize := some v.toNat }
  | .maximumQoS v =>
    if v > 1 then .error (invalid "CONNACK" "Maximum QoS must be 0 or 1")
    else .ok { e with state.maximumQos := v }
  | .retainAvailable v =>
    if v > 1 then .error (invalid "CONNACK" "Boolean property must be 0 or 1")
    else .ok { e with state.retainAvailable := v ≠ 0 }
  | .wildcardSubscriptionAvailable v =>
    if v > 1 then .error (invalid "CONNACK" "Boolean property must be 0 or 1")
    else .ok { e with state.wildcardAvailable := v ≠ 0 }
  | .sharedSubscriptionAvailable v =>
    if v > 1 then .error (invalid "CONNACK" "Boolean property must be 0 or 1")
    else .ok { e with state.sharedAvailable := v ≠ 0 }
  | .subscriptionIdentifierAvailable v =>
    if v > 1 then .error (invalid "CONNACK" "Boolean property must be 0 or 1")
    else .ok { e with state.subscriptionIdsAvailable := v ≠ 0 }
  | .serverKeepAlive v => .ok { e with state.keepAlive := v }
  | .topicAliasMaximum v => .ok { e with state.outgoingAliasMaximum := v }
  | .assignedClientIdentifier v =>
    if v = "" then .error (invalid "CONNACK" "Assigned client ID is empty")
    else .ok { e with options.clientId := v }
  | .sessionExpiryInterval v => .ok { e with state.sessionExpiry := v }
  | .authenticationMethod _ | .authenticationData _ | .responseInformation _
  | .serverReference _ | .reasonString _ | .userProperty _ _ => .ok e
  | _ => .error (invalid "CONNACK" "Property is not valid in CONNACK")

/-- The loop of `negotiate` behind the properties already seen. -/
def negotiateLoop : List PropertyID → Properties → Eff (MqttEngine T) MqttClientError Unit
  | _, [] => pure ()
  | seen, property :: rest =>
    if property.id ≠ .userProperty ∧ property.id ∈ seen then
      Eff.fail (invalid "CONNACK" "Duplicate singleton property")
    else do
      let e ← Eff.ask (fun e => e.negotiateProperty property)
      Eff.update (fun _ => e)
      negotiateLoop (property.id :: seen) rest

/-- The bytes that the next CONNECT needs. -/
def connectReserve (B : Build) (options : MqttClientOptions) : Except MqttClientError Nat := do
  let packet ← connectPacket options
  let bytes ← encoded B packet
  return max bytes.length 6

def reserveCheck (B : Build) (e : MqttEngine T) : Except MqttClientError Nat := do
  let reserve ← connectReserve B e.options
  rejectIf (e.options.maxOutgoingBufferBytes.any (fun limit => reserve > limit))
    (invalid "max_outgoing_buffer_bytes"
      "The reconnect CONNECT packet exceeds the outgoing byte limit")
  return reserve

def negotiate (B : Build) (properties : Properties) : Eff (MqttEngine T) MqttClientError Unit := do
  negotiateLoop [] properties
  let reserve ← Eff.ask (fun e => e.reserveCheck B)
  Eff.update (fun e => { e with state.controlReserve := reserve })

/-! ## Restoring the session -/

/-- One exchange of the previous connection: it is replayed, or it fails. -/
def restoreEntry (replaying : Bool) (e : MqttEngine T) : UInt16 × MqttPacket → MqttEngine T
  | (id, packet) =>
    if replaying ∧ (packet.isPublish ∨ packet.isPubRel) then
      let packet := (packet.setDup true).withoutAlias
      let e := (e.record (.carried id packet)).acknowledged id
      { e with sessionReplay := e.sessionReplay ++ [(id, packet)] }
    else e.failOperation id packet .sessionExpired

/-- `sort_by_key`: the PUBRELs first, each kind in its order. -/
def replayOrder (previous : List (UInt16 × MqttPacket)) : List (UInt16 × MqttPacket) :=
  previous.filter (·.2.isPubRel) ++ previous.filter (fun entry => ¬ entry.2.isPubRel)

def restoreEntries (replaying : Bool) (e : MqttEngine T) :
    List (UInt16 × MqttPacket) → MqttEngine T
  | [] => e
  | entry :: rest => restoreEntries replaying (e.restoreEntry replaying entry) rest

def resumes (e : MqttEngine T) (sessionPresent : Bool) : Bool :=
  sessionPresent && !e.options.sessionless

def replays (e : MqttEngine T) (sessionPresent : Bool) : Bool :=
  e.resumes sessionPresent ||
    (e.mqttVersion ≠ 5 && !e.options.cleanStart && !e.options.sessionless)

def discardReceived (e : MqttEngine T) : MqttEngine T :=
  { e.record .discarded with state := { e.state with received := ∅, receivedUnbound := [] } }

/-- The subscriptions of the options, made on a session that was not resumed. -/
def configuredSubscriptions (B : Build) : Eff (MqttEngine T) ε (List MqttEvent) := do
  let e ← Eff.read
  if e.transportManagesSession then do
    Eff.update (fun e => { e with
      configuredSubscriptionsPending := e.options.subscriptionTopics ≠ [] })
    return []
  else if e.options.subscriptionTopics = [] then return []
  else do
    match ← Eff.attempt (subscribeInner B ⟨none, e.options.subscriptionTopics, []⟩) with
    | .ok _ => return []
    | .error error => noted [.error error]

/-- The part of `restore_session` for a session that was not resumed. -/
def startSession (B : Build) (resumed : Bool) : Eff (MqttEngine T) ε (List MqttEvent) :=
  if resumed then return []
  else do
    Eff.update discardReceived
    configuredSubscriptions B

def restoreSession (B : Build) (sessionPresent : Bool) : Eff (MqttEngine T) ε (List MqttEvent) := do
  let e ← Eff.read
  let replaying := e.replays sessionPresent
  let previous := if replaying then replayOrder e.previousInflight else e.previousInflight
  Eff.update (fun e => restoreEntries replaying { e with previousInflight := [] } previous)
  let events ← startSession B (e.resumes sessionPresent)
  processReplay B
  return events

/-! ## CONNACK and AUTH -/

/-- The checks of a CONNACK before it changes anything. -/
def connackCheck (B : Build) (e : MqttEngine T) (v5 : Bool) (reasonCode : UInt8)
    (sessionPresent : Bool) (properties : Properties) : Except MqttClientError Unit := do
  rejectIf (sessionPresent ∧ ¬ e.state.hasSession)
    (.protocolViolation "CONNACK reports Session Present without local session state")
  let expected := authenticationMethod e.options.connectProperties
  let received := authenticationMethod properties
  rejectIf (v5 ∧ B.strict ∧
      ((reasonCode = 0 ∧ received ≠ expected) ∨ (expected.isNone ∧ received.isSome)))
    (.protocolViolation "CONNACK authentication method does not match CONNECT")

/-- The handshake is over, whatever its outcome. -/
def endHandshake (e : MqttEngine T) : MqttEngine T :=
  { e with
    state := { e.state with
      connecting := false
      deadlines := e.state.deadlines.erase (.connect, none) } }

def establish (e : MqttEngine T) (reasonCode : UInt8) : MqttEngine T :=
  let e := { e with isConnected := reasonCode = 0 }
  if reasonCode = 0 then { e with state.hasSession := true }.resetReconnectState else e

def receiveMaximumOf (properties : Properties) : Option UInt16 :=
  properties.findSome? (fun
    | .receiveMaximum v => some v
    | _ => none)

/-- The receive maximum of CONNACK is applied once more after the negotiation. -/
def limitInflight (e : MqttEngine T) (properties : Properties) : MqttEngine T :=
  match receiveMaximumOf properties with
  | none => e
  | some max => { e with
    inflightQueue := e.inflightQueue.updateReceiveMaximum (min max e.options.receiveMaximum) }

/-- What follows a CONNACK whose negotiation succeeded. -/
def finishConnack (B : Build) (reasonCode : UInt8) (sessionPresent : Bool)
    (properties : Option Properties) : Eff (MqttEngine T) ε (List MqttEvent × List Response) := do
  Eff.update (fun e => e.establish reasonCode)
  let events ← noted [.connected ⟨reasonCode, sessionPresent, properties⟩]
  Eff.update (fun e => e.limitInflight (properties.getD []))
  if reasonCode = 0 then do
    let more ← restoreSession B sessionPresent
    return (events ++ more, [])
  else do
    handleConnectionLostInner B
    return (events, [])

/-- CONNACK of either version; the properties of MQTT 5 are negotiated. -/
def handleConnack (B : Build) (v5 : Bool) (reasonCode : UInt8) (sessionPresent : Bool)
    (properties : Option Properties) : Eff (MqttEngine T) ε (List MqttEvent × List Response) := do
  let e ← Eff.read
  match e.connackCheck B v5 reasonCode sessionPresent (properties.getD []) with
  | .error error => connectionFailed B error
  | .ok () => do
    Eff.update endHandshake
    match ← Eff.attempt (Eff.onlyWhen (v5 = true) (negotiate B (properties.getD []))) with
    | .error error => connectionFailed B error
    | .ok () => finishConnack B reasonCode sessionPresent properties

/-- The state in which an AUTH of the server is expected. -/
def authExpected (e : MqttEngine T) (reasonCode : UInt8) : Bool :=
  if reasonCode = 0 then e.isConnected && e.state.reauthenticating
  else if reasonCode = 0x18 then e.state.connecting || e.state.reauthenticating
  else false

def authMethods (properties : Properties) : List String :=
  properties.filterMap (fun
    | .authenticationMethod method => some method
    | _ => none)

def authReceived (B : Build) (reasonCode : UInt8) (properties : Properties) :
    Eff (MqttEngine T) ε (Option MqttEvent) := do
  let e ← Eff.read
  let expected := authenticationMethod e.options.connectProperties
  if expected.isNone ∨ ¬ e.authExpected reasonCode ∨
      authMethods properties ≠ expected.toList then do
    failConnection B (.protocolViolation ("Server AUTH must use the CONNECT authentication method" ++
      " during an active authentication exchange"))
    return none
  else do
    Eff.update (fun e => if reasonCode = 0 then { e with state.reauthenticating := false } else e)
    return some (.authReceived ⟨reasonCode, properties⟩)

/-! ## Acknowledgements -/

/-- An acknowledgement that ends a publication. -/
def completePublish (ack : MqttPacket) (id : UInt16) (reasonCode : UInt8)
    (properties : Option Properties) : Eff (MqttEngine T) ε (List MqttEvent × List Response) := do
  let e ← Eff.read
  match e.inflightQueue.acknowledge id with
  | (none, _) => return ([], [])
  | (some entry, _) => do
    Eff.update (fun e => ((e.acknowledged id).record (.completed ack)).finishOperation id)
    let events ← noted [.published ⟨some id, some reasonCode, properties, entry.qos⟩]
    return (events, [])

/-- SUBACK and UNSUBACK. -/
def completeRequest (id : UInt16) (event : MqttEvent) :
    Eff (MqttEngine T) ε (List MqttEvent × List Response) := do
  Eff.update (fun e => (e.acknowledged id).finishOperation id)
  let events ← noted [event]
  return (events, [])

/-- PUBREC: the exchange goes on with `rel`. -/
def releasePublish (id : UInt16) (rel : Response) :
    Eff (MqttEngine T) ε (List MqttEvent × List Response) := do
  let e ← Eff.read
  match e.inflightQueue.transitionPubrelAt id rel.val e.now with
  | .error _ => panicAt .engineTime
  | .ok inflight => do
    Eff.update (fun e => { e.record (.pubrec id) with inflightQueue := inflight })
    return ([], [rel])

/-- The match of `handle_packet`. -/
def dispatch (B : Build) (packet : MqttPacket) (stream : Option Nat) :
    Eff (MqttEngine T) ε (List MqttEvent × List Response) :=
  match packet with
  | .connAck5 ack => handleConnack B true ack.reasonCode ack.sessionPresent ack.properties
  | .connAck3 ack => handleConnack B false ack.returnCode ack.sessionPresent none
  | .pubAck5 ack => completePublish packet ack.packetId ack.reasonCode (some ack.properties)
  | .pubAck3 ack => completePublish packet ack.messageId 0 none
  | .publish5 p => receiveMessage B p stream
  | .publish3 p => receiveMessage B
      ⟨p.topicName, p.qos, p.dup, p.retain, p.messageId, p.payload, []⟩ stream
  | .subAck5 ack =>
    completeRequest ack.packetId (.subscribed ⟨ack.packetId, ack.reasonCodes, ack.properties⟩)
  | .subAck3 ack =>
    completeRequest ack.messageId (.subscribed ⟨ack.messageId, ack.returnCodes, []⟩)
  | .unsubAck5 ack =>
    completeRequest ack.packetId (.unsubscribed ⟨ack.packetId, ack.reasonCodes, ack.properties⟩)
  | .unsubAck3 ack => completeRequest ack.messageId (.unsubscribed ⟨ack.messageId, [], []⟩)
  | .pingResp5 | .pingResp3 => do
    Eff.update (fun e => { e with pingSentAt := none })
    let events ← noted [.pingResponse]
    return (events, [])
  | .pubRec5 rec =>
    if rec.reasonCode ≥ 0x80 then
      completePublish packet rec.packetId rec.reasonCode (some rec.properties)
    else releasePublish rec.packetId ⟨.pubRel5 ⟨rec.packetId, 0, []⟩, rfl⟩
  | .pubRec3 rec => releasePublish rec.messageId ⟨.pubRel3 ⟨rec.messageId⟩, rfl⟩
  | .pubRel5 rel => receivePubrel B rel.packetId stream
  | .pubRel3 rel => receivePubrel B rel.messageId stream
  | .pubComp5 comp => completePublish packet comp.packetId comp.reasonCode (some comp.properties)
  | .pubComp3 comp => completePublish packet comp.messageId 0 none
  | .auth auth => do
    let event ← authReceived B auth.reasonCode auth.properties
    let events ← noted event.toList
    return (events, [])
  | .disconnect5 d => do
    handleConnectionLostInner B
    let events ← noted [.disconnectReceived d.reasonCode d.properties]
    return (events, [])
  | _ => return ([], [])

/-- An acknowledgement that does not fit: MQTT 5 tolerates an unknown identifier. -/
def ackFailed (B : Build) (error : MqttClientError) :
    Eff (MqttEngine T) ε (List MqttEvent × List Response) := do
  let e ← Eff.read
  if e.mqttVersion ≠ 5 ∨ error.isProtocolViolation then connectionFailed B error
  else do
    let events ← noted [.error error]
    return (events, [])

def handlePacket (B : Build) (packet : MqttPacket) (stream : Option Nat) :
    Eff (MqttEngine T) ε (List MqttEvent × List Response) := do
  if ← acceptIncoming B packet.packetType then do
    let e ← Eff.read
    match e.validateAck packet stream with
    | .error error => ackFailed B error
    | .ok () => dispatch B packet stream
  else do
    let events ← takeEvents
    return (events, [])

end MqttEngine

end FlowSdk
