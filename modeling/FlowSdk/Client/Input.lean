/-
  FlowSdk.Client.Input — the input loop, the timer and the output of the engine.

  At the reduced parse levels the engine counts packets: it answers a PUBLISH from its
  headers and keeps no exchange. The input loop runs on fuel, a byte of input for each turn:
  a turn takes at least one byte from the parser or ends the loop. The output loop runs on
  fuel as well: a turn that leaves output behind has used up a response, a packet of the
  replay or of the queue, or two bytes of input.
-/
import FlowSdk.Client.Packets

namespace FlowSdk

open Machine Wire

variable {T : Type} [TimePoint T] {ε : Type}

def ParsedPacket.packetType : ParsedPacket → ControlPacketType
  | .full packet => packet.packetType
  | .headersParsed packet => packet.packetType
  | .rawBody packet => packet.packetType
  | .typeOnly packet => packet.packetType

namespace MqttEngine

/-! ## Reduced packets -/

/-- PUBACK or PUBREC for a PUBLISH of which only the headers were read. -/
def reducedAck (e : MqttEngine T) (v5 : Bool) (qos : UInt8) (id : Option UInt16) :
    Option Response :=
  if ¬ e.options.autoAck then none
  else id.bind (fun id =>
    if qos = 1 then ackResponse (if v5 then 5 else 4) 4 id 0 []
    else if qos = 2 then ackResponse (if v5 then 5 else 4) 5 id 0 []
    else none)

def reducedRelease (e : MqttEngine T) (v5 : Bool) (id : UInt16) : Option Response :=
  if e.options.autoAck then ackResponse (if v5 then 5 else 4) 7 id 0 [] else none

def pingAnswered : Eff (MqttEngine T) ε (Option MqttEvent × Option Response) := do
  Eff.update (fun e => { e with pingSentAt := none })
  return (some .pingResponse, none)

def serverDisconnected (B : Build) (event : MqttEvent) :
    Eff (MqttEngine T) ε (Option MqttEvent × Option Response) := do
  handleConnectionLostInner B
  return (some event, none)

def reducedType (B : Build) (packet : TypeOnlyPacket) (stream : Option Nat) :
    Eff (MqttEngine T) ε (Option MqttEvent × Option Response) :=
  match packet.packetType with
  | .publish =>
    let qos := (packet.flags >>> 1) &&& 0x03
    if qos = 0 then return (some (.publishReceived none stream), none)
    else return (some (.error (.protocolViolation
      ("type-only parser cannot acknowledge incoming QoS " ++ toString qos ++ " PUBLISH"))), none)
  | .pingresp => pingAnswered
  | .disconnect => serverDisconnected B (.disconnected none)
  | _ => return (none, none)

def reducedHeaders (B : Build) (packet : HeadersParsedPacket) (stream : Option Nat) :
    Eff (MqttEngine T) ε (Option MqttEvent × Option Response) := do
  let e ← Eff.read
  match packet.variableHeader with
  | .publishV5 _ qos _ _ packetId _ =>
    return (some (.publishReceived packetId stream), e.reducedAck true qos packetId)
  | .publishV3 _ qos _ _ messageId =>
    return (some (.publishReceived messageId stream), e.reducedAck false qos messageId)
  | .pubRelV5 packetId _ _ =>
    return (some (.pubRelReceived packetId stream), e.reducedRelease true packetId)
  | .packetIdOnlyV3 messageId =>
    if packet.packetType = .pubrel then
      return (some (.pubRelReceived messageId stream), e.reducedRelease false messageId)
    else return (none, none)
  | .empty =>
    if packet.packetType = .pingresp then pingAnswered
    else if packet.packetType = .disconnect then serverDisconnected B (.disconnected none)
    else return (none, none)
  | .authV5 reasonCode properties => do
    let event ← authReceived B reasonCode properties
    return (event, none)
  | .disconnectV5 reasonCode properties =>
    serverDisconnected B (.disconnectReceived reasonCode properties)
  | _ => return (none, none)

def reducedBody (B : Build) (packet : ParsedPacket) (stream : Option Nat) :
    Eff (MqttEngine T) ε (Option MqttEvent × Option Response) :=
  match packet with
  | .typeOnly packet => reducedType B packet stream
  | .headersParsed packet => reducedHeaders B packet stream
  | .rawBody _ => return (some (.error (.invalidState
      "Full, HeadersParsed, or TypeOnly parser level" "RawBody parser level")), none)
  | .full _ => panicAt .reducedPacket

def handleReducedPacket (B : Build) (packet : ParsedPacket) (stream : Option Nat) :
    Eff (MqttEngine T) ε (Option MqttEvent × Option Response) := do
  if ← acceptIncoming B packet.packetType then reducedBody B packet stream
  else return (none, none)

/-! ## The input loop -/

/-- The limit on the size of an incoming packet: the configured and the advertised one. -/
def incomingLimit (options : MqttClientOptions) : Option Nat :=
  let advertised := (options.maximumPacketSize.map UInt32.toNat) <|>
    options.connectProperties.findSome? (fun
      | .maximumPacketSize v => some v.toNat
      | _ => none)
  match options.maxIncomingPacketSize, advertised with
  | some a, some b => some (min a b)
  | some a, none => some a
  | none, limit => limit

/-- The length that the fixed header announces, against the limit. -/
def checkAnnounced (B : Build) (capacity : Nat) (bytes : Bytes) :
    Eff (MqttEngine T) MqttClientError Unit :=
  if bytes.length < 2 then pure ()
  else match parseVbi B.strict (bytes.drop 1) with
    | .error (.panic p) => panicAt (.parser p)
    | .error (.err _) => pure ()
    | .ok (length, n) =>
      Eff.lift (rejectIf (length + n + 1 > capacity) (.bufferFull "incoming packet" capacity))

def validateInputBuffer (B : Build) (options : MqttClientOptions) (bytes : Bytes) :
    Eff (MqttEngine T) MqttClientError Unit := do
  Eff.lift (rejectOver options.maxIncomingBufferBytes bytes.length "incoming bytes")
  match incomingLimit options with
  | none => pure ()
  | some capacity => checkAnnounced B capacity bytes

/-- The response of a packet joins those that wait. -/
def respond (B : Build) (responses : List Response) : Eff (MqttEngine T) ε Unit := do
  Eff.update (fun e => { e with state.responses := e.state.responses ++ responses })
  flushResponses B

/-- One packet of the control transport. -/
def handleParsed (B : Build) (packet : ParsedPacket) : Eff (MqttEngine T) ε Unit := do
  Eff.update (fun e => { e with lastPacketReceived := e.now })
  match packet with
  | .full packet => do
    let (events, responses) ← handlePacket B packet none
    Eff.update (fun e => { e with events := e.events ++ events })
    respond B responses
  | packet => do
    let (event, response) ← handleReducedPacket B packet none
    Eff.forEach (fun event => Eff.update (fun e => e.pushEvent event)) event.toList
    Eff.onlyWhen (response.isSome = true) (respond B response.toList)

/-- One result of the parser. The answer is whether the loop goes on. -/
def parseNext (B : Build) : Eff (MqttEngine T) ε Bool := do
  let e ← Eff.read
  let (result, parser) := e.parser.nextParsed B.strict
  Eff.update (fun e => { e with parser := parser })
  match result with
  | .ok (some packet) => do
    handleParsed B packet
    return true
  | .ok none => return false
  | .error (.err error) => do
    failConnection B (.fromParseError error)
    return false
  | .error (.panic p) => panicAt (.parser p)

def incomingLoop (B : Build) : Nat → Eff (MqttEngine T) ε Unit
  | 0 => pure ()
  | fuel + 1 => do
    let e ← Eff.read
    if e.state.responses ≠ [] ∨ e.state.inputClosed then pure ()
    else do
      match ← Eff.attempt (validateInputBuffer B e.options e.parser.buffer) with
      | .error error => failConnection B error
      | .ok () =>
        if e.events.length ≥ e.options.maxEventCount then pure ()
        else do
          if ← parseNext B then incomingLoop B fuel else pure ()

/-- The incoming bytes do not fit in the buffer. -/
def overflows (e : MqttEngine T) (data : Bytes) : Except MqttClientError Unit :=
  rejectOver e.options.maxIncomingBufferBytes (e.parser.buffer.length + data.length)
    "incoming bytes"

def processIncoming (B : Build) (data : Bytes) : Eff (MqttEngine T) ε Unit := do
  Eff.update (fun e => { e with parser := e.parser.feed data })
  flushResponses B
  let e ← Eff.read
  incomingLoop B e.parser.buffer.length
  processQueue B

def acceptData (B : Build) (data : Bytes) : Eff (MqttEngine T) ε Unit := do
  let e ← Eff.read
  match e.overflows data with
  | .error error => failConnection B error
  | .ok () => processIncoming B data

def handleIncomingInner (B : Build) (data : Bytes) : Eff (MqttEngine T) ε (List MqttEvent) := do
  let e ← Eff.read
  if e.state.inputClosed then takeEvents
  else do
    acceptData B data
    takeEvents

/-! ## The timer -/

def pingreqPacket (mqttVersion : UInt8) : MqttPacket :=
  if mqttVersion = 5 then .pingReq5 else .pingReq3

def sendPingInnerAt (B : Build) (now : T) : Eff (MqttEngine T) MqttClientError Unit := do
  let e ← Eff.read
  enqueuePacketInner B .command (pingreqPacket e.mqttVersion)
  Eff.update (fun e => { e with lastPacketSent := now, pingSentAt := some now })

/-- Append a packet once more; a full buffer drops it silently. -/
def resend (B : Build) (packet : MqttPacket) : Eff (MqttEngine T) ε Unit := do
  match ← Eff.attempt (enqueuePacketInner B .retransmission packet) with
  | .ok () => pure ()
  | .error error =>
    Eff.update (fun e => if error.isBufferFull then e else e.pushEvent (.error error))

/-- Send one exchange again; a packet of another stream is left to its transport. -/
def retransmit (B : Build) (now : T) : MqttPacket × Option Nat → Eff (MqttEngine T) ε Unit
  | (packet, stream) =>
    let packet := packet.setDup true
    match packet.toBytes B.strict, stream with
    | .error _, _ => pure ()
    | .ok bytes, some stream =>
      Eff.update (fun e => { e with
        streamRetransmissions := e.streamRetransmissions ++ [(stream, bytes)]
        lastPacketSent := now })
    | .ok _, none => do
      resend B packet
      Eff.update (fun e => { e with lastPacketSent := now })

def handleRetransmissions (B : Build) (now : T) : Eff (MqttEngine T) ε Unit := do
  let e ← Eff.read
  match e.inflightQueue.getExpiredWithStreamAt now with
  | .error _ => panicAt .engineTime
  | .ok (expired, inflight) => do
    Eff.update (fun e => { e with inflightQueue := inflight })
    Eff.forEach (retransmit B now) expired

/-- The reconnect timer of an engine that is not connected. -/
def reconnectTimer (e : MqttEngine T) (now : T) : MqttEngine T :=
  if e.nextReconnectAt.any (fun at_ => ¬ now < at_) then
    { e.pushEvent .reconnectNeeded with nextReconnectAt := none }
  else e

def pingTimedOut (e : MqttEngine T) (now : T) : Prop :=
  e.state.keepAlive > 0 ∧ e.pingSentAt.any (fun sentAt =>
    TimePoint.saturatingDurationSince now sentAt ≥
      fromSecs e.state.keepAlive.toNat * e.options.pingTimeoutMultiplier)

instance (e : MqttEngine T) (now : T) : Decidable (e.pingTimedOut now) :=
  inferInstanceAs (Decidable (_ ∧ _))

def pingDue (e : MqttEngine T) (now : T) : Prop :=
  e.pingSentAt.isNone ∧ e.options.autoKeepalive ∧ e.state.keepAlive > 0 ∧
    TimePoint.saturatingDurationSince now e.lastPacketSent ≥ fromSecs e.state.keepAlive.toNat

instance (e : MqttEngine T) (now : T) : Decidable (e.pingDue now) :=
  inferInstanceAs (Decidable (_ ∧ _ ∧ _ ∧ _))

/-- The keep-alive, the queue and the retransmissions of a connected engine. -/
def connectedTick (B : Build) (now : T) : Eff (MqttEngine T) ε Unit := do
  let e ← Eff.read
  let _ ← Eff.attempt (Eff.onlyWhen (e.pingDue now) (sendPingInnerAt B now))
  processQueue B
  handleRetransmissions B now

def handleTickInner (B : Build) (now : T) : Eff (MqttEngine T) ε (List MqttEvent) := do
  checkDeadlines B now
  flushResponses B
  let e ← Eff.read
  if ¬ e.isConnected then do
    Eff.update (fun e => e.reconnectTimer now)
    takeEvents
  else if e.pingTimedOut now then do
    connectionLostAt B now
    Eff.update (fun e => e.pushEvent (.disconnected none))
    takeEvents
  else do
    connectedTick B now
    takeEvents

/-! ## The output -/

/-- The input that waits for the events to be taken. -/
def resumeIncoming (B : Build) : Eff (MqttEngine T) ε Unit := do
  let e ← Eff.read
  if e.state.inputClosed then pure ()
  else do
    let events ← handleIncomingInner B []
    Eff.update (fun e => { e with events := e.events ++ events })

def outputLoop (B : Build) : Nat → Bytes → Eff (MqttEngine T) ε Bytes
  | 0, bytes => return bytes
  | fuel + 1, bytes => do
    let e ← Eff.read
    let bytes := bytes ++ e.outgoingBuffer.flatten
    Eff.update (fun e => { e.record (.taken e.outgoingBuffer.flatten) with outgoingBuffer := [] })
    flushResponses B
    resumeIncoming B
    processQueue B
    let e ← Eff.read
    if e.outgoingBuffer = [] then return bytes else outputLoop B fuel bytes

/-- A bound on the turns of the output loop. -/
def outputFuel (e : MqttEngine T) : Nat :=
  e.state.responses.length + e.parser.buffer.length + e.previousInflight.length +
    e.sessionReplay.length + e.priorityQueue.size + 1

def takeOutgoingInner (B : Build) : Eff (MqttEngine T) ε Bytes := do
  let e ← Eff.read
  outputLoop B e.outputFuel []

end MqttEngine

end FlowSdk
