/-
  FlowSdk.Client.Connection — losing a connection, and sending what waits.

  A reset of the transport, the reconnect timer, the automatic responses, the replay of a
  session and the publication queue. The loops of the source run on fuel that bounds their
  turns: each turn takes one element from the list the fuel counts, or ends the loop.
-/
import FlowSdk.Client.Output

namespace FlowSdk

open Machine Wire

variable {T : Type} [TimePoint T] {ε : Type}

namespace MqttEngine

/-! ## Closing and resetting -/

def closeInput (e : MqttEngine T) : MqttEngine T :=
  { e with
    isConnected := false
    state := { e.state with
      connecting := false
      inputClosed := true
      reauthenticating := false
      responses := []
      deadlines := ∅
      receivedOnConnection := []
      incomingQuotaUsed := 0 }
    parser := { e.parser with storage := [], readOffset := 0, readOffset_le := Nat.le_refl 0 }
    pingSentAt := none }

/-- The sum of the encoded sizes of the queue, if every packet has an encoding. -/
def queueBytes (B : Build) : List (UInt8 × Queued) → Except ParseError Nat
  | [] => .ok 0
  | (_, item) :: rest => do
    let bytes ← item.packet.toBytes B.strict
    let total ← queueBytes B rest
    return bytes.length + total

def failOperations (e : MqttEngine T) (error : MqttClientError) :
    List (UInt16 × MqttPacket) → MqttEngine T
  | [] => e
  | (id, packet) :: rest => failOperations (e.failOperation id packet error) error rest

/-- What `reset_for_new_transport_inner` does before it looks at the session. -/
def resetTransport (e : MqttEngine T) (queuedBytes : Nat) : MqttEngine T :=
  let e := e.closeInput.record .reset
  let received := retain (fun _ stage => stage ≠ .publish 1) e.state.received
  { e with
    outgoingBuffer := []
    configuredSubscriptionsPending := false
    streamRetransmissions := []
    inflightQueue := e.inflightQueue.updateReceiveMaximum e.options.receiveMaximum
    priorityQueue := e.priorityQueue.modify Queued.withoutAlias
    state := { e.state with
      incomingAliases := ∅
      outgoingAliases := ∅
      queuedBytes := queuedBytes
      outgoingAliasMaximum := 0
      maximumPacketSize := none
      maximumQos := 2
      retainAvailable := true
      wildcardAvailable := true
      sharedAvailable := true
      subscriptionIdsAvailable := true
      keepAlive := e.options.keepAlive
      received := received
      receivedUnbound := received.keys } }

/-- The sessionless part: every outstanding operation fails. -/
def dropSession (e : MqttEngine T) : MqttEngine T :=
  let e := { e with state.hasSession := false }
  let e := e.failOperations .sessionExpired e.inflightQueue.snapshotForReconnect
  let replay := e.sessionReplay
  let e := { e with sessionReplay := [] }
  let e := e.failOperations .sessionExpired replay
  { e.record .discarded with state := { e.state with received := ∅, receivedUnbound := [] } }

/-- What `reset_for_new_transport_inner` does last. -/
def renewTransport (e : MqttEngine T) : MqttEngine T :=
  { e with
    parser := MqttParser.new e.options.mqttVersion
    nextReconnectAt := none
    lastPacketSent := e.now
    lastPacketReceived := e.now
    pingSentAt := none }

def resetForNewTransportInner (B : Build) : Eff (MqttEngine T) ε Unit := do
  let e ← Eff.read
  match queueBytes B (e.priorityQueue.modify Queued.withoutAlias).items with
  | .error _ => panicAt .queuedPacket
  | .ok queuedBytes => Eff.update (fun e =>
      let e := e.resetTransport queuedBytes
      (if e.options.sessionless then e.dropSession else e).renewTransport)

/-! ## Reconnecting -/

/-- `base * 2^attempts`, at most `max`; the delays are whole milliseconds. -/
def reconnectDelay (e : MqttEngine T) : Nat :=
  fromMillis (min (e.reconnectBaseDelay / 1000000 * 2 ^ min e.reconnectAttempts 10)
    (e.reconnectMaxDelay / 1000000))

def scheduleReconnectInner (now : T) : Eff (MqttEngine T) ε Unit := do
  let e ← Eff.read
  if e.nextReconnectAt.isSome then pure ()
  else if e.maxReconnectAttempts > 0 ∧ e.reconnectAttempts ≥ e.maxReconnectAttempts then
    Eff.update (fun e => { e with nextReconnectAt := none })
  else do
    let deadline ← deadlineFrom now e.reconnectDelay
    Eff.update (fun e => { e with
      nextReconnectAt := some deadline
      reconnectAttempts := e.reconnectAttempts + 1 })
    Eff.update (fun e' => e'.pushEvent (.reconnectScheduled e'.reconnectAttempts e.reconnectDelay))

def connectionLostAt (B : Build) (now : T) : Eff (MqttEngine T) ε Unit := do
  let e ← Eff.read
  resetForNewTransportInner B
  Eff.update (fun e' => { e' with nextReconnectAt := e.nextReconnectAt })
  Eff.onlyWhen e.options.reconnect (scheduleReconnectInner now)

def handleConnectionLostInner (B : Build) : Eff (MqttEngine T) ε Unit := do
  let e ← Eff.read
  connectionLostAt B e.now

def failConnection (B : Build) (error : MqttClientError) : Eff (MqttEngine T) ε Unit := do
  handleConnectionLostInner B
  Eff.update (fun e => (e.pushEvent (.error error)).pushEvent (.disconnected none))

def resetReconnectState (e : MqttEngine T) : MqttEngine T :=
  { e with reconnectAttempts := 0, nextReconnectAt := none }

/-! ## Responses -/

/-- The limit that a response can never meet. -/
def oversized (B : Build) (e : MqttEngine T) (packet : MqttPacket) : Option Nat :=
  match e.options.maxOutgoingBufferBytes, packet.toBytes B.strict with
  | some capacity, .ok bytes => if bytes.length > capacity then some capacity else none
  | _, _ => none

def flushLoop (B : Build) : Nat → Eff (MqttEngine T) ε Unit
  | 0 => pure ()
  | fuel + 1 => do
    let e ← Eff.read
    match e.state.responses with
    | [] => pure ()
    | packet :: rest =>
      match e.oversized B packet with
      | some capacity => failConnection B (.bufferFull "protocol response" capacity)
      | none => do
        match ← Eff.attempt (enqueuePacketInner B .response packet) with
        | .ok () => do
          Eff.update (fun e => { e with state.responses := rest })
          flushLoop B fuel
        | .error error =>
          if error.isBufferFull then pure () else failConnection B error

def flushResponses (B : Build) : Eff (MqttEngine T) ε Unit := do
  let e ← Eff.read
  flushLoop B e.state.responses.length

/-! ## Deadlines of operations -/

def expireDeadline (B : Build) (now : T) :
    (OperationKind × Option UInt16) × Nat → Eff (MqttEngine T) ε Unit
  | ((operation, packetId), duration) => do
    Eff.update (fun e => { e with
      state.deadlines := e.state.deadlines.erase (operation, packetId) })
    Eff.update (fun e => e.pushEvent (.operationFailed operation packetId
      (.operationTimeout operation.toText (min (duration / 1000000) (2 ^ 64 - 1)))))
    Eff.onlyWhen (operation = .connect) (connectionLostAt B now)

def checkDeadlines (B : Build) (now : T) : Eff (MqttEngine T) ε Unit := do
  let e ← Eff.read
  let expired := (B.iter e.state.deadlines.entries).filterMap (fun entry =>
    if now < entry.2.1 then none else some (entry.1, entry.2.2))
  Eff.forEach (expireDeadline B now) expired

/-! ## The replay of a session -/

/-- The QoS a replayed packet is tracked with. -/
def replayQos (packet : MqttPacket) : UInt8 := if packet.isPublish then packet.qos else 2

/-- Track an exchange that was sent again. -/
def trackReplayed (id : UInt16) (packet : MqttPacket) : Eff (MqttEngine T) ε Unit := do
  let e ← Eff.read
  match e.inflightQueue.pushAt id packet (replayQos packet) e.now with
  | .error error => Eff.update (fun e => e.failOperation id packet error)
  | .ok inflight => do
    Eff.update (fun e => { e with inflightQueue := inflight })
    startDeadline .publish (some id)

def replayLoop (B : Build) : Nat → Eff (MqttEngine T) ε Unit
  | 0 => pure ()
  | fuel + 1 => do
    let e ← Eff.read
    match e.sessionReplay with
    | [] => pure ()
    | (id, packet) :: rest =>
      if packet.isPublish ∧ ¬ e.inflightQueue.canPushPublish then pure ()
      else do
        match ← Eff.attempt (enqueuePacketInner B .replay packet) with
        | .ok () => do
          Eff.update (fun e => { e with sessionReplay := rest })
          trackReplayed id packet
          replayLoop B fuel
        | .error error =>
          if error.isBufferFull then pure ()
          else do
            Eff.update (fun e => { e with sessionReplay := rest }.failOperation id packet error)
            replayLoop B fuel

def processReplay (B : Build) : Eff (MqttEngine T) ε Unit := do
  let e ← Eff.read
  if e.transportManagesSession then pure () else replayLoop B e.sessionReplay.length

/-! ## The publication queue -/

/-- The capability and size checks made once more when a publication leaves the queue. -/
def emissionCheck (e : MqttEngine T) (packet : MqttPacket) (bytes : Bytes) :
    Except MqttClientError Unit := do
  e.validatePacketCapabilities packet
  e.checkPacketSize bytes

/-- Take the publication in front off the queue, with its reservation of bytes. -/
def dequeued (e : MqttEngine T) (size : Nat) : MqttEngine T :=
  { e with
    priorityQueue := e.priorityQueue.rest
    state.queuedBytes := e.state.queuedBytes - size }

/-- Report a publication that cannot be sent. -/
def rejectQueued (e : MqttEngine T) (packet : MqttPacket) (error : MqttClientError) : MqttEngine T :=
  match packet.publishId with
  | some id => e.failOperation id packet error
  | none => e.pushEvent (.error error)

/-- Track a publication that leaves the queue; both assertions of the drain are here. -/
def trackQueued (e : MqttEngine T) (packet : MqttPacket) : Except PanicSite (InflightQueue T) :=
  if packet.qos > 0 then
    match packet.publishId with
    | none => .error .packetIdUnwrap
    | some pid =>
      (e.inflightQueue.pushAt pid packet packet.qos e.now).mapError (fun _ => .reservedPacketId)
  else .ok e.inflightQueue

/-- One publication with a known encoding. A panic leaves the state as it was found: the
source has already dequeued the packet, but nothing is done with that state. -/
def emitQueued (priority : UInt8) (item : Queued) (bytes : Bytes) : Eff (MqttEngine T) ε Unit := do
  let e ← Eff.read
  match e.emissionCheck item.packet bytes with
  | .error error => Eff.update (fun e => (e.dequeued bytes.length).rejectQueued item.packet error)
  | .ok () =>
    match e.trackQueued item.packet with
    | .error site => panicAt site
    | .ok inflight => do
      Eff.update (fun e => { e.dequeued bytes.length with inflightQueue := inflight }.appendOutgoing
        (.queue priority item.ticket) item.packet bytes)
      Eff.onlyWhen (item.packet.qos > 0) (startDeadline .publish item.packet.publishId)

/-- The publication in front, with the encoding of its admission if it is still at hand. -/
def sendQueued (B : Build) (first : Option Bytes) (priority : UInt8) (item : Queued) :
    Eff (MqttEngine T) ε Unit :=
  match first.elim (item.packet.toBytes B.strict) Except.ok with
  | .ok bytes => emitQueued priority item bytes
  | .error error =>
    Eff.update (fun e => { e with priorityQueue := e.priorityQueue.rest }.pushEvent
      (.error (.fromParseError error)))

/-- The first encoding is used once; later publications are encoded when they leave. -/
def drainLoop (B : Build) : Nat → Option Bytes → Eff (MqttEngine T) ε Unit
  | 0, _ => pure ()
  | fuel + 1, first => do
    let e ← Eff.read
    if e.outgoingBuffer.length < e.options.maxOutgoingPacketCount then
      match e.priorityQueue.peek with
      | none => pure ()
      | some (priority, item) =>
        if item.packet.qos > 0 ∧ ¬ e.inflightQueue.canPushPublish then pure ()
        else do
          sendQueued B first priority item
          drainLoop B fuel none
    else pure ()

def processQueueWithEncoding (B : Build) (first : Option Bytes) : Eff (MqttEngine T) ε Unit := do
  let e ← Eff.read
  if ¬ e.isConnected then pure ()
  else do
    flushResponses B
    let e ← Eff.read
    if ¬ e.isConnected then pure ()
    else do
      processReplay B
      let e ← Eff.read
      if ¬ e.isConnected ∨ e.state.responses ≠ [] ∨ e.sessionReplay ≠ [] then pure ()
      else do
        Eff.update (fun e => e.record .drain)
        drainLoop B e.priorityQueue.size first

def processQueue (B : Build) : Eff (MqttEngine T) ε Unit := processQueueWithEncoding B none

end MqttEngine

end FlowSdk
