/-
  FlowSdk.Client.Step — the indivisible changes of the ledger.

  `Step strict P` relates a ledger to what it can become. The constructors are grouped as the
  engine's code is: sending, the queue, the replay, acknowledgements, the connection, incoming
  exchanges and saved sessions. A constructor states what the code has checked when it makes
  the change, and nothing that has to be known about the rest of the engine.

  `Possible` says the same of the assertions: what the code knows when one of them fails.
-/
import FlowSdk.Client.Ledger

namespace FlowSdk

open Machine Wire

variable {T : Type} [TimePoint T]

/-- What callers are allowed to do. -/
structure Permit where
  /-- publications of the application -/
  publishes : Prop
  /-- commands and packets of transports with several streams -/
  streams : Prop
  /-- PUBLISH packets passed to `enqueue_packet` -/
  raw : Prop
  /-- QoS 0 publications that carry an identifier -/
  tagged : Prop
  /-- CONNECT while a queued publication has the identifier of an exchange left over -/
  stale : Prop
  /-- CONNECT while the send quota does not count every exchange in flight -/
  uncounted : Prop
  /-- snapshots restored into another engine -/
  migrate : Prop
  /-- publications that grow when their topic alias is dropped -/
  huge : Prop
  /-- packets passed to `enqueue_packet` -/
  foreign : Prop
  /-- AUTH packets -/
  auths : Prop
  /-- the CONNACK of another version handed over as a packet -/
  legacy : Prop
  /-- packets of the application while there is no connection -/
  idle : Prop
  /-- a second CONNECT before the transport is reset -/
  reopen : Prop
  /-- the output buffer is handed to the transport -/
  takes : Prop
  /-- CONNECT -/
  opens : Prop
  /-- saved sessions, the clock and the parse level -/
  starts : Prop
  /-- a parse level below Full while an incoming exchange is open -/
  levels : Prop
  /-- the reconnect timer is stopped -/
  cancels : Prop
  /-- the attempts to reconnect are counted afresh -/
  restarts : Prop
  /-- the streams whose packets are handled -/
  on : Option Nat → Prop
  /-- the bytes that every publication leaves free for control packets -/
  need : Nat

namespace MqttPacket

/-- The identifier of a PUBREL. -/
def relId : MqttPacket → Option UInt16
  | .pubRel5 p => some p.packetId
  | .pubRel3 p => some p.messageId
  | _ => none

/-- The CONNACK of MQTT 3. -/
def isConnAck3 : MqttPacket → Bool
  | .connAck3 _ => true
  | _ => false

/-- An automatic answer: an acknowledgement without properties. -/
def isReply : MqttPacket → Bool
  | .pubAck5 p | .pubRec5 p | .pubRel5 p | .pubComp5 p => p.properties = []
  | .pubAck3 _ | .pubRec3 _ | .pubRel3 _ | .pubComp3 _ => true
  | _ => false

/-- The packets that open, authenticate and close a connection. -/
def isBoundary (packet : MqttPacket) : Bool :=
  packet.packetType = .connect || packet.packetType = .disconnect || packet.packetType = .auth

/-- The packet of an exchange carries the identifier of the exchange. -/
def Names (packet : MqttPacket) (id : UInt16) : Prop :=
  (packet.isPublish → packet.tracked = some id) ∧ (packet.isPubRel → packet.relId = some id)

end MqttPacket

namespace Ledger

/-- What is appended to the output apart from queued publications and the replay. -/
def Sends (P : Permit) (l : Ledger T) (packet : MqttPacket) : Origin → Prop
  | .command => packet.isPublish = false ∧
      (packet.isBoundary = false ∨ packet.packetType = .auth ∧ P.auths) ∧
      (P.idle ∨ l.connected = true ∨ l.connecting = true ∨ l.reauthenticating = true)
  | .response => l.responses.head? = some packet
  | .raw => P.foreign ∧ (packet.isPublish → P.raw) ∧ (packet.packetType = .auth → P.auths)
  | .retransmission => l.connected = true ∧ l.version ≠ 5 ∧
      ∃ id sent, (id, sent) ∈ l.inflight ∧ packet = sent.setDup true
  | .replay | .queue _ _ => False

omit [TimePoint T] in
theorem Sends.not_connect {P : Permit} {l : Ledger T} {packet : MqttPacket}
    (h : l.Sends P packet .command) : packet.packetType ≠ .connect := by
  rcases h.2.1 with hinner | ⟨hauth, -⟩
  · exact of_decide_eq_false (Bool.or_eq_false_iff.mp (Bool.or_eq_false_iff.mp hinner).1).1
  · exact fun hconnect => nomatch hauth.symm.trans hconnect

/-- Until CONNACK ends the enhanced authentication, AUTH and DISCONNECT are all that is sent. -/
def Gate (strict : Bool) (l : Ledger T) (packet : MqttPacket) : Prop :=
  strict = true → l.limits.mqttVersion = 5 → l.limits.method.isSome → l.connecting = true →
    packet.packetType = .auth ∨ packet.packetType = .disconnect

/-- A CONNECT was appended since the last reset. -/
def opened : List Obs → Bool
  | [] => false
  | .reset :: _ => false
  | .appended .command packet :: past => packet.packetType = .connect || opened past
  | _ :: past => opened past

/-- A packet of a stream is handled; one of the control transport was read as a whole. -/
def Handles (P : Permit) (l : Ledger T) (stream : Option Nat) : Prop :=
  P.on stream ∧ (stream = none → l.link.level = .full)

/-- What is known of a publication when it is queued. -/
structure Publishes (strict : Bool) (P : Permit) (packet : MqttPacket) (id : Option UInt16) :
    Prop where
  isPublish : packet.isPublish
  tracked : packet.tracked = id
  identified : packet.qos > 0 → id.isSome
  untagged : P.tagged ∨ (packet.qos > 0 ∨ packet.publishId = none)
  encodable : packet.Encodable strict
  plain : packet.withoutAlias.Encodable strict
  shrinks : P.huge ∨ packet.withoutAlias.size strict ≤ packet.size strict
  resent : id.isSome → P.huge ∨ max 4 (packet.replayed.size strict) ≤ packet.size strict

/-- The queue has room for a publication of `n` bytes. -/
def QueueRoom (l : Ledger T) (n : Nat) : Prop :=
  l.queue.length < l.limits.maxPackets ∧
    ∀ limit ∈ l.limits.maxOutgoing, l.queuedBytes + l.unsent + n ≤ limit

/-- The space that a publication has to leave free. -/
def spare (l : Ledger T) : Nat := max l.controlReserve l.replayReserve

omit [TimePoint T] in
theorem QueueRoom.without_spare {l : Ledger T} {n spare : Nat} (h : l.QueueRoom (n + spare)) :
    l.QueueRoom n := by
  refine ⟨h.1, fun limit hlimit => ?_⟩
  have := h.2 limit hlimit
  omega

/-- The engine is in the loop that empties the queue. -/
structure Drains (l : Ledger T) : Prop where
  connected : l.connected = true
  replayed : l.replay = []
  settled : l.restoring = []
  draining : draining l.trace = true

/-- The exchanges of the last connection in the order CONNACK settles them. -/
def settleOrder (replaying : Bool) (previous : List Exchange) : List (Exchange × Bool) :=
  (if replaying then MqttEngine.replayOrder previous else previous).map
    (fun entry => (entry, replaying && entry.2.onQuota))

end Ledger

open Ledger

/-! ## Assertions -/

/-- What is known of the ledger when an assertion fails. -/
def Possible (strict : Bool) (l : Ledger T) : PanicSite → Prop
  | .reservedPacketId => ∃ priority item rest id, l.queue = (priority, item) :: rest ∧
      l.connected = true ∧ item.packet.tracked = some id ∧
      (item.packet.isPublish → l.quotaUsed < l.receiveMaximum.toNat) ∧ ¬ l.Admits id item.packet
  | .packetIdUnwrap => ∃ priority item rest, l.queue = (priority, item) :: rest ∧
      item.packet.qos > 0 ∧ item.packet.publishId = none
  | .queuedPacket => ∃ item ∈ l.queue, ¬ item.2.packet.withoutAlias.Encodable strict
  | .engineTime => ¬ InflightQueue.ClockOk l.lastUpdate l.version l.timeout l.now
  | .deadlineHorizon => ∃ longest ∈ l.retry.longest :: l.limits.horizon, ∃ duration ≤ longest,
      TimePoint.checkedAdd l.now duration = none
  | .parser _ => True
  | .pubrelState | .reducedPacket | .manualAck | .packetIdAssigned => False

/-! ## Steps -/

inductive Step (strict : Bool) (P : Permit) : Ledger T → Ledger T → Prop
  -- Records, time and buffers
  | halt {l} (site : PanicSite) (possible : Possible strict l site) :
      Step strict P l { l with stopped := some site }
  | note {l} (o : Obs) (quiet : o.quiet) : Step strict P l (l.record o)
  | clock {l} (now : T) (starts : P.starts) (monotone : ¬ now < l.now)
      (range : ∀ d ∈ l.limits.horizon, (TimePoint.checkedAdd now d).isSome) :
      Step strict P l { l with now := now }
  | append {l} (origin : Origin) (packet : MqttPacket) (bytes : Bytes)
      (encodes : packet.toBytes strict = .ok bytes) (room : l.Room bytes.length)
      (sends : l.Sends P packet origin) (gate : l.Gate strict packet) :
      Step strict P l (l.append origin packet bytes)
  | flushed {l} (takes : P.takes) :
      Step strict P l { l.record (.taken l.outgoing.flatten) with outgoing := [] }
  | input {l} (n : Nat) (bounded : n ≤ l.buffered ∨ ∀ limit ∈ l.limits.maxIncoming, n ≤ limit) :
      Step strict P l { l with buffered := n }
  | sent {l} : Step strict P l { l with sentAt := l.now }
  | ping {l} : Step strict P l { l with pingedAt := some l.now }
  | pong {l} : Step strict P l { l with pingedAt := none }
  | retimed {l} (clock : InflightQueue.ClockOk l.lastUpdate l.version l.timeout l.now) :
      Step strict P l { l with lastUpdate := some l.now }
  -- Topic aliases and the parser
  | register {l} (topicAlias : UInt16) (topic : Topic) (publishes : P.publishes)
      (allowed : topicAlias ≤ l.link.settings.outgoingAliasMaximum) (nonzero : topicAlias ≠ 0) :
      Step strict P l { l with link := { l.link with
        outgoingAliases := l.link.outgoingAliases.insert topicAlias topic } }
  | resolve {l} (stream : Option Nat) (topicAlias : UInt16) (topic : String)
      (connected : l.connected = true) (on : P.on stream) :
      Step strict P l { l with link := { l.link with
        incomingAliases := l.link.incomingAliases.insert topicAlias topic } }
  | level {l} (level : ParseLevel)
      (careful : level = .full ∨ P.starts ∧
        (P.levels ∨ l.connected = true ∧ ∀ key, l.received.lookup key = none)) :
      Step strict P l { l with link := { l.link with level := level } }
  | renew {l} : Step strict P l { l with parses := l.limits.mqttVersion }
  -- The queue
  | accept {l} (id : Option UInt16) (priority : UInt8) (packet : MqttPacket)
      (publishes : Publishes strict P packet id) (free : ∀ i ∈ id, l.Free i)
      (room : l.QueueRoom (packet.size strict + l.spare)) (covered : P.need ≤ l.controlReserve)
      (below : l.queue.length < l.capacity) :
      Step strict P l ((id.elim l (l.reserve · (packet.size strict))).enqueue priority packet
        (packet.size strict))
  | evict {l l'} (room : l.queue.length < l.limits.maxPackets)
      (full : l.capacity ≤ l.queue.length) : Step strict P l l'
  | drain {l} (connected : l.connected = true) (replayed : l.replay = []) :
      Step strict P l (l.record .drain)
  | send {l} (priority : UInt8) (item : Queued) (rest : List (UInt8 × Queued)) (bytes : Bytes)
      (front : l.queue = (priority, item) :: rest) (drains : l.Drains)
      (encodes : item.packet.toBytes strict = .ok bytes)
      (count : l.outgoing.length < l.limits.maxPackets)
      (identified : item.packet.qos > 0 → item.packet.publishId.isSome)
      (admits : ∀ id ∈ item.packet.tracked, l.Admits id item.packet) :
      Step strict P l ((item.packet.tracked.elim (l.dequeue rest (item.packet.size strict))
        (fun id => (l.dequeue rest (item.packet.size strict)).track id item.packet)).append
          (.queue priority item.ticket) item.packet bytes)
  | reject {l} (priority : UInt8) (item : Queued) (rest : List (UInt8 × Queued)) (id : UInt16)
      (error : MqttClientError) (front : l.queue = (priority, item) :: rest) (drains : l.Drains)
      (named : item.packet.publishId = some id) (permanent : error.isOperationTimeout = false) :
      Step strict P l ((l.dequeue rest (item.packet.size strict)).finish id
        (.operationFailed item.packet.operation (some id) error))
  | drop {l} (priority : UInt8) (item : Queued) (rest : List (UInt8 × Queued))
      (error : MqttClientError) (front : l.queue = (priority, item) :: rest)
      (unnamed : item.packet.publishId = none) :
      Step strict P l ((l.dequeue rest (item.packet.size strict)).record (.event (.error error)))
  | broken {l l'} (priority : UInt8) (item : Queued) (rest : List (UInt8 × Queued))
      (front : l.queue = (priority, item) :: rest)
      (unencodable : ¬ item.packet.Encodable strict) : Step strict P l l'
  -- The replay
  | resend {l} (id : UInt16) (packet : MqttPacket) (rest : List Exchange) (bytes : Bytes)
      (front : l.replay = (id, packet) :: rest) (connected : l.connected = true)
      (settled : l.restoring = []) (encodes : packet.toBytes strict = .ok bytes)
      (room : l.Room bytes.length) (admits : l.Admits id packet) :
      Step strict P l (({ l with replay := rest }.append .replay packet bytes).track id packet)
  | untracked {l} (id : UInt16) (packet : MqttPacket) (rest : List Exchange) (bytes : Bytes)
      (error : MqttClientError) (front : l.replay = (id, packet) :: rest)
      (connected : l.connected = true) (settled : l.restoring = [])
      (encodes : packet.toBytes strict = .ok bytes) (room : l.Room bytes.length)
      (quota : packet.isPublish → l.quotaUsed < l.receiveMaximum.toNat)
      (refused : ¬ l.Admits id packet) (permanent : error.isOperationTimeout = false) :
      Step strict P l (({ l with replay := rest }.append .replay packet bytes).finish id
        (.operationFailed packet.operation (some id) error))
  | abort {l} (id : UInt16) (packet : MqttPacket) (rest : List Exchange) (error : MqttClientError)
      (front : l.replay = (id, packet) :: rest) (connected : l.connected = true)
      (settled : l.restoring = []) (permanent : error.isOperationTimeout = false) :
      Step strict P l ({ l with replay := rest }.finish id
        (.operationFailed packet.operation (some id) error))
  -- Operations and acknowledgements
  | operate {l} (stream : Option Nat) (id : UInt16) (packet : MqttPacket) (free : l.Free id)
      (request : packet.onQuota = false) (inner : packet.isBoundary = false)
      (idle : l.loading = false) :
      Step strict P l ((l.trackOn stream id packet).accept id)
  | trackStream {l} (stream : Option Nat) (id : UInt16) (packet : MqttPacket) (n : Nat)
      (streams : P.streams) (free : l.Free id) (isPublish : packet.isPublish)
      (tracked : packet.tracked = some id) (idle : l.loading = false)
      (room : l.quotaUsed < l.receiveMaximum.toNat) :
      Step strict P l (((l.trackOn stream id packet).reserve id n).record (.streamed packet))
  | complete {l} (stream : Option Nat) (ack : MqttPacket) (id : UInt16) (packet : MqttPacket)
      (ev : MqttEvent) (sent : (id, packet) ∈ l.inflight) (tag : l.tags id = some stream)
      (on : P.on stream) (onQuota : packet.onQuota)
      (connected : l.connected = true) (settled : l.restoring = []) (settles : ev.settles = some id)
      (silent : ev.delivers = none ∧ ev.opens = false ∧ ev.releases = none) :
      Step strict P l ((l.record (.completed ack)).finish id ev)
  | answer {l} (stream : Option Nat) (id : UInt16) (packet : MqttPacket) (ev : MqttEvent)
      (sent : (id, packet) ∈ l.inflight) (tag : l.tags id = some stream) (on : P.on stream)
      (request : packet.onQuota = false)
      (connected : l.connected = true) (settled : l.restoring = []) (settles : ev.settles = some id)
      (silent : ev.delivers = none ∧ ev.opens = false ∧ ev.releases = none) :
      Step strict P l (l.finish id ev)
  | pubrec {l} (stream : Option Nat) (id : UInt16) (packet rel : MqttPacket)
      (sent : (id, packet) ∈ l.inflight) (tag : l.tags id = some stream) (on : P.on stream)
      (onQuota : packet.onQuota) (isPubRel : rel.isPubRel) (names : rel.relId = some id)
      (connected : l.connected = true) (settled : l.restoring = []) :
      Step strict P l ((l.advance id rel).record (.pubrec id))
  -- The connection
  | openSession {l} (window : UInt16) (opens : P.opens)
      (closed : l.connected = false ∧ l.connecting = false) :
      Step strict P l { l with fresh := false, link := { l.link with window := window } }
  | connect {l} (packet : MqttPacket) (bytes : Bytes) (opens : P.opens) (idle : l.loading = false)
      (closed : l.connected = false ∧ l.connecting = false)
      (unstale : P.stale ∨ ∀ id ∈ ids l.previous, id ∉ queuedIds l.queue)
      (isConnect : packet.packetType = .connect) (encodes : packet.toBytes strict = .ok bytes)
      (room : l.Room bytes.length) (wide : 6 ≤ bytes.length)
      (first : P.reopen ∨ opened l.trace = false)
      (counted : P.uncounted ∨ (l.inflight.filter (·.2.onQuota)).length ≤ l.quotaUsed) :
      Step strict P l { l.append .command packet bytes with
        previous := l.outstanding
        replay := []
        connecting := true
        reauthenticating := false
        fresh := false
        controlReserve := max bytes.length 6
        link := { l.link with inputClosed := false }
        retry := l.retry.cancel }
  | refuse {l} (limit : UInt16) (reserve : Nat) (settings : Settings) (news : List Obs)
      (connecting : l.connecting = true) (settled : l.restoring = [])
      (bounded : l.receiveMaximum ≤ l.limits.receiveMaximum → limit ≤ l.limits.receiveMaximum)
      (wide : reserve = l.controlReserve ∨ 6 ≤ reserve) (quiet : ∀ o ∈ news, o.quiet) :
      Step strict P l ((l.refused limit reserve settings news).reset strict)
  | stall {l} (limit : UInt16) (reserve : Nat) (settings : Settings) (news : List Obs)
      (possible : Possible strict l .queuedPacket) :
      Step strict P l { l.refused limit reserve settings news with stopped := some .queuedPacket }
  | connack {l} (result : ConnectionResult) (limit : UInt16) (reserve : Nat) (replaying : Bool)
      (connecting : l.connecting = true) (closed : l.connected = false)
      (accepted : result.reasonCode = 0) (sessions : replaying → l.limits.sessionless = false)
      (unlimited : MqttEngine.receiveMaximumOf (result.properties.getD []) = none →
        limit = l.receiveMaximum)
      (limited : ∀ v ∈ MqttEngine.receiveMaximumOf (result.properties.getD []),
        l.limits.receiveMaximum > 0 → limit = min v l.limits.receiveMaximum)
      (wide : reserve = l.controlReserve ∨ 6 ≤ reserve)
      (authentic : strict = true → P.legacy ∨ l.parses ≠ 5 ∨
        authenticationMethod (result.properties.getD []) = l.limits.method) :
      Step strict P l ({ l with
        connected := true
        connecting := false
        receiveMaximum := limit
        controlReserve := reserve
        link := { l.link with settings := l.link.settings.override (result.properties.getD []) }
        retry := l.retry.restart
        restoring := settleOrder replaying l.previous
        previous := [] }.record (.event (.connected result)))
  | carry {l} (id : UInt16) (packet : MqttPacket) (rest : List (Exchange × Bool))
      (front : l.restoring = ((id, packet), true) :: rest)
      (sessions : l.limits.sessionless = false) :
      Step strict P l ({ l.remove id with
        restoring := rest
        replay := l.replay ++ [(id, packet.replayed)] }.record (.carried id packet.replayed))
  | expire {l} (id : UInt16) (packet : MqttPacket) (rest : List (Exchange × Bool))
      (front : l.restoring = ((id, packet), false) :: rest) :
      Step strict P l ({ l with restoring := rest }.finish id
        (.operationFailed packet.operation (some id) .sessionExpired))
  | reset {l} (settled : l.restoring = []) : Step strict P l (l.reset strict)
  | abandonInflight {l} (id : UInt16) (packet : MqttPacket) (sent : (id, packet) ∈ l.inflight)
      (sessionless : l.limits.sessionless = true) (settled : l.restoring = [])
      (closed : l.connected = false ∧ l.connecting = false) :
      Step strict P l (l.finish id (.operationFailed packet.operation (some id) .sessionExpired))
  | abandonReplay {l} (sessionless : l.limits.sessionless = true) (settled : l.restoring = [])
      (closed : l.connected = false ∧ l.connecting = false) :
      Step strict P l { l with restoring := l.replay.map (fun e => (e, false)), replay := [] }
  | close {l} (settled : l.restoring = []) : Step strict P l (l.close.record .closed)
  | disconnect {l} (packet : MqttPacket) (bytes : Bytes) (settled : l.restoring = [])
      (connected : l.connected = true) (isDisconnect : packet.packetType = .disconnect)
      (encodes : packet.toBytes strict = .ok bytes) (room : l.Room bytes.length) :
      Step strict P l ((l.append .command packet bytes).close.record .closed)
  | reauthenticate {l} (active : Bool) (live : active = true → l.connected = true) :
      Step strict P l { l with reauthenticating := active }
  -- The reconnect timer
  | schedule {l} (deadline : T) (idle : l.retry.due = none)
      (more : l.retry.limit = 0 ∨ l.retry.attempts < l.retry.limit) :
      Step strict P l ({ l with retry := l.retry.schedule deadline }.record
        (.event (.reconnectScheduled (l.retry.attempts + 1) l.retry.delay)))
  | remind {l} (deadline : T) (due : l.retry.due = some deadline) (reached : ¬ l.now < deadline) :
      Step strict P l ({ l with retry := l.retry.cancel }.record (.event .reconnectNeeded))
  | cancel {l} (cancels : P.cancels) : Step strict P l { l with retry := l.retry.cancel }
  | restart {l} (restarts : P.restarts) : Step strict P l { l with retry := l.retry.restart }
  -- Incoming exchanges
  | respond {l} (packets : List MqttPacket) (live : l.connected = true ∨ l.connecting = true)
      (replies : ∀ packet ∈ packets, packet.isReply = true) :
      Step strict P l { l with responses := l.responses ++ packets }
  | answered {l} (packet : MqttPacket) (rest : List MqttPacket)
      (front : l.responses = packet :: rest) : Step strict P l { l with responses := rest }
  | charge {l} (key : ReceiveKey) (connected : l.connected = true) (handles : l.Handles P key.1)
      (uncounted : key ∉ l.link.charged) (room : l.link.used < l.link.window.toNat) :
      Step strict P l (l.charge key)
  | deliver {l} (key : ReceiveKey) (message : V5.MqttPublish) (connected : l.connected = true)
      (unknown : l.received.lookup key = none) (names : message.packetId = some key.2)
      (qos : message.qos > 0) (handles : l.Handles P key.1) :
      Step strict P l ({ l.record (.entered key (.publish message.qos)) with
        received := l.received.insert key (.publish message.qos) }.record
        (.event (.publishReceived message.packetId key.1)) |>.record
        (.event (.messageReceived message)))
  | unbind {l} (key : ReceiveKey) (stale : l.received.lookup key = none) :
      Step strict P l { l with link := l.link.unbind key }
  | resume {l} (key : ReceiveKey) (stage : ReceiveStage)
      (stored : l.received.lookup key = some stage) (handles : l.Handles P key.1) :
      Step strict P l { l.record (.entered key stage) with link := l.link.unbind key }
  | bind {l} (previous key : ReceiveKey) (stage : ReceiveStage) (same : previous.2 = key.2)
      (unknown : l.received.lookup key = none) (stored : l.received.lookup previous = some stage)
      (handles : l.Handles P key.1) (free : previous ∈ l.link.unbound) :
      Step strict P l { l.record (.entered key stage) with
        received := (l.received.erase previous).insert key stage
        link := l.link.unbind previous }
  | settle {l} (key : ReceiveKey) (stage : ReceiveStage) (stored : l.received.lookup key = some stage)
      (ready : stage = .publish 1 ∨ stage = .pubRel) (on : P.on key.1) :
      Step strict P l (l.settle key)
  | confirm {l} (key : ReceiveKey) (stage : ReceiveStage)
      (stored : l.received.lookup key = some stage) (on : P.on key.1) :
      Step strict P l { l.record (.entered key .pubRec) with
        received := l.received.insert key .pubRec
        link := l.link.unbind key }
  | refusePublish {l} (id : UInt16) (reason : UInt8) (negative : reason ≥ 0x80) (on : P.on none) :
      Step strict P l ((l.settle (none, id)).record (.pubrecSent id reason))
  | pubrel {l} (key : ReceiveKey) (manual : l.limits.autoAck = false) (handles : l.Handles P key.1) :
      Step strict P l (({ l with received := l.received.insert key .pubRel }.record
        (.pubrel key.2)).record (.event (.pubRelReceived key.2 key.1)))
  | release {l} (key : ReceiveKey) (automatic : l.limits.autoAck = true)
      (handles : l.Handles P key.1) :
      Step strict P l (((l.record (.pubrel key.2)).record
        (.event (.pubRelReceived key.2 key.1))).settle key)
  | overlook {l} (id : UInt16) (reduced : l.link.level ≠ .full) :
      Step strict P l (l.record (.event (.pubRelReceived id none)))
  | discard {l} : Step strict P l ({ l with
      received := ∅
      link := { l.link with unbound := [] } }.record .discarded)
  -- Saved sessions
  | load {l} (outbound : List Exchange) (received : AList (fun _ : ReceiveKey => ReceiveStage))
      (control replay : Nat) (wide : 6 ≤ control)
      (fits : ∀ entry ∈ outbound, entry.2.onQuota → max 4 (entry.2.replayed.size strict) ≤ replay)
      (room : ∀ limit ∈ l.limits.maxOutgoing, max control replay ≤ limit)
      (fresh : l.fresh = true) (closed : l.connected = false ∧ l.connecting = false)
      (reserved : l.reserved = ∅) (empty : l.queue = []) (unsent : l.outgoing = [])
      (sessions : l.limits.sessionless = false) (idle : l.loading = false) (starts : P.starts)
      (stages : ∀ key, received.lookup key ≠ some (.publish 1)) :
      Step strict P l { l with
        fresh := false
        previous := []
        capacity := l.limits.maxPackets
        queuedBytes := 0
        controlReserve := control
        replayReserve := replay
        received := received
        link := { l.link with inputClosed := true, unbound := received.keys }
        loading := true
        promised := outbound }
  | migrate {l} (limits : Limits) (timeout : Nat) (retry : Retry T) (now : T)
      (received : AList (fun _ : ReceiveKey => ReceiveStage)) (control replay : Nat)
      (migrates : P.migrate) (wide : 6 ≤ control)
      (fits : ∀ entry ∈ l.outstanding, entry.2.onQuota →
        max 4 (entry.2.replayed.size strict) ≤ replay)
      (room : ∀ limit ∈ limits.maxOutgoing, max control replay ≤ limit)
      (saved : l.limits.sessionless = false) (sessions : limits.sessionless = false)
      (idle : l.loading = false) (settled : l.restoring = [])
      (kept : ∀ key stage, l.received.lookup key = some stage →
        stage = .publish 2 ∨ stage = .pubRec ∨ stage = .pubRel →
          received.lookup key = some stage) (stages : ∀ key, received.lookup key ≠ some (.publish 1))
      (range : ∀ d ∈ limits.horizon, (TimePoint.checkedAdd now d).isSome)
      (timed : timeout ∈ limits.horizon) :
      Step strict P l { blank limits timeout retry now l.trace with
        fresh := false
        controlReserve := control
        replayReserve := replay
        received := received
        link := { Link.initial limits.keepAlive with inputClosed := true, unbound := received.keys }
        loading := true
        promised := l.outstanding.map (fun e => (e.1, e.2.withoutAlias)) }
  | inherit {l} (id : UInt16) (packet : MqttPacket) (rest : List Exchange)
      (loading : l.loading = true) (front : l.promised = (id, packet) :: rest)
      (nonzero : id ≠ 0) (free : id ∉ l.reserved) (names : packet.Names id)
      (inner : packet.isBoundary = false) :
      Step strict P l
        { l.inherit id with previous := l.previous ++ [(id, packet)], promised := rest }
  | requeue {l} (id : Option UInt16) (priority : UInt8) (packet : MqttPacket)
      (loading : l.loading = true) (done : l.promised = [])
      (publishes : Publishes strict P packet id) (free : ∀ i ∈ id, i ≠ 0 ∧ i ∉ l.reserved)
      (room : l.QueueRoom (packet.size strict + l.spare)) (covered : P.need ≤ l.controlReserve)
      (fits : id.isSome → packet.size strict ≤ l.replayReserve)
      (below : l.queue.length < l.capacity) :
      Step strict P l ((id.elim l l.inherit).enqueue priority packet (packet.size strict))
  | loaded {l} (loading : l.loading = true) (done : l.promised = []) :
      Step strict P l { l with loading := false }

end FlowSdk
