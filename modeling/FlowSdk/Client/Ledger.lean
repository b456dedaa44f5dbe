/-
  FlowSdk.Client.Ledger — what the engine owes and owns, and how it changes.

  `Ledger` is an abstract view of the engine: identifiers, publications and exchanges in the
  places they wait in, the bytes that are accounted for, what belongs to the connection, the
  reconnect timer, and the record of what was done. The other timers and the events that wait
  to be taken are left out. `Step` says
  what one indivisible change of the engine can do to the ledger. An invariant of the engine is
  proved once for each step; that the engine makes only such steps is proved elsewhere.

  Some of what a call may do is a matter of what the caller is allowed to: a `Permit` lists
  the liberties that a group of results excludes or admits.
-/
import FlowSdk.Client.Run

namespace FlowSdk

open Machine Wire

variable {T : Type} [TimePoint T]

/-! ## Events and records -/

namespace MqttEvent

/-- The identifier of the operation that an event ends. -/
def settles : MqttEvent → Option UInt16
  | .published result => result.packetId
  | .subscribed result | .unsubscribed result => some result.packetId
  | .operationFailed _ id cause => if cause.isOperationTimeout then none else id
  | _ => none

/-- The identifier of the QoS 2 message that an event delivers. -/
def delivers : MqttEvent → Option UInt16
  | .messageReceived message => if message.qos = 2 then message.packetId else none
  | _ => none

/-- The event starts a connection. -/
def opens : MqttEvent → Bool
  | .connected result => result.reasonCode = 0
  | _ => false

/-- The incoming exchange whose PUBREL an event reports. -/
def releases : MqttEvent → Option ReceiveKey
  | .pubRelReceived id stream => some (stream, id)
  | _ => none

/-- The event is about the reconnect timer. -/
def paces : MqttEvent → Bool
  | .reconnectScheduled _ _ | .reconnectNeeded => true
  | _ => false

/-- The event says nothing about operations, deliveries and connections. -/
def plain (ev : MqttEvent) : Prop :=
  ev.settles = none ∧ ev.delivers = none ∧ ev.opens = false ∧ ev.releases = none ∧
    ev.paces = false

end MqttEvent

/-- A record that no account of the engine depends on. -/
def Obs.quiet : Obs → Prop
  | .event ev => ev.plain
  | .pubrecSent _ reason => reason < 0x80
  | _ => False

/-- The queue is being drained: nothing was queued since the drain began. -/
def draining : List Obs → Bool
  | [] => false
  | .drain :: _ => true
  | .queued _ _ _ _ :: _ => false
  | _ :: past => draining past

namespace MqttPacket

/-- The identifier under which a publication is tracked. -/
def tracked (packet : MqttPacket) : Option UInt16 :=
  if packet.qos > 0 then packet.publishId else none

/-- A packet that counts against the send quota while it is in flight. -/
def onQuota (packet : MqttPacket) : Bool := packet.isPublish || packet.isPubRel

def Encodable (strict : Bool) (packet : MqttPacket) : Prop :=
  ∃ bytes, packet.toBytes strict = .ok bytes

/-- The size of the encoding, and 0 if there is none. -/
def size (strict : Bool) (packet : MqttPacket) : Nat :=
  match packet.toBytes strict with
  | .ok bytes => bytes.length
  | .error _ => 0

theorem size_eq {strict : Bool} {packet : MqttPacket} {bytes : Bytes}
    (h : packet.toBytes strict = .ok bytes) : packet.size strict = bytes.length := by
  rw [size, h]

/-- The packet as it is sent once more on a new connection. -/
def replayed (packet : MqttPacket) : MqttPacket := (packet.setDup true).withoutAlias

end MqttPacket

/-! ## The connection -/

/-- What CONNACK decides for one connection. -/
structure Settings where
  maximumPacketSize : Option Nat
  maximumQos : UInt8
  retainAvailable : Bool
  wildcardAvailable : Bool
  sharedAvailable : Bool
  subscriptionIdsAvailable : Bool
  keepAlive : UInt16
  outgoingAliasMaximum : UInt16
deriving DecidableEq, Repr

/-- The settings of a connection that CONNACK has said nothing about. -/
def Settings.unset (keepAlive : UInt16) : Settings where
  maximumPacketSize := none
  maximumQos := 2
  retainAvailable := true
  wildcardAvailable := true
  sharedAvailable := true
  subscriptionIdsAvailable := true
  keepAlive := keepAlive
  outgoingAliasMaximum := 0

def ProtocolState.settings (state : ProtocolState T) : Settings where
  maximumPacketSize := state.maximumPacketSize
  maximumQos := state.maximumQos
  retainAvailable := state.retainAvailable
  wildcardAvailable := state.wildcardAvailable
  sharedAvailable := state.sharedAvailable
  subscriptionIdsAvailable := state.subscriptionIdsAvailable
  keepAlive := state.keepAlive
  outgoingAliasMaximum := state.outgoingAliasMaximum

namespace Settings

/-- The settings with what one property of a CONNACK says. -/
def apply (settings : Settings) : Property → Settings
  | .maximumPacketSize v => { settings with maximumPacketSize := some v.toNat }
  | .maximumQoS v => { settings with maximumQos := v }
  | .retainAvailable v => { settings with retainAvailable := v ≠ 0 }
  | .wildcardSubscriptionAvailable v => { settings with wildcardAvailable := v ≠ 0 }
  | .sharedSubscriptionAvailable v => { settings with sharedAvailable := v ≠ 0 }
  | .subscriptionIdentifierAvailable v => { settings with subscriptionIdsAvailable := v ≠ 0 }
  | .serverKeepAlive v => { settings with keepAlive := v }
  | .topicAliasMaximum v => { settings with outgoingAliasMaximum := v }
  | _ => settings

def override (settings : Settings) (properties : Properties) : Settings :=
  properties.foldl apply settings

end Settings

/-- What belongs to one connection. -/
structure Link where
  inputClosed : Bool
  settings : Settings
  incomingAliases : AList (fun _ : UInt16 => String)
  outgoingAliases : AList (fun _ : UInt16 => Topic)
  /-- the receive maximum that CONNECT announced, and how much of it is used -/
  window : UInt16
  used : Nat
  /-- the exchanges that were counted on this connection -/
  charged : List ReceiveKey
  /-- the exchanges of earlier connections that no packet has taken up yet -/
  unbound : List ReceiveKey
  level : ParseLevel

namespace Link

def initial (keepAlive : UInt16) : Link where
  inputClosed := false
  settings := .unset keepAlive
  incomingAliases := ∅
  outgoingAliases := ∅
  window := 65535
  used := 0
  charged := []
  unbound := []
  level := .full

def close (link : Link) : Link := { link with inputClosed := true, used := 0, charged := [] }

def reset (link : Link) (keepAlive : UInt16) (unbound : List ReceiveKey) : Link :=
  { link.close with
    settings := .unset keepAlive
    incomingAliases := ∅
    outgoingAliases := ∅
    unbound := unbound }

/-- A packet takes up an exchange of an earlier connection. -/
def unbind (link : Link) (key : ReceiveKey) : Link :=
  { link with unbound := link.unbound.filter (· ≠ key) }

def charge (link : Link) (key : ReceiveKey) : Link :=
  { link with charged := key :: link.charged, used := link.used + 1 }

def credit (link : Link) (key : ReceiveKey) : Link :=
  { link.unbind key with charged := link.charged.filter (· ≠ key), used := link.used - 1 }

end Link

/-! ## Reconnecting -/

/-- The reconnect timer, the attempts since the last connection and the settings. -/
structure Retry (T : Type) where
  due : Option T
  attempts : Nat
  base : Nat
  longest : Nat
  limit : Nat

namespace Retry

/-- The delay of the next attempt. -/
def delay (retry : Retry T) : Nat :=
  fromMillis (min (retry.base / 1000000 * 2 ^ min retry.attempts 10) (retry.longest / 1000000))

def schedule (retry : Retry T) (deadline : T) : Retry T :=
  { retry with due := some deadline, attempts := retry.attempts + 1 }

def cancel (retry : Retry T) : Retry T := { retry with due := none }

def restart (retry : Retry T) : Retry T := { retry with due := none, attempts := 0 }

end Retry

/-! ## The ledger -/

/-- The options that the ledger depends on. -/
structure Limits where
  mqttVersion : UInt8
  /-- the authentication method of CONNECT -/
  method : Option String
  sessionless : Bool
  autoAck : Bool
  keepAlive : UInt16
  receiveMaximum : UInt16
  maxPackets : Nat
  maxOutgoing : Option Nat
  maxIncoming : Option Nat
  horizon : List Nat

/-- An exchange with its identifier. -/
abbrev Exchange := UInt16 × MqttPacket

structure Ledger (T : Type) where
  limits : Limits
  now : T
  /-- the time of the last packet, and of the PINGREQ that waits for its answer -/
  sentAt : T
  pingedAt : Option T
  lastUpdate : Option T
  version : UInt8
  /-- the version that the parser reads -/
  parses : UInt8
  timeout : Nat
  fresh : Bool
  connected : Bool
  connecting : Bool
  reauthenticating : Bool
  reserved : Finset UInt16
  queue : List (UInt8 × Queued)
  capacity : Nat
  queuedBytes : Nat
  /-- the bytes that a publication has to leave free for control packets -/
  controlReserve : Nat
  /-- the bytes that a publication has to leave free for the replay -/
  replayReserve : Nat
  /-- the packets in the output buffer -/
  outgoing : List Bytes
  /-- the answers that wait for room in the output buffer -/
  responses : List MqttPacket
  /-- the unread bytes of the parser -/
  buffered : Nat
  inflight : List Exchange
  /-- the stream that an exchange in flight was sent on -/
  tags : UInt16 → Option (Option Nat)
  quotaUsed : Nat
  receiveMaximum : UInt16
  replay : List Exchange
  previous : List Exchange
  /-- the exchanges that CONNACK has still to settle, and whether they are carried over -/
  restoring : List (Exchange × Bool)
  /-- a saved session is being read -/
  loading : Bool
  /-- the exchanges of the saved session that have still to be read -/
  promised : List Exchange
  received : AList (fun _ : ReceiveKey => ReceiveStage)
  link : Link
  retry : Retry T
  trace : List Obs
  /-- the assertion that stopped the engine -/
  stopped : Option PanicSite

def MqttClientOptions.limits (options : MqttClientOptions) : Limits where
  mqttVersion := options.mqttVersion
  method := authenticationMethod options.connectProperties
  sessionless := options.sessionless
  autoAck := options.autoAck
  keepAlive := options.keepAlive
  receiveMaximum := options.receiveMaximum
  maxPackets := options.maxOutgoingPacketCount
  maxOutgoing := options.maxOutgoingBufferBytes
  maxIncoming := options.maxIncomingBufferBytes
  horizon := MqttEngine.horizon options

/-- The timer of a new engine. -/
def MqttClientOptions.retry (options : MqttClientOptions) : Retry T where
  due := none
  attempts := 0
  base := fromMillis options.reconnectBaseDelayMs
  longest := fromMillis options.reconnectMaxDelayMs
  limit := options.maxReconnectAttempts

namespace MqttEngine

def link (e : MqttEngine T) : Link where
  inputClosed := e.state.inputClosed
  settings := e.state.settings
  incomingAliases := e.state.incomingAliases
  outgoingAliases := e.state.outgoingAliases
  window := e.state.incomingReceiveMaximum
  used := e.state.incomingQuotaUsed
  charged := e.state.receivedOnConnection
  unbound := e.state.receivedUnbound
  level := e.parser.parseLevel

def retry (e : MqttEngine T) : Retry T where
  due := e.nextReconnectAt
  attempts := e.reconnectAttempts
  base := e.reconnectBaseDelay
  longest := e.reconnectMaxDelay
  limit := e.maxReconnectAttempts

/-- The ledger of an engine in which CONNACK has still some exchanges to settle. -/
def ledgerWith (restoring : List (Exchange × Bool)) (e : MqttEngine T) : Ledger T where
  limits := e.options.limits
  now := e.now
  sentAt := e.lastPacketSent
  pingedAt := e.pingSentAt
  lastUpdate := e.inflightQueue.lastUpdate
  version := e.inflightQueue.mqttVersion
  parses := e.parser.mqttVersion
  timeout := e.inflightQueue.retransmissionTimeout
  fresh := e.session.isNone
  connected := e.isConnected
  connecting := e.state.connecting
  reauthenticating := e.state.reauthenticating
  reserved := e.state.reserved
  queue := e.priorityQueue.items
  capacity := e.priorityQueue.capacity
  queuedBytes := e.state.queuedBytes
  controlReserve := e.state.controlReserve
  replayReserve := e.state.replayReserve
  outgoing := e.outgoingBuffer
  responses := e.state.responses.map Subtype.val
  buffered := e.parser.buffer.length
  inflight := e.inflightQueue.snapshotForReconnect
  tags := e.inflightQueue.tags
  quotaUsed := e.inflightQueue.publishQuotaUsed
  receiveMaximum := e.inflightQueue.receiveMaximum
  replay := e.sessionReplay
  previous := e.previousInflight
  restoring := restoring
  loading := false
  promised := []
  received := e.state.received
  link := e.link
  retry := e.retry
  trace := e.trace
  stopped := e.panicked

def ledger (e : MqttEngine T) : Ledger T := e.ledgerWith []

end MqttEngine

namespace Ledger

def ids (exchanges : List Exchange) : List UInt16 := exchanges.map Prod.fst

/-- The identifiers of the queued publications of QoS 1 and 2. -/
def queuedIds (queue : List (UInt8 × Queued)) : List UInt16 :=
  queue.filterMap (fun item => item.2.packet.tracked)

/-- The bytes that the queued publications reserve. -/
def queueSize (strict : Bool) (queue : List (UInt8 × Queued)) : Nat :=
  (queue.map (fun item => item.2.packet.size strict)).sum

/-- The queue without the topic aliases of a connection. -/
def stripped (queue : List (UInt8 × Queued)) : List (UInt8 × Queued) :=
  queue.map (fun item => (item.1, item.2.withoutAlias))

def outstanding (l : Ledger T) : List Exchange :=
  mergeEntries (l.previous.filter (fun entry => entry.1 ∈ l.reserved)) (l.inflight ++ l.replay)

/-- The bytes in the output buffer. -/
def unsent (l : Ledger T) : Nat := (l.outgoing.map List.length).sum

/-- The output buffer has room for a packet of `n` bytes. -/
def Room (l : Ledger T) (n : Nat) : Prop :=
  l.outgoing.length < l.limits.maxPackets ∧
    ∀ limit ∈ l.limits.maxOutgoing, l.queuedBytes + l.unsent + n ≤ limit

/-- An exchange can be tracked: the clock, its identifier and the quota allow it. -/
def Admits (l : Ledger T) (id : UInt16) (packet : MqttPacket) : Prop :=
  InflightQueue.ClockOk l.lastUpdate l.version l.timeout l.now ∧ id ≠ 0 ∧
    id ∉ ids l.inflight ∧ (packet.isPublish → l.quotaUsed < l.receiveMaximum.toNat)

/-- The identifier belongs to no operation. -/
def Free (l : Ledger T) (id : UInt16) : Prop := id ≠ 0 ∧ id ∉ l.reserved ∧ id ∉ ids l.inflight

/-! ### Changes -/

def record (l : Ledger T) (o : Obs) : Ledger T := { l with trace := o :: l.trace }

/-- Take an exchange out of flight; it gives its quota back. -/
def remove (l : Ledger T) (id : UInt16) : Ledger T :=
  { l with
    inflight := l.inflight.filter (fun e => e.1 ≠ id)
    tags := fun i => if i = id then none else l.tags i
    quotaUsed :=
      if l.inflight.any (fun e => e.1 = id && e.2.onQuota) then l.quotaUsed - 1 else l.quotaUsed }

/-- Give up an identifier. -/
def release (l : Ledger T) (id : UInt16) : Ledger T :=
  { l with
    reserved := l.reserved.erase id
    replayReserve := if l.reserved.erase id = ∅ then 0 else l.replayReserve
    trace := .released id (id ∈ l.reserved) :: l.trace }

/-- End an operation with an event. -/
def finish (l : Ledger T) (id : UInt16) (ev : MqttEvent) : Ledger T :=
  ((l.remove id).release id).record (.event ev)

/-- Accept an operation. -/
def accept (l : Ledger T) (id : UInt16) : Ledger T :=
  { l with reserved := insert id l.reserved, trace := .accepted id :: l.trace }

/-- Accept a publication, which may have to be sent again. -/
def reserve (l : Ledger T) (id : UInt16) (n : Nat) : Ledger T :=
  { l.accept id with replayReserve := max l.replayReserve n }

/-- Track an exchange that was sent on a stream. -/
def trackOn (stream : Option Nat) (l : Ledger T) (id : UInt16) (packet : MqttPacket) : Ledger T :=
  { l with
    inflight := l.inflight ++ [(id, packet)]
    tags := fun i => if i = id then some stream else l.tags i
    quotaUsed := if packet.isPublish then l.quotaUsed + 1 else l.quotaUsed
    lastUpdate := some l.now }

/-- Track an exchange that was sent on the control transport. -/
def track (l : Ledger T) (id : UInt16) (packet : MqttPacket) : Ledger T := l.trackOn none id packet

/-- The PUBREL takes the place of the PUBLISH. -/
def advance (l : Ledger T) (id : UInt16) (rel : MqttPacket) : Ledger T :=
  { l with
    inflight := l.inflight.map (fun e => (e.1, if e.1 = id then rel else e.2))
    lastUpdate := some l.now }

def enqueue (l : Ledger T) (priority : UInt8) (packet : MqttPacket) (n : Nat) : Ledger T :=
  { l with
    queue := l.queue.orderedInsert PriorityQueue.Before (priority, ⟨packet, l.trace.length⟩)
    queuedBytes := l.queuedBytes + n
    trace := .queued priority l.trace.length false packet :: l.trace }

/-- Take the publication in front off the queue. -/
def dequeue (l : Ledger T) (rest : List (UInt8 × Queued)) (n : Nat) : Ledger T :=
  { l with queue := rest, queuedBytes := l.queuedBytes - n }

def append (l : Ledger T) (origin : Origin) (packet : MqttPacket) (bytes : Bytes) : Ledger T :=
  { l with
    outgoing := l.outgoing ++ [bytes]
    sentAt := l.now
    trace := .appended origin packet :: l.trace }

/-- The input is closed: nothing is expected from the transport any more. -/
def close (l : Ledger T) : Ledger T :=
  { l with
    connected := false
    connecting := false
    reauthenticating := false
    responses := []
    buffered := 0
    pingedAt := none
    link := l.link.close }

/-- The handshake is over and no connection came of it. -/
def refused (l : Ledger T) (limit : UInt16) (reserve : Nat) (settings : Settings)
    (news : List Obs) : Ledger T :=
  { l with
    connecting := false
    receiveMaximum := limit
    controlReserve := reserve
    link := { l.link with settings := settings }
    trace := news ++ l.trace }

/-- An exchange of a saved session. -/
def inherit (l : Ledger T) (id : UInt16) : Ledger T :=
  { l with reserved := insert id l.reserved, trace := .inherited id :: l.trace }

/-- A transport is gone: what belongs to one connection goes with it. -/
def reset (strict : Bool) (l : Ledger T) : Ledger T :=
  { l.close with
    outgoing := []
    queue := stripped l.queue
    queuedBytes := queueSize strict (stripped l.queue)
    receiveMaximum :=
      if l.limits.receiveMaximum > 0 then l.limits.receiveMaximum else l.receiveMaximum
    received := retain (fun _ stage => stage ≠ .publish 1) l.received
    link := l.link.reset l.limits.keepAlive
      (retain (fun _ stage => stage ≠ .publish 1) l.received).keys
    trace := .reset :: l.trace }

/-! ### Incoming exchanges -/

/-- A publication is counted against the receive maximum. -/
def charge (l : Ledger T) (key : ReceiveKey) : Ledger T :=
  { l with link := l.link.charge key, trace := .charged key :: l.trace }

/-- An acknowledgement ends an incoming exchange. -/
def settle (l : Ledger T) (key : ReceiveKey) : Ledger T :=
  { l with
    received := l.received.erase key
    link := l.link.credit key
    trace := .credited key :: l.trace }

/-- A new engine that goes on with the record of an old one. -/
def blank (limits : Limits) (timeout : Nat) (retry : Retry T) (now : T) (trace : List Obs) :
    Ledger T where
  limits := limits
  now := now
  sentAt := now
  pingedAt := none
  lastUpdate := none
  version := limits.mqttVersion
  parses := limits.mqttVersion
  timeout := timeout
  fresh := true
  connected := false
  connecting := false
  reauthenticating := false
  reserved := ∅
  queue := []
  capacity := limits.maxPackets
  queuedBytes := 0
  controlReserve := 6
  replayReserve := 0
  outgoing := []
  responses := []
  buffered := 0
  inflight := []
  tags := fun _ => none
  quotaUsed := 0
  receiveMaximum := if limits.receiveMaximum = 0 then 65535 else limits.receiveMaximum
  replay := []
  previous := []
  restoring := []
  loading := false
  promised := []
  received := ∅
  link := .initial limits.keepAlive
  retry := retry
  trace := trace
  stopped := none

end Ledger

end FlowSdk
