/-
  FlowSdk.Server.Session — the session that a broker keeps for one client.

  The session routes the publications of the client to its own subscriptions, keeps a store
  of retained messages, and sends what it has queued within the client's receive maximum. The
  caller passes validated packets and transmits what the operations answer; `Op` lists them.

  The maps of the source are iterated in an order of their own: unspecified for the hash maps
  of the standard build, ascending keys for the trees of the other one. An `Order` fixes one.
-/
import FlowSdk.Machine.Cyclic
import FlowSdk.Serde.Validation
import Mathlib.Data.Finset.Basic
import Mathlib.Data.List.AList
import Mathlib.Data.List.Sort

namespace FlowSdk

open Machine Wire

/-- The order in which the maps of a build are iterated. -/
structure Order where
  ids : List UInt16 → List UInt16
  topics : List String → List String
  ids_perm : ∀ list, (ids list).Perm list
  topics_perm : ∀ list, (topics list).Perm list

/-- Maps that are iterated by ascending identifiers, as trees are. -/
def Order.ascending : Order where
  ids list := list.insertionSort (· ≤ ·)
  topics list := list
  ids_perm list := List.perm_insertionSort _ list
  topics_perm list := .refl list

/-! ## Topics -/

/-- The levels of a topic filter against those of a topic name. -/
def levelsMatch : List (List Char) → List (List Char) → Bool
  | ['#'] :: rest, _ => rest.isEmpty
  | ['+'] :: _, [] => false
  | ['+'] :: filters, _ :: topics => levelsMatch filters topics
  | _ :: _, [] => false
  | level :: filters, topic :: topics => topic = level && levelsMatch filters topics
  | [], topics => topics.isEmpty

def topicMatches (filter topic : String) : Bool :=
  if topic.toList.head? = some '$' ∧
      (filter.toList.head? = some '+' ∨ filter.toList.head? = some '#') then false
  else levelsMatch (filter.toList.splitOn '/') (topic.toList.splitOn '/')

/-! ## The state -/

structure Subscription where
  options : V5.TopicSubscription
  identifier : Option UInt32
deriving DecidableEq, Repr

structure ServerSession where
  subscriptions : AList (fun _ : String => Subscription)
  unacknowledgedPublishes : AList (fun _ : UInt16 => V5.MqttPublish)
  pendingPublishes : List V5.MqttPublish
  receivedQos2 : Finset UInt16
  retainedPublishes : AList (fun _ : String => V5.MqttPublish)
  packetIdCounter : UInt16
  unacknowledgedPubrels : AList (fun _ : UInt16 => V5.PacketIdAck)
  receiveMaximum : UInt16

namespace ServerSession

def new (receiveMaximum : UInt16) : ServerSession where
  subscriptions := ∅
  unacknowledgedPublishes := ∅
  pendingPublishes := []
  receivedQos2 := ∅
  retainedPublishes := ∅
  packetIdCounter := 0
  unacknowledgedPubrels := ∅
  receiveMaximum := receiveMaximum

/-- The entries of a map, by the keys in the order of the build. -/
def pairs {α β : Type} [DecidableEq α] (order : List α → List α) (m : AList (fun _ : α => β)) :
    List (α × β) :=
  (order m.keys).filterMap (fun key => (m.lookup key).map (key, ·))

def values {α β : Type} [DecidableEq α] (order : List α → List α) (m : AList (fun _ : α => β)) :
    List β :=
  (pairs order m).map Prod.snd

/-! ## Subscriptions and incoming publications -/

def forwardedPublish (publish : V5.MqttPublish) (subscription : Subscription)
    (retainedReplay : Bool) : V5.MqttPublish :=
  { publish with
    qos := min publish.qos subscription.options.qos
    dup := false
    retain := retainedReplay || publish.retain && subscription.options.retainAsPublished
    properties := publish.properties.filter (fun p => p.id ≠ .subscriptionIdentifier) ++
      (subscription.identifier.map Property.subscriptionIdentifier).toList
    packetId := none }

def subscriptionIdentifier (properties : Properties) : Option UInt32 :=
  properties.findSome? (fun
    | .subscriptionIdentifier identifier => some identifier
    | _ => none)

/-- The retained messages that a new subscription is sent. -/
def retainedFor (O : Order) (s : ServerSession) (subscription : Subscription) : List V5.MqttPublish :=
  let options := subscription.options
  if ¬ isShared options.topicFilter ∧ (options.retainHandling = 0 ∨
      options.retainHandling = 1 ∧ (s.subscriptions.lookup options.topicFilter).isNone) then
    ((values O.topics s.retainedPublishes).filter
      (fun publish => topicMatches options.topicFilter publish.topicName)).map
        (fun publish => forwardedPublish publish subscription true)
  else []

def subscribeOne (O : Order) (identifier : Option UInt32) (s : ServerSession)
    (options : V5.TopicSubscription) : ServerSession :=
  let subscription := ⟨options, identifier⟩
  { s with
    pendingPublishes := s.pendingPublishes ++ s.retainedFor O subscription
    subscriptions := s.subscriptions.insert options.topicFilter subscription }

def handleIncomingSubscribe (O : Order) (s : ServerSession) (subscribe : V5.MqttSubscribe) :
    ServerSession :=
  subscribe.subscriptions.foldl (subscribeOne O (subscriptionIdentifier subscribe.properties)) s

def handleIncomingUnsubscribe (s : ServerSession) (unsubscribe : V5.MqttUnsubscribe) :
    ServerSession :=
  { s with subscriptions := unsubscribe.topicFilters.foldl (fun m f => m.erase f) s.subscriptions }

/-- The retained store after a publication. -/
def retainPublish (s : ServerSession) (publish : V5.MqttPublish) : ServerSession :=
  if publish.retain then
    if publish.payload = [] then
      { s with retainedPublishes := s.retainedPublishes.erase publish.topicName }
    else
      let retained := { publish with dup := false, packetId := none }
      { s with retainedPublishes := s.retainedPublishes.insert publish.topicName retained }
  else s

/-- One copy for each subscription that matches. -/
def routePublish (O : Order) (s : ServerSession) (publish : V5.MqttPublish) : ServerSession :=
  let matching := (pairs O.topics s.subscriptions).filter
    (fun entry => topicMatches entry.1 publish.topicName)
  let copies := matching.map (fun entry => forwardedPublish publish entry.2 false)
  { s with pendingPublishes := s.pendingPublishes ++ copies }

/-- A publication that is not a repetition. -/
def acceptPublish (O : Order) (s : ServerSession) (publish : V5.MqttPublish) : ServerSession :=
  (s.retainPublish publish).routePublish O publish

/-- `handle_incoming_publish`; without an identifier, QoS 1 and 2 panic in `unwrap`. -/
def handleIncomingPublish (O : Order) (s : ServerSession) (publish : V5.MqttPublish) :
    Option (ServerSession × Option MqttPacket) :=
  if publish.qos = 2 then do
    let id ← publish.packetId
    if id ∈ s.receivedQos2 then return (s, some (.pubRec5 ⟨id, 0, []⟩))
    else return ({ s with receivedQos2 := insert id s.receivedQos2 }.acceptPublish O publish,
      some (.pubRec5 ⟨id, 0, []⟩))
  else if publish.qos = 1 then do
    let id ← publish.packetId
    return (s.acceptPublish O publish, some (.pubAck5 ⟨id, 0, []⟩))
  else return (s.acceptPublish O publish, none)

/-! ## Acknowledgements -/

def handleIncomingPuback (s : ServerSession) (puback : V5.PacketIdAck) : ServerSession :=
  if (s.unacknowledgedPublishes.lookup puback.packetId).any (fun publish => publish.qos = 1) then
    { s with unacknowledgedPublishes := s.unacknowledgedPublishes.erase puback.packetId }
  else s

def handleIncomingPubrec (s : ServerSession) (pubrec : V5.PacketIdAck) :
    ServerSession × Option V5.PacketIdAck :=
  match s.unacknowledgedPubrels.lookup pubrec.packetId with
  | some pubrel => (s, if pubrec.reasonCode < 0x80 then some pubrel else none)
  | none =>
    if (s.unacknowledgedPublishes.lookup pubrec.packetId).all (fun publish => publish.qos ≠ 2) then
      (s, none)
    else
      let s := { s with unacknowledgedPublishes := s.unacknowledgedPublishes.erase pubrec.packetId }
      if pubrec.reasonCode < 0x80 then
        let pubrel : V5.PacketIdAck := ⟨pubrec.packetId, 0, []⟩
        ({ s with unacknowledgedPubrels := s.unacknowledgedPubrels.insert pubrec.packetId pubrel },
          some pubrel)
      else (s, none)

def handleIncomingPubrel (s : ServerSession) (pubrel : V5.PacketIdAck) :
    ServerSession × V5.PacketIdAck :=
  ({ s with receivedQos2 := s.receivedQos2.erase pubrel.packetId },
    ⟨pubrel.packetId, if pubrel.packetId ∈ s.receivedQos2 then 0 else 0x92, []⟩)

def handleIncomingPubcomp (s : ServerSession) (pubcomp : V5.PacketIdAck) : ServerSession :=
  { s with unacknowledgedPubrels := s.unacknowledgedPubrels.erase pubcomp.packetId }

/-! ## Transmission -/

/-- The identifier belongs to an exchange that is under way. -/
def inUse (s : ServerSession) (id : UInt16) : Bool :=
  (s.unacknowledgedPublishes.lookup id).isSome || (s.unacknowledgedPubrels.lookup id).isSome

def nextPacketId (s : ServerSession) : Option UInt16 × ServerSession :=
  let (found, counter) := searchFree successor s.inUse 65535 s.packetIdCounter
  (found, { s with packetIdCounter := counter })

def inflight (s : ServerSession) : Nat :=
  s.unacknowledgedPublishes.keys.length + s.unacknowledgedPubrels.keys.length

/-- The publication is sent and waits for its acknowledgement. -/
def track (s : ServerSession) (id : UInt16) (publish : V5.MqttPublish) : ServerSession :=
  { s with unacknowledgedPublishes := s.unacknowledgedPublishes.insert id publish }

/-- The loop of `take_pending_messages`: what is left of the queue as it was, the slots that
are free, what has been put back and what is sent. -/
def drainPending : List V5.MqttPublish → Nat → ServerSession → List V5.MqttPublish →
    List V5.MqttPublish × List V5.MqttPublish × ServerSession
  | [], _, s, back => ([], back, s)
  | publish :: queue, slots, s, back =>
    if publish.qos > 0 then
      match slots with
      | 0 => drainPending queue 0 s (back ++ [publish])
      | slots + 1 =>
        match s.nextPacketId with
        -- put in front again: the loop ends
        | (none, s) => ([], publish :: queue ++ back, s)
        | (some id, s) =>
          let sent := { publish with packetId := some id }
          let (packets, back, s) := drainPending queue slots (s.track id sent) back
          (sent :: packets, back, s)
    else
      let (packets, back, s) := drainPending queue slots s back
      (publish :: packets, back, s)

def takePendingMessages (s : ServerSession) : List V5.MqttPublish × ServerSession :=
  let (packets, back, s') :=
    drainPending s.pendingPublishes (s.receiveMaximum.toNat - s.inflight) s []
  (packets, { s' with pendingPublishes := back })

/-- What was sent and not acknowledged, once more. -/
def resent (O : Order) (s : ServerSession) : List V5.MqttPublish × List V5.PacketIdAck :=
  ((values O.ids s.unacknowledgedPublishes).map (fun publish => { publish with dup := true }),
    values O.ids s.unacknowledgedPubrels)

def resendPendingMessages (O : Order) (s : ServerSession) : List MqttPacket × ServerSession :=
  let (publishes, pubrels) := s.resent O
  let (packets, s) := s.takePendingMessages
  (publishes.map .publish5 ++ pubrels.map .pubRel5 ++ packets.map .publish5, s)

/-! ## Operations -/

inductive Op where
  | subscribe (packet : V5.MqttSubscribe)
  | unsubscribe (packet : V5.MqttUnsubscribe)
  | publish (packet : V5.MqttPublish)
  | puback (packet : V5.PacketIdAck)
  | pubrec (packet : V5.PacketIdAck)
  | pubrel (packet : V5.PacketIdAck)
  | pubcomp (packet : V5.PacketIdAck)
  | resend
  | take

/-- The packets that the caller has validated: a QoS from 0 to 2, with an identifier above 0. -/
def Op.validated : Op → Prop
  | .publish packet => packet.qos ≤ 2 ∧ (packet.qos > 0 → packet.packetId.any (· ≠ 0))
  | _ => True

instance : DecidablePred Op.validated
  | .publish _ => inferInstanceAs (Decidable (_ ∧ _))
  | .subscribe _ | .unsubscribe _ | .puback _ | .pubrec _ | .pubrel _ | .pubcomp _ | .resend
  | .take => isTrue trivial

/-- An operation, with the packets it answers, unless it panics. -/
def perform (O : Order) (s : ServerSession) : Op → Option (List MqttPacket × ServerSession)
  | .subscribe packet => some ([], s.handleIncomingSubscribe O packet)
  | .unsubscribe packet => some ([], s.handleIncomingUnsubscribe packet)
  | .publish packet => (s.handleIncomingPublish O packet).map (fun (s, answer) => (answer.toList, s))
  | .puback packet => some ([], s.handleIncomingPuback packet)
  | .pubrec packet =>
    let (s, answer) := s.handleIncomingPubrec packet
    some ((answer.map .pubRel5).toList, s)
  | .pubrel packet =>
    let (s, answer) := s.handleIncomingPubrel packet
    some ([.pubComp5 answer], s)
  | .pubcomp packet => some ([], s.handleIncomingPubcomp packet)
  | .resend => some (s.resendPendingMessages O)
  | .take =>
    let (packets, s) := s.takePendingMessages
    some (packets.map .publish5, s)

theorem perform_isSome (O : Order) (s : ServerSession) {op : Op} (h : op.validated) :
    (s.perform O op).isSome = true := by
  cases op with
  | publish packet =>
    have hid : packet.qos > 0 → ∃ id, packet.packetId = some id := by
      intro hqos
      cases hpacket : packet.packetId with
      | none =>
        have hany := h.2 hqos
        rw [hpacket] at hany
        cases hany
      | some id => exact ⟨id, rfl⟩
    rw [perform, Option.isSome_map, handleIncomingPublish]
    by_cases htwo : packet.qos = 2
    · obtain ⟨id, hid⟩ := hid (htwo ▸ by decide)
      rw [if_pos htwo, hid]
      by_cases hknown : id ∈ s.receivedQos2 <;> simp [hknown]
    · rw [if_neg htwo]
      by_cases hone : packet.qos = 1
      · obtain ⟨id, hid⟩ := hid (hone ▸ by decide)
        rw [if_pos hone, hid]
        rfl
      · rw [if_neg hone]
        rfl
  | _ => rfl

end ServerSession

end FlowSdk
