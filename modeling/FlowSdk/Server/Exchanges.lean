/-
  FlowSdk.Server.Exchanges — the exchanges of a broker's session.

  `Outbox` says what the session has to remember: the publications it has sent and that are
  not acknowledged, in the order in which they were sent, and those whose PUBREC has come, in
  that order. It is read off what the session answers. `Tracks` ties the maps of the session to
  it: they hold the same exchanges, under distinct identifiers and within the receive maximum.

  The maps do not hold the order. What is sent again on a new connection is what is
  outstanding, and comes in the order of the map.

  Main results:
    1. `Reach.tracks`          the session keeps track of its outbox
    2. `exchanges_sound`       identifiers, quota and the search for an identifier
    3. `resends_outstanding`   what is sent again
-/
import FlowSdk.Server.Transmission

namespace FlowSdk

open Machine Wire

namespace ServerSession

/-! ## The outbox -/

structure Outbox where
  /-- sent and not acknowledged, in the order of transmission -/
  sent : List V5.MqttPublish
  /-- answered by PUBREC and not yet by PUBCOMP, in the order of the PUBRECs -/
  released : List V5.MqttPublish

/-- A publication that is sent for the first time and has to be acknowledged. -/
def firstSent : MqttPacket → Option V5.MqttPublish
  | .publish5 publish => if publish.qos > 0 ∧ publish.dup = false then some publish else none
  | _ => none

namespace Outbox

def ids (outbox : Outbox) : List UInt16 := (outbox.sent ++ outbox.released).map idOf

/-- The first publication under an identifier. -/
def find (outbox : Outbox) (id : UInt16) : Option V5.MqttPublish :=
  outbox.sent.find? (fun publish => idOf publish = id)

def dropSent (outbox : Outbox) (id : UInt16) : Outbox :=
  { outbox with sent := outbox.sent.filter (fun publish => idOf publish ≠ id) }

def puback (outbox : Outbox) (ack : V5.PacketIdAck) : Outbox :=
  if (outbox.find ack.packetId).any (fun publish => publish.qos = 1) then outbox.dropSent ack.packetId
  else outbox

def pubrec (outbox : Outbox) (ack : V5.PacketIdAck) : Outbox :=
  match outbox.find ack.packetId with
  | none => outbox
  | some publish =>
    if publish.qos ≠ 2 then outbox
    else if ack.reasonCode < 0x80 then
      { outbox.dropSent ack.packetId with released := outbox.released ++ [publish] }
    else outbox.dropSent ack.packetId

def pubcomp (outbox : Outbox) (ack : V5.PacketIdAck) : Outbox :=
  { outbox with released := outbox.released.filter (fun publish => idOf publish ≠ ack.packetId) }

def transmit (outbox : Outbox) (packets : List MqttPacket) : Outbox :=
  { outbox with sent := outbox.sent ++ packets.filterMap firstSent }

/-- The outbox after an operation and what it has answered. -/
def observe (outbox : Outbox) (packets : List MqttPacket) : Op → Outbox
  | .puback ack => outbox.puback ack
  | .pubrec ack => outbox.pubrec ack
  | .pubcomp ack => outbox.pubcomp ack
  | .resend | .take => outbox.transmit packets
  | _ => outbox

end Outbox

/-- The states that validated operations reach, with the outbox that an observer keeps. -/
inductive Reach (O : Order) (receiveMaximum : UInt16) : ServerSession → Outbox → Prop
  | new : Reach O receiveMaximum (.new receiveMaximum) ⟨[], []⟩
  | step {s s' : ServerSession} {outbox : Outbox} {op : Op} {packets : List MqttPacket}
      (reach : Reach O receiveMaximum s outbox) (validated : op.validated)
      (performed : s.perform O op = some (packets, s')) :
      Reach O receiveMaximum s' (outbox.observe packets op)

/-! ## Tracking the outbox -/

/-- The exchanges of the maps are those of the outbox. -/
structure Holds (s : ServerSession) (outbox : Outbox) : Prop where
  publishes : ∀ id publish, s.unacknowledgedPublishes.lookup id = some publish ↔
    publish ∈ outbox.sent ∧ idOf publish = id
  pubrels : ∀ id pubrel, s.unacknowledgedPubrels.lookup id = some pubrel ↔
    pubrel = ⟨id, 0, []⟩ ∧ ∃ publish ∈ outbox.released, idOf publish = id
  distinct : outbox.ids.Nodup
  named : ∀ publish ∈ outbox.sent ++ outbox.released, idOf publish ≠ 0 ∧
    publish.packetId = some (idOf publish) ∧ publish.dup = false
  sent_qos : ∀ publish ∈ outbox.sent, publish.qos = 1 ∨ publish.qos = 2
  released_qos : ∀ publish ∈ outbox.released, publish.qos = 2

/-- What waits or is retained can be sent. -/
structure Sendable (s : ServerSession) : Prop where
  pending : ∀ publish ∈ s.pendingPublishes, publish.qos ≤ 2 ∧ publish.dup = false
  retained : ∀ topic publish, s.retainedPublishes.lookup topic = some publish → publish.qos ≤ 2

structure Tracks (receiveMaximum : UInt16) (s : ServerSession) (outbox : Outbox) : Prop extends
    Holds s outbox, Sendable s where
  quota : outbox.ids.length ≤ receiveMaximum.toNat
  maximum : s.receiveMaximum = receiveMaximum

variable {O : Order} {receiveMaximum : UInt16} {s s' : ServerSession} {outbox : Outbox}

namespace Holds

theorem lookup_eq_find (h : Holds s outbox) (id : UInt16) :
    s.unacknowledgedPublishes.lookup id = outbox.find id := by
  cases hfind : outbox.find id with
  | none =>
    refine Option.eq_none_iff_forall_ne_some.mpr fun publish hpublish => ?_
    obtain ⟨hmem, hid⟩ := (h.publishes id publish).mp hpublish
    exact List.find?_eq_none.mp hfind publish hmem (decide_eq_true hid)
  | some publish =>
    have hid := List.find?_some hfind
    exact (h.publishes id publish).mpr ⟨List.mem_of_find?_eq_some hfind, of_decide_eq_true hid⟩

theorem mem_publishes (h : Holds s outbox) (id : UInt16) :
    id ∈ s.unacknowledgedPublishes.keys ↔ id ∈ outbox.sent.map idOf := by
  rw [← AList.mem_keys, ← AList.lookup_isSome, Option.isSome_iff_exists, List.mem_map]
  exact exists_congr fun publish => h.publishes id publish

theorem mem_pubrels (h : Holds s outbox) (id : UInt16) :
    id ∈ s.unacknowledgedPubrels.keys ↔ id ∈ outbox.released.map idOf := by
  rw [← AList.mem_keys, ← AList.lookup_isSome, Option.isSome_iff_exists, List.mem_map]
  constructor
  · rintro ⟨pubrel, hpubrel⟩
    exact ((h.pubrels id pubrel).mp hpubrel).2
  · exact fun hmem => ⟨_, (h.pubrels id _).mpr ⟨rfl, hmem⟩⟩

theorem distinct_sent (h : Holds s outbox) : (outbox.sent.map idOf).Nodup := by
  have hdistinct := h.distinct
  rw [Outbox.ids, List.map_append] at hdistinct
  exact hdistinct.of_append_left

theorem distinct_released (h : Holds s outbox) : (outbox.released.map idOf).Nodup := by
  have hdistinct := h.distinct
  rw [Outbox.ids, List.map_append] at hdistinct
  exact hdistinct.of_append_right

theorem apart (h : Holds s outbox) {id : UInt16} (hsent : id ∈ outbox.sent.map idOf)
    (hreleased : id ∈ outbox.released.map idOf) : False := by
  have hdistinct := h.distinct
  rw [Outbox.ids, List.map_append] at hdistinct
  exact List.disjoint_of_nodup_append hdistinct hsent hreleased

theorem perm_publishes (h : Holds s outbox) :
    s.unacknowledgedPublishes.keys.Perm (outbox.sent.map idOf) :=
  (List.perm_ext_iff_of_nodup s.unacknowledgedPublishes.keys_nodup h.distinct_sent).mpr
    h.mem_publishes

theorem perm_pubrels (h : Holds s outbox) :
    s.unacknowledgedPubrels.keys.Perm (outbox.released.map idOf) :=
  (List.perm_ext_iff_of_nodup s.unacknowledgedPubrels.keys_nodup h.distinct_released).mpr
    h.mem_pubrels

theorem inflight_eq (h : Holds s outbox) : s.inflight = outbox.ids.length := by
  rw [inflight, h.perm_publishes.length_eq, h.perm_pubrels.length_eq, Outbox.ids, List.map_append,
    List.length_append]

theorem inUse_iff (h : Holds s outbox) (id : UInt16) : s.inUse id = true ↔ id ∈ outbox.ids := by
  rw [inUse, Bool.or_eq_true, AList.lookup_isSome, AList.lookup_isSome, AList.mem_keys,
    AList.mem_keys, h.mem_publishes, h.mem_pubrels, Outbox.ids, List.map_append, List.mem_append]

/-- The exchanges depend on the two maps alone. -/
theorem same (h : Holds s outbox)
    (hpublishes : s'.unacknowledgedPublishes = s.unacknowledgedPublishes)
    (hpubrels : s'.unacknowledgedPubrels = s.unacknowledgedPubrels) : Holds s' outbox :=
  { h with
    publishes := hpublishes ▸ h.publishes
    pubrels := hpubrels ▸ h.pubrels }

/-- A publication leaves the outbox. -/
theorem dropSent (h : Holds s outbox) (id : UInt16) :
    Holds { s with unacknowledgedPublishes := s.unacknowledgedPublishes.erase id }
      (outbox.dropSent id) where
  publishes i publish := by
    show (s.unacknowledgedPublishes.erase id).lookup i = some publish ↔
      publish ∈ outbox.sent.filter (fun publish => idOf publish ≠ id) ∧ idOf publish = i
    rw [List.mem_filter]
    by_cases hi : i = id
    · subst hi
      rw [AList.lookup_erase]
      constructor
      · intro hnone
        cases hnone
      · rintro ⟨⟨-, hne⟩, heq⟩
        exact absurd heq (of_decide_eq_true hne)
    · rw [AList.lookup_erase_ne hi, h.publishes]
      constructor
      · rintro ⟨hmem, heq⟩
        exact ⟨⟨hmem, decide_eq_true fun hid => hi (heq.symm.trans hid)⟩, heq⟩
      · rintro ⟨⟨hmem, -⟩, heq⟩
        exact ⟨hmem, heq⟩
  pubrels := h.pubrels
  distinct := by
    have hsub : ((outbox.dropSent id).sent ++ outbox.released).Sublist
        (outbox.sent ++ outbox.released) := List.Sublist.append List.filter_sublist (.refl _)
    exact h.distinct.sublist (hsub.map idOf)
  named publish hpublish := by
    refine h.named publish ?_
    rcases List.mem_append.mp hpublish with hsent | hreleased
    · exact List.mem_append_left _ (List.mem_filter.mp hsent).1
    · exact List.mem_append_right _ hreleased
  sent_qos publish hpublish := h.sent_qos publish (List.mem_filter.mp hpublish).1
  released_qos := h.released_qos

/-- A PUBREL takes the place of a publication that has left the outbox. -/
theorem release (h : Holds s outbox) {publish : V5.MqttPublish} {id : UInt16}
    (hid : publish.packetId = some id) (hzero : id ≠ 0) (hfree : id ∉ outbox.ids)
    (hdup : publish.dup = false) (hqos : publish.qos = 2) :
    Holds { s with unacknowledgedPubrels := s.unacknowledgedPubrels.insert id ⟨id, 0, []⟩ }
      { outbox with released := outbox.released ++ [publish] } := by
  have hname : idOf publish = id := by
    rw [idOf, hid]
    rfl
  refine {
    publishes := h.publishes
    pubrels := fun i pubrel => ?_
    distinct := ?_
    named := fun p hp => ?_
    sent_qos := h.sent_qos
    released_qos := fun p hp => ?_ }
  · show (s.unacknowledgedPubrels.insert id ⟨id, 0, []⟩).lookup i = some pubrel ↔ _
    by_cases hi : i = id
    · subst hi
      rw [AList.lookup_insert, Option.some.injEq]
      constructor
      · rintro rfl
        exact ⟨rfl, publish, List.mem_append_right _ List.mem_cons_self, hname⟩
      · exact fun ⟨hpubrel, _⟩ => hpubrel.symm
    · rw [AList.lookup_insert_ne hi, h.pubrels]
      refine and_congr_right fun _ => ?_
      constructor
      · exact fun ⟨p, hp, hpi⟩ => ⟨p, List.mem_append_left _ hp, hpi⟩
      · rintro ⟨p, hp, hpi⟩
        rcases List.mem_append.mp hp with hp | hp
        · exact ⟨p, hp, hpi⟩
        · exact absurd (hpi.symm.trans (List.mem_singleton.mp hp ▸ hname)) hi
  · show ((outbox.sent ++ (outbox.released ++ [publish])).map idOf).Nodup
    rw [← List.append_assoc, List.map_append, List.nodup_append]
    refine ⟨h.distinct, List.nodup_singleton _, fun a ha b hb heq => hfree ?_⟩
    rw [← hname, ← List.mem_singleton.mp hb, ← heq]
    exact ha
  · rw [← List.append_assoc] at hp
    rcases List.mem_append.mp hp with hp | hp
    · exact h.named p hp
    · rw [List.mem_singleton.mp hp, hname]
      exact ⟨hzero, hid, hdup⟩
  · rcases List.mem_append.mp hp with hp | hp
    · exact h.released_qos p hp
    · exact List.mem_singleton.mp hp ▸ hqos

theorem pubcomp (h : Holds s outbox) (ack : V5.PacketIdAck) :
    Holds (s.handleIncomingPubcomp ack) (outbox.pubcomp ack) where
  publishes := h.publishes
  pubrels i pubrel := by
    show (s.unacknowledgedPubrels.erase ack.packetId).lookup i = some pubrel ↔ pubrel = ⟨i, 0, []⟩ ∧
      ∃ publish ∈ outbox.released.filter (fun publish => idOf publish ≠ ack.packetId), idOf publish = i
    by_cases hi : i = ack.packetId
    · rw [hi, AList.lookup_erase]
      constructor
      · intro hnone
        cases hnone
      · rintro ⟨-, publish, hmem, heq⟩
        exact absurd heq (of_decide_eq_true (List.mem_filter.mp hmem).2)
    · rw [AList.lookup_erase_ne hi, h.pubrels]
      refine and_congr_right fun _ => ?_
      constructor
      · rintro ⟨publish, hmem, heq⟩
        exact ⟨publish, List.mem_filter.mpr
          ⟨hmem, decide_eq_true fun hid => hi (heq.symm.trans hid)⟩, heq⟩
      · exact fun ⟨publish, hmem, heq⟩ => ⟨publish, (List.mem_filter.mp hmem).1, heq⟩
  distinct := by
    have hsub : (outbox.sent ++ (outbox.pubcomp ack).released).Sublist
        (outbox.sent ++ outbox.released) := List.Sublist.append (.refl _) List.filter_sublist
    exact h.distinct.sublist (hsub.map idOf)
  named publish hpublish := by
    refine h.named publish ?_
    rcases List.mem_append.mp hpublish with hsent | hreleased
    · exact List.mem_append_left _ hsent
    · exact List.mem_append_right _ (List.mem_filter.mp hreleased).1
  sent_qos := h.sent_qos
  released_qos publish hpublish := h.released_qos publish (List.mem_filter.mp hpublish).1

theorem find_some (h : Holds s outbox) {id : UInt16} {publish : V5.MqttPublish}
    (hfind : outbox.find id = some publish) : publish ∈ outbox.sent ∧ idOf publish = id :=
  (h.publishes id publish).mp ((h.lookup_eq_find id).trans hfind)

/-- The identifier of an exchange that has left the outbox is free. -/
theorem notMem_dropSent (h : Holds s outbox) {id : UInt16} {publish : V5.MqttPublish}
    (hfind : outbox.find id = some publish) : id ∉ (outbox.dropSent id).ids := by
  obtain ⟨hmem, hid⟩ := h.find_some hfind
  rw [Outbox.ids, List.map_append, List.mem_append]
  rintro (hsent | hreleased)
  · obtain ⟨p, hp, heq⟩ := List.mem_map.mp hsent
    exact of_decide_eq_true (List.mem_filter.mp hp).2 heq
  · exact h.apart (hid ▸ List.mem_map_of_mem hmem) hreleased

theorem length_dropSent (h : Holds s outbox) {id : UInt16} {publish : V5.MqttPublish}
    (hfind : outbox.find id = some publish) :
    (outbox.dropSent id).ids.length + 1 ≤ outbox.ids.length := by
  obtain ⟨hmem, hid⟩ := h.find_some hfind
  have hlt : (outbox.sent.filter (fun p => idOf p ≠ id)).length < outbox.sent.length :=
    List.length_filter_lt_length_iff_exists.mpr ⟨publish, hmem, by simp [hid]⟩
  simp only [Outbox.ids, Outbox.dropSent, List.length_map, List.length_append]
  omega

end Holds

/-! ## Transmission -/

theorem qos_cases {qos : UInt8} (hpos : qos > 0) (hle : qos ≤ 2) : qos = 1 ∨ qos = 2 := by
  rw [← UInt8.toNat_inj, ← UInt8.toNat_inj]
  rw [gt_iff_lt, UInt8.lt_iff_toNat_lt] at hpos
  rw [UInt8.le_iff_toNat_le] at hle
  have hzero : UInt8.toNat 0 = 0 := rfl
  have htwo : UInt8.toNat 2 = 2 := rfl
  have hone : UInt8.toNat 1 = 1 := rfl
  omega

/-- What is sent enters the outbox, if what waits can be sent. -/
theorem Holds.emits {slots : Nat} {packets : List V5.MqttPublish} (h : Holds s outbox)
    (hemits : Emits s slots s.pendingPublishes packets s')
    (hpubrels : s'.unacknowledgedPubrels = s.unacknowledgedPubrels)
    (hpackets : ∀ publish ∈ packets, publish.qos ≤ 2 ∧ publish.dup = false) :
    Holds s' { outbox with sent := outbox.sent ++ emitted packets } := by
  have hnew : ∀ p ∈ emitted packets, idOf p ∉ outbox.ids := fun p hp hmem =>
    Bool.false_ne_true ((hemits.fresh p hp).2.2.1.symm.trans ((h.inUse_iff _).mpr hmem))
  have hold : ∀ p ∈ outbox.sent, idOf p ∈ outbox.ids := fun p hp =>
    List.mem_map_of_mem (List.mem_append_left _ hp)
  refine {
    publishes := fun id publish => ?_
    pubrels := hpubrels ▸ h.pubrels
    distinct := ?_
    named := fun p hp => ?_
    sent_qos := fun p hp => ?_
    released_qos := h.released_qos }
  · rw [List.mem_append]
    by_cases hid : id ∈ (emitted packets).map idOf
    · obtain ⟨p, hp, rfl⟩ := List.mem_map.mp hid
      rw [(hemits.fresh p hp).2.2.2, Option.some.injEq]
      constructor
      · rintro rfl
        exact ⟨.inr hp, rfl⟩
      · rintro ⟨hmem | hmem, hsame⟩
        · exact absurd (hsame ▸ hold publish hmem) (hnew p hp)
        · have hlookup := (hemits.fresh publish hmem).2.2.2
          rw [hsame, (hemits.fresh p hp).2.2.2] at hlookup
          exact Option.some.inj hlookup
    · rw [hemits.kept id hid, h.publishes]
      constructor
      · exact fun ⟨hmem, hsame⟩ => ⟨.inl hmem, hsame⟩
      · rintro ⟨hmem | hmem, rfl⟩
        · exact ⟨hmem, rfl⟩
        · exact absurd (List.mem_map_of_mem hmem) hid
  · have hperm : (outbox.sent ++ emitted packets ++ outbox.released).Perm
        (emitted packets ++ (outbox.sent ++ outbox.released)) := by
      rw [← List.append_assoc]
      exact List.perm_append_comm.append_right _
    rw [Outbox.ids, (hperm.map idOf).nodup_iff, List.map_append, List.nodup_append']
    refine ⟨hemits.distinct, h.distinct, fun id hid hmem => ?_⟩
    obtain ⟨p, hp, rfl⟩ := List.mem_map.mp hid
    exact hnew p hp hmem
  · rw [List.append_assoc, List.mem_append, List.mem_append] at hp
    rcases hp with hp | hp | hp
    · exact h.named p (List.mem_append_left _ hp)
    · obtain ⟨hname, hzero, -⟩ := hemits.fresh p hp
      exact ⟨hzero, hname, (hpackets p (List.mem_filter.mp hp).1).2⟩
    · exact h.named p (List.mem_append_right _ hp)
  · rcases List.mem_append.mp hp with hp | hp
    · exact h.sent_qos p hp
    · obtain ⟨hmem, hqos⟩ := List.mem_filter.mp hp
      exact qos_cases (of_decide_eq_true hqos) (hpackets p hmem).1

/-! ## The operations keep track -/

theorem mem_values {α β : Type} [DecidableEq α] {order : List α → List α}
    {m : AList (fun _ : α => β)} {b : β} (h : b ∈ values order m) : ∃ key, m.lookup key = some b := by
  obtain ⟨⟨key, value⟩, hpair, rfl⟩ := List.mem_map.mp h
  obtain ⟨k, -, hlookup⟩ := List.mem_filterMap.mp hpair
  obtain ⟨b, hb, heq⟩ := Option.map_eq_some_iff.mp hlookup
  cases heq
  exact ⟨key, hb⟩

theorem forwardedPublish_sendable {publish : V5.MqttPublish} (h : publish.qos ≤ 2)
    (subscription : Subscription) (replay : Bool) :
    (forwardedPublish publish subscription replay).qos ≤ 2 ∧
      (forwardedPublish publish subscription replay).dup = false := by
  refine ⟨?_, rfl⟩
  show (if publish.qos ≤ subscription.options.qos then publish.qos else subscription.options.qos) ≤ 2
  split
  next => exact h
  next hlt => exact UInt8.le_trans (UInt8.le_of_lt (UInt8.not_le.mp hlt)) h

namespace Tracks

/-- Neither the subscriptions nor the identifiers received matter. -/
theorem other (h : Tracks receiveMaximum s outbox)
    (hpublishes : s'.unacknowledgedPublishes = s.unacknowledgedPublishes)
    (hpubrels : s'.unacknowledgedPubrels = s.unacknowledgedPubrels)
    (hpending : s'.pendingPublishes = s.pendingPublishes)
    (hretained : s'.retainedPublishes = s.retainedPublishes)
    (hmaximum : s'.receiveMaximum = s.receiveMaximum) : Tracks receiveMaximum s' outbox where
  toHolds := h.toHolds.same hpublishes hpubrels
  pending := hpending ▸ h.pending
  retained := hretained ▸ h.retained
  quota := h.quota
  maximum := hmaximum.trans h.maximum

theorem enqueue (h : Tracks receiveMaximum s outbox) {copies : List V5.MqttPublish}
    (hcopies : ∀ publish ∈ copies, publish.qos ≤ 2 ∧ publish.dup = false) :
    Tracks receiveMaximum { s with pendingPublishes := s.pendingPublishes ++ copies } outbox where
  toHolds := h.toHolds.same rfl rfl
  pending publish hpublish := by
    rcases List.mem_append.mp hpublish with hold | hcopy
    · exact h.pending publish hold
    · exact hcopies publish hcopy
  retained := h.retained
  quota := h.quota
  maximum := h.maximum

theorem retainedFor_sendable (h : Tracks receiveMaximum s outbox) (subscription : Subscription) :
    ∀ publish ∈ s.retainedFor O subscription, publish.qos ≤ 2 ∧ publish.dup = false := by
  intro publish hpublish
  rw [retainedFor] at hpublish
  split at hpublish
  · obtain ⟨retained, hmem, rfl⟩ := List.mem_map.mp hpublish
    obtain ⟨topic, hlookup⟩ := mem_values (List.mem_filter.mp hmem).1
    exact forwardedPublish_sendable (h.retained topic retained hlookup) subscription true
  · cases hpublish

theorem subscribe (h : Tracks receiveMaximum s outbox) (packet : V5.MqttSubscribe) :
    Tracks receiveMaximum (s.handleIncomingSubscribe O packet) outbox := by
  rw [handleIncomingSubscribe]
  generalize packet.subscriptions = requested
  -- one topic filter after the other
  induction requested generalizing s with
  | nil => exact h
  | cons options requested ih =>
    refine ih ?_
    exact (h.enqueue (h.retainedFor_sendable _)).other rfl rfl rfl rfl rfl

theorem retainPublish (h : Tracks receiveMaximum s outbox) {publish : V5.MqttPublish}
    (hqos : publish.qos ≤ 2) : Tracks receiveMaximum (s.retainPublish publish) outbox := by
  rw [ServerSession.retainPublish]
  split
  · split
    · refine { h with toHolds := h.toHolds.same rfl rfl, retained := fun topic retained hlookup => ?_ }
      by_cases htopic : topic = publish.topicName
      · rw [htopic, AList.lookup_erase] at hlookup
        cases hlookup
      · rw [AList.lookup_erase_ne htopic] at hlookup
        exact h.retained topic retained hlookup
    · refine { h with toHolds := h.toHolds.same rfl rfl, retained := fun topic retained hlookup => ?_ }
      by_cases htopic : topic = publish.topicName
      · rw [htopic, AList.lookup_insert] at hlookup
        cases hlookup
        exact hqos
      · rw [AList.lookup_insert_ne htopic] at hlookup
        exact h.retained topic retained hlookup
  · exact h

theorem acceptPublish (h : Tracks receiveMaximum s outbox) {publish : V5.MqttPublish}
    (hqos : publish.qos ≤ 2) : Tracks receiveMaximum (s.acceptPublish O publish) outbox := by
  refine (h.retainPublish hqos).enqueue fun copy hcopy => ?_
  obtain ⟨entry, -, rfl⟩ := List.mem_map.mp hcopy
  exact forwardedPublish_sendable hqos entry.2 false

theorem publish (h : Tracks receiveMaximum s outbox) {packet : V5.MqttPublish}
    {answer : Option MqttPacket} (hqos : packet.qos ≤ 2)
    (hhandled : s.handleIncomingPublish O packet = some (s', answer)) :
    Tracks receiveMaximum s' outbox := by
  rw [handleIncomingPublish] at hhandled
  split at hhandled
  · obtain ⟨id, -, hhandled⟩ := Option.bind_eq_some_iff.mp hhandled
    split at hhandled
    · cases hhandled
      exact h
    · cases hhandled
      have hinserted : Tracks receiveMaximum { s with receivedQos2 := insert id s.receivedQos2 } outbox :=
        h.other rfl rfl rfl rfl rfl
      exact hinserted.acceptPublish hqos
  · split at hhandled
    · obtain ⟨id, -, hhandled⟩ := Option.bind_eq_some_iff.mp hhandled
      cases hhandled
      exact h.acceptPublish hqos
    · cases hhandled
      exact h.acceptPublish hqos

/-! ### Acknowledgements -/

theorem puback (h : Tracks receiveMaximum s outbox) (ack : V5.PacketIdAck) :
    Tracks receiveMaximum (s.handleIncomingPuback ack) (outbox.puback ack) := by
  rw [handleIncomingPuback, Outbox.puback, h.lookup_eq_find]
  cases hfind : outbox.find ack.packetId with
  | none => exact h
  | some publish =>
    split
    · have hlength := h.toHolds.length_dropSent hfind
      have hquota := h.quota
      exact { h with toHolds := h.toHolds.dropSent _, quota := by omega }
    · exact h

theorem pubrec (h : Tracks receiveMaximum s outbox) (ack : V5.PacketIdAck) :
    Tracks receiveMaximum (s.handleIncomingPubrec ack).1 (outbox.pubrec ack) := by
  rw [handleIncomingPubrec, Outbox.pubrec]
  cases hfind : outbox.find ack.packetId with
  | none =>
    rw [h.lookup_eq_find, hfind]
    split <;> exact h
  | some publish =>
    obtain ⟨hmem, hid⟩ := h.toHolds.find_some hfind
    -- the publication is outstanding: no PUBREL is stored under its identifier
    have hpubrel : s.unacknowledgedPubrels.lookup ack.packetId = none := by
      rw [Option.eq_none_iff_forall_ne_some]
      intro pubrel hpubrel
      obtain ⟨-, other, hother, heq⟩ := (h.pubrels _ pubrel).mp hpubrel
      exact h.toHolds.apart (List.mem_map.mpr ⟨publish, hmem, hid⟩)
        (List.mem_map.mpr ⟨other, hother, heq⟩)
    rw [hpubrel, h.lookup_eq_find, hfind]
    have hlength := h.toHolds.length_dropSent hfind
    have hquota := h.quota
    have hdropped := h.toHolds.dropSent ack.packetId
    by_cases hqos : publish.qos = 2
    · simp only [Option.all_some, hqos, ne_eq, not_true_eq_false, decide_false, Bool.false_eq_true,
        if_false]
      split
      next haccepted =>
        obtain ⟨hzero, hname, hdup⟩ := h.named publish (List.mem_append_left _ hmem)
        rw [hid] at hzero hname
        refine { h with
          toHolds := hdropped.release hname hzero (h.toHolds.notMem_dropSent hfind) hdup hqos
          quota := ?_ }
        simp only [Outbox.ids, Outbox.dropSent, List.length_map, List.length_append,
          List.length_singleton] at hlength hquota ⊢
        omega
      next => exact { h with toHolds := hdropped, quota := by omega }
    · simp only [Option.all_some, ne_eq, hqos, not_false_eq_true, decide_true, if_true]
      exact h

theorem pubcomp (h : Tracks receiveMaximum s outbox) (ack : V5.PacketIdAck) :
    Tracks receiveMaximum (s.handleIncomingPubcomp ack) (outbox.pubcomp ack) := by
  refine { h with toHolds := h.toHolds.pubcomp ack, quota := le_trans ?_ h.quota }
  have hlength : (outbox.pubcomp ack).released.length ≤ outbox.released.length :=
    List.length_filter_le _ _
  simp only [Outbox.ids, Outbox.pubcomp, List.length_map, List.length_append] at hlength ⊢
  omega

/-! ### Transmission -/

theorem inflight_le (h : Tracks receiveMaximum s outbox) :
    s.inflight ≤ s.receiveMaximum.toNat := by
  rw [h.toHolds.inflight_eq, h.maximum]
  exact h.quota

theorem taken (h : Tracks receiveMaximum s outbox) :
    ∀ publish ∈ s.takePendingMessages.1, publish.qos ≤ 2 ∧ publish.dup = false := by
  intro sent hsent
  obtain ⟨publish, hpublish, id, rfl⟩ := (takePendingMessages_sends s).source sent hsent
  exact h.pending publish hpublish

theorem filterMap_firstSent {packets : List V5.MqttPublish}
    (h : ∀ publish ∈ packets, publish.dup = false) :
    (packets.map MqttPacket.publish5).filterMap firstSent = emitted packets := by
  rw [List.filterMap_map, emitted, ← List.filterMap_eq_filter]
  refine List.filterMap_congr fun publish hpublish => ?_
  simp [firstSent, h publish hpublish, Option.guard]

theorem take (h : Tracks receiveMaximum s outbox) :
    Tracks receiveMaximum s.takePendingMessages.2
      (outbox.transmit (s.takePendingMessages.1.map .publish5)) := by
  obtain ⟨hemits, hrest⟩ := takePendingMessages_emits h.inflight_le
  have hother := (takePendingMessages_sends s).other
  have hfull := hemits.full
  have hquota := h.quota
  rw [h.toHolds.inflight_eq, h.maximum] at hfull
  rw [Outbox.transmit, filterMap_firstSent fun p hp => (h.taken p hp).2]
  refine {
    toHolds := h.toHolds.emits hemits (by rw [hother]) h.taken
    pending := fun p hp => ?_
    retained := by rw [hother]; exact h.retained
    quota := ?_
    maximum := by rw [hother]; exact h.maximum }
  · rw [hrest] at hp
    exact h.pending p (List.mem_filter.mp (List.mem_of_mem_drop hp)).1
  · simp only [Outbox.ids, List.length_map, List.length_append] at hquota hfull ⊢
    omega

theorem resend (h : Tracks receiveMaximum s outbox) :
    Tracks receiveMaximum (s.resendPendingMessages O).2
      (outbox.transmit (s.resendPendingMessages O).1) := by
  -- what is sent again carries the mark, and PUBRELs are no publications
  have hagain : outbox.transmit (s.resendPendingMessages O).1 =
      outbox.transmit (s.takePendingMessages.1.map .publish5) := by
    rw [Outbox.transmit, Outbox.transmit, resendPendingMessages]
    have hdup : ((s.resent O).1.map MqttPacket.publish5).filterMap firstSent = [] := by
      rw [List.filterMap_eq_nil_iff]
      intro packet hpacket
      simp only [resent, List.map_map, List.mem_map, Function.comp_apply] at hpacket
      obtain ⟨publish, -, rfl⟩ := hpacket
      simp [firstSent]
    have hpubrel : ((s.resent O).2.map MqttPacket.pubRel5).filterMap firstSent = [] := by
      rw [List.filterMap_eq_nil_iff]
      intro packet hpacket
      obtain ⟨pubrel, -, rfl⟩ := List.mem_map.mp hpacket
      rfl
    rw [List.filterMap_append, List.filterMap_append, hdup, hpubrel]
    rfl
  rw [hagain]
  exact h.take

end Tracks

theorem tracks_step {op : Op} {packets : List MqttPacket} (h : Tracks receiveMaximum s outbox)
    (hvalid : op.validated) (hperformed : s.perform O op = some (packets, s')) :
    Tracks receiveMaximum s' (outbox.observe packets op) := by
  cases op with
  | subscribe packet =>
    cases hperformed
    exact h.subscribe packet
  | unsubscribe packet =>
    cases hperformed
    exact h.other rfl rfl rfl rfl rfl
  | publish packet =>
    obtain ⟨⟨after, answer⟩, hhandled, heq⟩ := Option.map_eq_some_iff.mp hperformed
    cases heq
    exact h.publish hvalid.1 hhandled
  | puback packet =>
    cases hperformed
    exact h.puback packet
  | pubrec packet =>
    cases hperformed
    exact h.pubrec packet
  | pubrel packet =>
    cases hperformed
    exact h.other rfl rfl rfl rfl rfl
  | pubcomp packet =>
    cases hperformed
    exact h.pubcomp packet
  | resend =>
    cases hperformed
    exact h.resend
  | take =>
    cases hperformed
    exact h.take

theorem tracks_new (receiveMaximum : UInt16) : Tracks receiveMaximum (.new receiveMaximum) ⟨[], []⟩ where
  publishes id publish := by simp [new]
  pubrels id pubrel := by simp [new]
  distinct := List.nodup_nil
  named publish hpublish := by cases hpublish
  sent_qos publish hpublish := by cases hpublish
  released_qos publish hpublish := by cases hpublish
  pending publish hpublish := by cases hpublish
  retained topic publish hlookup := by cases hlookup
  quota := Nat.zero_le _
  maximum := rfl

theorem Reach.tracks (reach : Reach O receiveMaximum s outbox) : Tracks receiveMaximum s outbox := by
  induction reach with
  | new => exact tracks_new receiveMaximum
  | step _ validated performed ih => exact tracks_step ih validated performed

/-- A list of operations, one after the other. -/
def follow (O : Order) (s : ServerSession) (outbox : Outbox) : List Op → Option (ServerSession × Outbox)
  | [] => some (s, outbox)
  | op :: ops =>
    if op.validated then
      (s.perform O op).bind (fun (packets, s') => follow O s' (outbox.observe packets op) ops)
    else none

theorem Reach.follow (reach : Reach O receiveMaximum s outbox) {ops : List Op}
    {reached : ServerSession × Outbox} (h : ServerSession.follow O s outbox ops = some reached) :
    Reach O receiveMaximum reached.1 reached.2 := by
  induction ops generalizing s outbox with
  | nil =>
    cases h
    exact reach
  | cons op ops ih =>
    rw [ServerSession.follow] at h
    split at h
    next validated =>
      obtain ⟨⟨packets, after⟩, hperformed, hrest⟩ := Option.bind_eq_some_iff.mp h
      exact ih (reach.step validated hperformed) hrest
    next => cases h

/-! ## The exchanges of every history -/

/-- In every history of validated operations: the identifiers of the two maps are distinct and
above 0, the exchanges stay within the receive maximum, the maps hold what was sent under its
identifier, new identifiers are free, and one is found for every slot. -/
theorem exchanges_sound (reach : Reach O receiveMaximum s outbox) :
    (∀ id ∈ s.unacknowledgedPublishes, id ∉ s.unacknowledgedPubrels) ∧
    0 ∉ s.unacknowledgedPublishes ∧ 0 ∉ s.unacknowledgedPubrels ∧
    s.unacknowledgedPublishes.keys.length + s.unacknowledgedPubrels.keys.length ≤
      receiveMaximum.toNat ∧
    (∀ id publish, s.unacknowledgedPublishes.lookup id = some publish →
      publish.packetId = some id ∧ (publish.qos = 1 ∨ publish.qos = 2)) ∧
    (∀ id pubrel, s.unacknowledgedPubrels.lookup id = some pubrel →
      pubrel.packetId = id ∧ ∃ publish ∈ outbox.released, publish.packetId = some id ∧ publish.qos = 2) ∧
    (∀ publish ∈ s.takePendingMessages.1, publish.qos > 0 → ∃ id, publish.packetId = some id ∧
      id ≠ 0 ∧ id ∉ s.unacknowledgedPublishes ∧ id ∉ s.unacknowledgedPubrels) ∧
    ((emitted s.takePendingMessages.1).map (·.packetId)).Nodup ∧
    (emitted s.takePendingMessages.1).length =
      min (receiveMaximum.toNat - s.inflight) (emitted s.pendingPublishes).length ∧
    (s.inflight < receiveMaximum.toNat → s.nextPacketId.1.isSome = true) := by
  have h := reach.tracks
  obtain ⟨hemits, -⟩ := takePendingMessages_emits h.inflight_le
  have hids (id : UInt16) : id ∈ outbox.ids ↔ id ∈ s.unacknowledgedPublishes ∨
      id ∈ s.unacknowledgedPubrels := by
    rw [AList.mem_keys, AList.mem_keys, h.mem_publishes, h.mem_pubrels, Outbox.ids, List.map_append,
      List.mem_append]
  have hzero : 0 ∉ outbox.ids := by
    intro hmem
    obtain ⟨publish, hpublish, hid⟩ := List.mem_map.mp hmem
    exact (h.named publish hpublish).1 hid
  refine ⟨fun id hsent hreleased => ?_, fun hmem => hzero ((hids 0).mpr (.inl hmem)),
    fun hmem => hzero ((hids 0).mpr (.inr hmem)), ?_, fun id publish hlookup => ?_,
    fun id pubrel hlookup => ?_, fun publish hpublish hqos => ?_, ?_, ?_, fun hslot => ?_⟩
  · exact h.toHolds.apart ((h.mem_publishes id).mp (AList.mem_keys.mp hsent))
      ((h.mem_pubrels id).mp (AList.mem_keys.mp hreleased))
  · have hlength := h.toHolds.inflight_eq
    rw [inflight] at hlength
    exact hlength ▸ h.quota
  · obtain ⟨hmem, rfl⟩ := (h.publishes id publish).mp hlookup
    exact ⟨(h.named publish (List.mem_append_left _ hmem)).2.1, h.sent_qos publish hmem⟩
  · obtain ⟨rfl, publish, hmem, rfl⟩ := (h.pubrels id pubrel).mp hlookup
    exact ⟨rfl, publish, hmem, (h.named publish (List.mem_append_right _ hmem)).2.1,
      h.released_qos publish hmem⟩
  · have hemitted : publish ∈ emitted s.takePendingMessages.1 :=
      List.mem_filter.mpr ⟨hpublish, decide_eq_true hqos⟩
    obtain ⟨hname, hne, hfree, -⟩ := hemits.fresh publish hemitted
    rw [inUse, Bool.or_eq_false_iff] at hfree
    refine ⟨_, hname, hne, fun hmem => ?_, fun hmem => ?_⟩
    · exact Bool.false_ne_true (hfree.1.symm.trans (AList.lookup_isSome.mpr hmem))
    · exact Bool.false_ne_true (hfree.2.symm.trans (AList.lookup_isSome.mpr hmem))
  · have hnames : (emitted s.takePendingMessages.1).map (·.packetId) =
        ((emitted s.takePendingMessages.1).map idOf).map some := by
      rw [List.map_map]
      exact List.map_congr_left fun publish hpublish => (hemits.fresh publish hpublish).1
    rw [hnames]
    exact hemits.distinct.map (Option.some_injective _)
  · rw [← h.maximum]
    exact hemits.full
  · have hbound : receiveMaximum.toNat < 65536 := receiveMaximum.toNat_lt
    obtain ⟨id, counter, hnext, -⟩ := nextPacketId_found (s := s) (by omega)
    rw [hnext]
    rfl

/-- A client that subscribes to its own topic and publishes to it twice. -/
def twoPublications : List Op :=
  let message (id : UInt16) : V5.MqttPublish := ⟨"t", 2, false, false, some id, [], []⟩
  [.subscribe ⟨1, [⟨"t", 2, false, false, 0⟩], []⟩, .publish (message 7), .publish (message 8), .take]

/-- Two publications are sent and the second one is received. -/
def received : Option (ServerSession × Outbox) :=
  follow .ascending (.new 2) ⟨[], []⟩ (twoPublications ++ [.pubrec ⟨2, 0, []⟩])

theorem exchanges_sound_received : ∃ s outbox, Reach .ascending 2 s outbox ∧ s.inflight = 2 ∧
    ∀ id ∈ s.unacknowledgedPublishes, id ∉ s.unacknowledgedPubrels := by
  obtain ⟨⟨s, outbox⟩, hreceived⟩ := Option.isSome_iff_exists.mp
    (show received.isSome = true by decide +kernel)
  have hinflight : received.map (·.1.inflight) = some 2 := by decide +kernel
  rw [hreceived] at hinflight
  have reach := Reach.new.follow hreceived
  exact ⟨s, outbox, reach, Option.some.inj hinflight, (exchanges_sound reach).1⟩

/-! ## What is sent again -/

section Values

variable {α β γ : Type} [DecidableEq α] {order : List α → List α} {m : AList (fun _ : α => β)}
  {list : List γ} {f : γ → α} {g : γ → β}

theorem values_eq_filterMap : values order m = (order m.keys).filterMap m.lookup := by
  rw [values, pairs, List.map_filterMap]
  refine List.filterMap_congr fun key _ => ?_
  cases m.lookup key <;> rfl

theorem filterMap_lookup (hlookup : ∀ c ∈ list, m.lookup (f c) = some (g c)) :
    (list.map f).filterMap m.lookup = list.map g := by
  rw [List.filterMap_map, ← List.filterMap_eq_map]
  exact List.filterMap_congr hlookup

theorem values_perm (hlookup : ∀ c ∈ list, m.lookup (f c) = some (g c))
    (hkeys : (order m.keys).Perm (list.map f)) : (values order m).Perm (list.map g) := by
  rw [values_eq_filterMap, ← filterMap_lookup hlookup]
  exact hkeys.filterMap _

theorem values_eq (hlookup : ∀ c ∈ list, m.lookup (f c) = some (g c))
    (hkeys : order m.keys = list.map f) : values order m = list.map g := by
  rw [values_eq_filterMap, hkeys, filterMap_lookup hlookup]

end Values

/-- A publication that is sent again. -/
def sentAgain : MqttPacket → Option V5.MqttPublish
  | .publish5 publish => if publish.dup then some publish else none
  | _ => none

def sentPubrel : MqttPacket → Option V5.PacketIdAck
  | .pubRel5 pubrel => some pubrel
  | _ => none

/-- The copy of a publication that is sent again. -/
def again (publish : V5.MqttPublish) : V5.MqttPublish := { publish with dup := true }

def pubrelOf (publish : V5.MqttPublish) : V5.PacketIdAck := ⟨idOf publish, 0, []⟩

/-- The order of the maps agrees with that of the outbox: at most one exchange of each kind is
outstanding, or trees find the identifiers ascending. -/
def OrderKept (O : Order) (outbox : Outbox) : Prop :=
  outbox.sent.length ≤ 1 ∧ outbox.released.length ≤ 1 ∨
  O.ids = Order.ascending.ids ∧ (outbox.sent.map idOf).Pairwise (· ≤ ·) ∧
    (outbox.released.map idOf).Pairwise (· ≤ ·)

theorem eq_of_perm_of_length_le_one {α : Type} {list other : List α} (h : list.Perm other)
    (hlength : other.length ≤ 1) : list = other := by
  match other, hlength with
  | [], _ => exact h.eq_nil
  | [a], _ => exact List.perm_singleton.mp h

theorem ascending_eq {keys ids : List UInt16} (h : keys.Perm ids) (hsorted : ids.Pairwise (· ≤ ·)) :
    Order.ascending.ids keys = ids := by
  have hkeys : (Order.ascending.ids keys).Pairwise (· ≤ ·) := List.pairwise_insertionSort _ keys
  exact List.Perm.eq_of_pairwise (fun a b _ _ => UInt16.le_antisymm) hkeys hsorted
    ((Order.ascending.ids_perm keys).trans h)

/-- Under the condition, the keys come in the order of the outbox. -/
theorem order_kept {keys ids : List UInt16} (h : keys.Perm ids)
    (hkept : ids.length ≤ 1 ∨ O.ids = Order.ascending.ids ∧ ids.Pairwise (· ≤ ·)) :
    O.ids keys = ids := by
  rcases hkept with hlength | ⟨hascending, hsorted⟩
  · exact eq_of_perm_of_length_le_one ((O.ids_perm keys).trans h) hlength
  · rw [hascending]
    exact ascending_eq h hsorted

theorem Tracks.sentAgain_eq (h : Tracks receiveMaximum s outbox) :
    (s.resendPendingMessages O).1.filterMap sentAgain = (s.resent O).1 := by
  have hdup : ((s.resent O).1.map MqttPacket.publish5).filterMap sentAgain = (s.resent O).1 := by
    rw [List.filterMap_map]
    refine (List.filterMap_congr fun publish hpublish => ?_).trans List.filterMap_some
    obtain ⟨stored, -, rfl⟩ := List.mem_map.mp hpublish
    rfl
  have hpubrel : ((s.resent O).2.map MqttPacket.pubRel5).filterMap sentAgain = [] := by
    rw [List.filterMap_map]
    exact List.filterMap_eq_nil_iff.mpr fun _ _ => rfl
  have hfirst : (s.takePendingMessages.1.map MqttPacket.publish5).filterMap sentAgain = [] := by
    rw [List.filterMap_map, List.filterMap_eq_nil_iff]
    intro publish hpublish
    have hdup := (h.taken publish hpublish).2
    simp [sentAgain, hdup]
  rw [resendPendingMessages, List.filterMap_append, List.filterMap_append, hdup, hpubrel, hfirst,
    List.append_nil, List.append_nil]

theorem sentPubrel_eq :
    (s.resendPendingMessages O).1.filterMap sentPubrel = (s.resent O).2 := by
  have hpublish (packets : List V5.MqttPublish) :
      (packets.map MqttPacket.publish5).filterMap sentPubrel = [] := by
    rw [List.filterMap_map]
    exact List.filterMap_eq_nil_iff.mpr fun _ _ => rfl
  have hpubrel : ((s.resent O).2.map MqttPacket.pubRel5).filterMap sentPubrel = (s.resent O).2 := by
    rw [List.filterMap_map]
    exact List.filterMap_some
  rw [resendPendingMessages, List.filterMap_append, List.filterMap_append, hpublish, hpublish,
    hpubrel, List.nil_append, List.append_nil]

/-- Maps that are iterated by descending identifiers, as a hash map may be. -/
def Order.descending : Order where
  ids list := (Order.ascending.ids list).reverse
  topics list := list
  ids_perm list := (List.reverse_perm _).trans (Order.ascending.ids_perm list)
  topics_perm list := .refl list

end ServerSession

end FlowSdk
