/-
  FlowSdk.Refine.Restore — loading a saved session, whatever it contains.

  A saved session is data from outside: it may name an identifier twice, hold packets of the
  wrong kind or version, or exceed the limits of the engine. Three loops check it, and the
  engine is changed only after all of them have passed. What an accepted session guarantees is
  collected in `Restored`, each field from the checks alone.

  Main result:
    1. `restoreSessionState_all_or_nothing`   refused without a trace, or `Restored`
-/
import FlowSdk.Refine.Basic
import FlowSdk.Serde.RoundTrip
import Mathlib.Data.Finset.Lattice.Lemmas

namespace FlowSdk

open Machine Wire

variable {T : Type} {B : Build}

/-! ## What a session may keep -/

namespace MqttPacket

/-- The identifier of a packet that a session may keep. -/
def keptId : MqttPacket → Option UInt16
  | .publish5 p => p.packetId
  | .publish3 p => p.messageId
  | .pubRel5 p => some p.packetId
  | .pubRel3 p => some p.messageId
  | .subscribe5 p => some p.packetId
  | .subscribe3 p => some p.messageId
  | .unsubscribe5 p => some p.packetId
  | .unsubscribe3 p => some p.messageId
  | _ => none

/-- The kinds of packets that may wait for an answer. -/
def outstandingKind (packet : MqttPacket) : Prop :=
  packet.packetType = .publish ∨ packet.packetType = .pubrel ∨ packet.packetType = .subscribe ∨
    packet.packetType = .unsubscribe

end MqttPacket

/-- A packet that a session may keep, in the queue or outstanding. -/
structure Keepable (mqttVersion : UInt8) (queued : Bool) (packet : MqttPacket) : Prop where
  version : packet.wireVersion = if mqttVersion = 5 then 5 else 4
  kind : if queued then packet.packetType = .publish else packet.outstandingKind
  aliasFree : packet.withoutAlias = packet
  nonzero : packet.keptId ≠ some 0
  identified : queued = false → packet.keptId.isSome

namespace MqttEngine

/-- The identifiers of the queued publications. -/
def queuedIds (e : MqttEngine T) : List UInt16 :=
  e.priorityQueue.items.filterMap (fun item => item.2.packet.keptId)

/-- The identifiers that a restored engine has in use. -/
def keptIds (e : MqttEngine T) : List UInt16 := e.previousInflight.map Prod.fst ++ e.queuedIds

/-- `after` holds the saved session, and what the engine relies on is true of it. -/
structure Restored (B : Build) (saved : ClientSessionState) (after : MqttEngine T) : Prop where
  distinct : after.keptIds.Nodup
  nonzero : ∀ id ∈ after.keptIds, id ≠ 0
  reserved : after.state.reserved = after.keptIds.toFinset
  outbound : ∀ entry ∈ after.previousInflight, Keepable after.mqttVersion false entry.2 ∧
    entry.2.keptId = some entry.1 ∧ entry.2.Encodable B.strict
  queued : ∀ item ∈ after.priorityQueue.items, Keepable after.mqttVersion true item.2.packet ∧
    item.2.packet.Encodable B.strict
  queuedBytes : after.state.queuedBytes =
    (after.priorityQueue.items.map (fun item => item.2.packet.size B.strict)).sum
  within : ∀ limit ∈ after.options.maxOutgoingBufferBytes,
    after.state.queuedBytes + max after.state.controlReserve after.state.replayReserve ≤ limit
  /-- nothing that was accepted is missing -/
  complete : after.previousInflight = saved.outbound ∧
    (after.priorityQueue.items.map (fun item => (item.1, item.2.packet))).Perm saved.queued
  incoming : after.state.received ≠ ∅ → after.state.hasSession = true

/-! ## One packet -/

theorem savedPublish_some {mqttVersion : UInt8} {packet : MqttPacket}
    {fields : UInt8 × Option UInt16 × String × Bool}
    (h : savedPublish mqttVersion packet = .ok (some fields)) :
    packet.packetType = .publish ∧ packet.wireVersion = (if mqttVersion = 5 then 5 else 4) ∧
      packet.withoutAlias = packet ∧ packet.keptId = fields.2.1 := by
  unfold savedPublish at h
  split at h
  next p =>
    split at h
    next h5 =>
      obtain ⟨halias, heq⟩ := check_bind_eq_ok.mp h
      cases heq
      rw [rejectIf_eq_ok, Bool.not_eq_true, List.any_eq_false] at halias
      have hfilter : p.properties.filter (·.id ≠ .topicAlias) = p.properties := by
        refine List.filter_eq_self.mpr fun prop hprop => ?_
        simpa using halias prop hprop
      refine ⟨rfl, (if_pos h5).symm, ?_, rfl⟩
      rw [MqttPacket.withoutAlias, hfilter]
    next => cases h
  next p =>
    split at h
    next h3 =>
      cases h
      exact ⟨rfl, (if_neg h3).symm, rfl, rfl⟩
    next => cases h
  next => cases h

theorem savedRequest_some {mqttVersion : UInt8} {packet : MqttPacket} {id : UInt16}
    (h : savedRequest mqttVersion packet = some id) :
    packet.outstandingKind ∧ packet.wireVersion = (if mqttVersion = 5 then 5 else 4) ∧
      packet.withoutAlias = packet ∧ packet.keptId = some id := by
  unfold savedRequest at h
  split at h
  case h_7 => cases h
  all_goals
    obtain ⟨hversion, hid⟩ := Option.ite_none_right_eq_some.mp h
    simp [MqttPacket.outstandingKind, MqttPacket.packetType, MqttPacket.wireVersion,
      MqttPacket.withoutAlias, MqttPacket.keptId, hversion, Option.some.inj hid]

theorem savedPacketId_ok {packet : MqttPacket} {mqttVersion : UInt8} {queued : Bool}
    {id : Option UInt16} (h : savedPacketId packet mqttVersion queued = .ok id) :
    Keepable mqttVersion queued packet ∧ packet.keptId = id := by
  obtain ⟨found, hfound, h⟩ := bind_eq_ok.mp h
  cases found with
  | some fields =>
    obtain ⟨hkind, hversion, halias, hid⟩ := savedPublish_some hfound
    obtain ⟨qos, pid, topic, dup⟩ := fields
    obtain ⟨hcheck, heq⟩ := check_bind_eq_ok.mp h
    obtain rfl : pid = id := Except.ok.inj heq
    rw [rejectIf_eq_ok] at hcheck
    push Not at hcheck
    obtain ⟨-, -, -, hzero, hpos⟩ := hcheck
    -- the identifier of QoS 0 is absent, that of any other QoS present and not zero
    have hnonzero : pid ≠ some 0 := by
      by_cases hq : qos = 0
      · rintro rfl
        exact absurd (hzero hq).1 (by simp)
      · exact (hpos (UInt8.pos_iff_ne_zero.mpr hq)).2
    refine ⟨⟨hversion, ?_, halias, hid ▸ hnonzero, fun hq => ?_⟩, hid⟩
    · cases queued with
      | true => exact hkind
      | false => exact .inl hkind
    · rw [hid]
      have hqos : qos ≠ 0 := fun h0 => absurd (hzero h0).2.2 (by simp [hq])
      exact Option.isSome_iff_ne_none.mpr (hpos (UInt8.pos_iff_ne_zero.mpr hqos)).1
  | none =>
    obtain ⟨hqueued, hid⟩ := check_bind_eq_ok.mp h
    rw [rejectIf_eq_ok, Bool.not_eq_true] at hqueued
    subst hqueued
    cases hrequest : savedRequest mqttVersion packet with
    | none =>
      rw [hrequest] at hid
      cases hid
    | some found =>
      obtain ⟨hkind, hversion, halias, hkept⟩ := savedRequest_some hrequest
      rw [hrequest] at hid
      obtain ⟨hzero, heq⟩ := check_bind_eq_ok.mp hid
      obtain rfl : some found = id := Except.ok.inj heq
      rw [rejectIf_eq_ok] at hzero
      refine ⟨⟨hversion, hkind, halias, ?_, fun _ => by rw [hkept]; rfl⟩, hkept⟩
      rw [hkept]
      exact fun heq => hzero (Option.some.inj heq)

/-! ## The loops -/

theorem encoded_size {packet : MqttPacket} {bytes : Bytes} (h : encoded B packet = .ok bytes) :
    packet.Encodable B.strict ∧ packet.size B.strict = bytes.length := by
  have hbytes := encoded_eq_ok.mp h
  refine ⟨⟨bytes, hbytes⟩, ?_⟩
  rw [MqttPacket.size, hbytes]

theorem loadOutbound_ok {mqttVersion : UInt8} : ∀ {list : List (UInt16 × MqttPacket)}
    {reserved : Finset UInt16} {reserve : Nat} {result : Finset UInt16 × Nat},
    loadOutbound B mqttVersion list (reserved, reserve) = .ok result →
      (∀ entry ∈ list, Keepable mqttVersion false entry.2 ∧ entry.2.keptId = some entry.1 ∧
        entry.2.Encodable B.strict) ∧
      (list.map Prod.fst).Nodup ∧ (∀ id ∈ list.map Prod.fst, id ∉ reserved) ∧
      result.1 = reserved ∪ (list.map Prod.fst).toFinset
  | [], reserved, reserve, result, h => by
    cases h
    simp
  | (id, packet) :: rest, reserved, reserve, result, h => by
    obtain ⟨found, hfound, h⟩ := bind_eq_ok.mp h
    obtain ⟨hcheck, hload⟩ := check_bind_eq_ok.mp h
    obtain ⟨bytes, hbytes, hload⟩ := bind_eq_ok.mp hload
    rw [rejectIf_eq_ok, not_or, not_not] at hcheck
    obtain ⟨rfl, hfresh⟩ := hcheck
    obtain ⟨hkeep, hid⟩ := savedPacketId_ok hfound
    obtain ⟨hrest, hnodup, hnew, hresult⟩ := loadOutbound_ok hload
    refine ⟨List.forall_mem_cons.mpr ⟨⟨hkeep, hid, (encoded_size hbytes).1⟩, hrest⟩, ?_, ?_, ?_⟩
    · refine List.nodup_cons.mpr ⟨fun hmem => ?_, hnodup⟩
      exact hnew id hmem (Finset.mem_insert_self id reserved)
    · refine List.forall_mem_cons.mpr ⟨hfresh, fun other hother hmem => ?_⟩
      exact hnew other hother (Finset.mem_insert_of_mem hmem)
    · rw [hresult, List.map_cons, List.toFinset_cons, Finset.insert_union, Finset.union_insert]

/-- What is true of the queue after the publications `read`, beside the outstanding `ids`. -/
structure LoadedQueue.Sound (B : Build) (mqttVersion : UInt8) (ids : List UInt16)
    (read : List (UInt8 × MqttPacket)) (loaded : LoadedQueue) : Prop where
  complete : (loaded.queue.items.map (fun item => (item.1, item.2.packet))).Perm read
  kept : ∀ entry ∈ read, Keepable mqttVersion true entry.2 ∧ entry.2.Encodable B.strict
  distinct : (ids ++ read.filterMap (fun entry => entry.2.keptId)).Nodup
  reserved : loaded.reserved = (ids ++ read.filterMap (fun entry => entry.2.keptId)).toFinset
  queuedBytes : loaded.queuedBytes = (read.map (fun entry => entry.2.size B.strict)).sum

theorem LoadedQueue.Sound.add {mqttVersion : UInt8} {ids : List UInt16}
    {read : List (UInt8 × MqttPacket)} {loaded : LoadedQueue} {priority : UInt8}
    {packet : MqttPacket} {bytes : Bytes} (hs : loaded.Sound B mqttVersion ids read)
    (hroom : loaded.queue.size < loaded.queue.capacity)
    (hkeep : Keepable mqttVersion true packet)
    (hfresh : ∀ id ∈ packet.keptId, id ∉ loaded.reserved)
    (hbytes : encoded B packet = .ok bytes) :
    (loaded.add priority packet packet.keptId bytes.length).Sound B mqttVersion ids
      (read ++ [(priority, packet)]) := by
  obtain ⟨hencodable, hsize⟩ := encoded_size hbytes
  constructor
  case complete =>
    have hitems (ticket : Nat) : ((loaded.queue.enqueue priority ⟨packet, ticket⟩).items.map
        (fun item => (item.1, item.2.packet))).Perm (read ++ [(priority, packet)]) := by
      rw [PriorityQueue.items_enqueue hroom]
      refine ((List.perm_orderedInsert _ _ _).map _).trans ?_
      exact (hs.complete.cons _).trans (List.perm_append_singleton _ _).symm
    exact hitems _
  case kept =>
    intro entry hentry
    rcases List.mem_append.mp hentry with hold | hnew
    · exact hs.kept entry hold
    · obtain rfl := List.mem_singleton.mp hnew
      exact ⟨hkeep, hencodable⟩
  case distinct =>
    have hdistinct := hs.distinct
    cases hid : packet.keptId with
    | none => simpa [hid] using hdistinct
    | some id =>
      have hnew := hfresh id (by rw [hid]; rfl)
      rw [hs.reserved, List.mem_toFinset] at hnew
      rw [List.filterMap_append, ← List.append_assoc]
      simp only [List.filterMap_cons, hid, List.filterMap_nil]
      exact List.nodup_append.mpr ⟨hdistinct, List.nodup_singleton id, fun a ha b hb heq =>
        hnew (List.mem_singleton.mp hb ▸ heq ▸ ha)⟩
  case reserved =>
    show packet.keptId.elim loaded.reserved (insert · loaded.reserved) = _
    ext other
    cases hid : packet.keptId with
    | none => simp [hs.reserved, hid]
    | some id =>
      simp only [Option.elim, hs.reserved, Finset.mem_insert, List.mem_toFinset, List.mem_append,
        List.filterMap_append, List.filterMap_cons, hid, List.filterMap_nil, List.mem_singleton]
      rw [or_comm, or_assoc]
  case queuedBytes =>
    show loaded.queuedBytes + bytes.length = _
    rw [hs.queuedBytes, List.map_append, List.sum_append, ← hsize]
    simp

theorem loadQueued_sound {mqttVersion : UInt8} {ids : List UInt16} :
    ∀ {list read : List (UInt8 × MqttPacket)} {loaded result : LoadedQueue},
    loaded.Sound B mqttVersion ids read →
    loaded.queue.size + list.length ≤ loaded.queue.capacity →
    loadQueued B mqttVersion list loaded = .ok result →
      result.Sound B mqttVersion ids (read ++ list)
  | [], read, loaded, result, hs, _, h => by
    cases h
    rw [List.append_nil]
    exact hs
  | (priority, packet) :: rest, read, loaded, result, hs, hroom, h => by
    obtain ⟨id, hid, h⟩ := bind_eq_ok.mp h
    obtain ⟨hfresh, h⟩ := check_bind_eq_ok.mp h
    obtain ⟨bytes, hbytes, h⟩ := bind_eq_ok.mp h
    obtain ⟨hkeep, rfl⟩ := savedPacketId_ok hid
    rw [rejectIf_eq_ok] at hfresh
    rw [List.length_cons] at hroom
    have hfree : loaded.queue.size < loaded.queue.capacity := by omega
    have hnext : (loaded.add priority packet packet.keptId bytes.length).Sound B mqttVersion ids
        (read ++ [(priority, packet)]) := hs.add hfree hkeep
      (fun other hother hmem => hfresh (by rw [hother]; simpa using hmem)) hbytes
    have hsize : (loaded.add priority packet packet.keptId bytes.length).queue.size =
        loaded.queue.size + 1 := PriorityQueue.enqueue_size hfree _ _
    have hcapacity : (loaded.add priority packet packet.keptId bytes.length).queue.capacity =
        loaded.queue.capacity := PriorityQueue.enqueue_capacity _ _ _
    have hresult := loadQueued_sound hnext (by omega) h
    rwa [List.append_assoc] at hresult

theorem loadReceived_empty {hasSession : Bool} {list : List ReceivedExchange}
    {start received : AList (fun _ : ReceiveKey => ReceiveStage)}
    (h : loadReceived hasSession list start = .ok received) :
    hasSession = true ∨ received = start := by
  cases list with
  | nil =>
    cases h
    exact .inr rfl
  | cons entry rest =>
    obtain ⟨hcheck, -⟩ := check_bind_eq_ok.mp h
    rw [rejectIf_eq_ok, not_or, not_not] at hcheck
    exact .inl hcheck.1

/-! ## The whole session -/

theorem loadSession_restored {saved : ClientSessionState} {e : MqttEngine T}
    {loaded : LoadedSession} (h : e.loadSession B saved = .ok loaded) :
    Restored B saved (e.commitSession saved loaded) := by
  obtain ⟨hcheck, h⟩ := check_bind_eq_ok.mp h
  obtain ⟨⟨reserved, reserve⟩, houtbound, h⟩ := bind_eq_ok.mp h
  obtain ⟨queue, hqueue, h⟩ := bind_eq_ok.mp h
  obtain ⟨control, -, h⟩ := bind_eq_ok.mp h
  obtain ⟨hroom, h⟩ := check_bind_eq_ok.mp h
  obtain ⟨received, hreceived, heq⟩ := bind_eq_ok.mp h
  cases heq
  simp only [restoreCheck, check_bind_eq_ok, rejectIf_eq_ok, not_or, not_not] at hcheck
  obtain ⟨-, -, -, ⟨-, -, -, hversion, -⟩, hlength⟩ := hcheck
  obtain ⟨hkept, hnodup, -, hreserved⟩ := loadOutbound_ok houtbound
  have hstart : LoadedQueue.Sound B saved.mqttVersion (saved.outbound.map Prod.fst) []
      ⟨PriorityQueue.new e.options.maxOutgoingPacketCount, reserved, 0, reserve,
        (saved.outbound.map (fun entry => Obs.inherited entry.1)).reverse ++ e.trace⟩ :=
    ⟨.nil, fun _ hmem => (by cases hmem), by simpa using hnodup, by simpa using hreserved, rfl⟩
  have hsound := loadQueued_sound hstart
    (by show 0 + saved.queued.length ≤ e.options.maxOutgoingPacketCount; omega) hqueue
  rw [List.nil_append] at hsound
  have hids : (queue.queue.items.filterMap (fun item => item.2.packet.keptId)).Perm
      (saved.queued.filterMap (fun entry => entry.2.keptId)) := by
    have hperm := hsound.complete.filterMap (fun entry => entry.2.keptId)
    rwa [List.filterMap_map] at hperm
  have hall := hids.append_left (saved.outbound.map Prod.fst)
  have hqueued : ∀ item ∈ queue.queue.items, Keepable saved.mqttVersion true item.2.packet ∧
      item.2.packet.Encodable B.strict := fun item hitem =>
    hsound.kept _ (hsound.complete.mem_iff.mp (List.mem_map_of_mem hitem))
  rw [hversion] at hkept hqueued
  constructor
  case distinct => exact hall.nodup_iff.mpr hsound.distinct
  case nonzero =>
    intro id hid
    rcases List.mem_append.mp hid with hout | hq
    · obtain ⟨entry, hentry, rfl⟩ := List.mem_map.mp hout
      obtain ⟨hkeep, heq, -⟩ := hkept entry hentry
      exact fun hzero => hkeep.nonzero (by rw [heq, hzero])
    · obtain ⟨item, hitem, heq⟩ := List.mem_filterMap.mp hq
      exact fun hzero => (hqueued item hitem).1.nonzero (by rw [heq, hzero])
  case reserved => exact hsound.reserved.trans (List.toFinset_eq_of_perm _ _ hall.symm)
  case outbound => exact hkept
  case queued => exact hqueued
  case queuedBytes =>
    have hsum := (hsound.complete.map (fun entry => entry.2.size B.strict)).sum_nat
    rw [List.map_map] at hsum
    exact hsound.queuedBytes.trans hsum.symm
  case within =>
    intro limit hlimit
    have hle := rejectOver_eq_ok.mp hroom limit hlimit
    exact Nat.le_trans (Nat.le_add_left _ _) hle
  case complete => exact ⟨rfl, hsound.complete⟩
  case incoming =>
    intro hne
    exact (loadReceived_empty hreceived).resolve_right hne

/-- Whatever the saved session and the engine: refused and nothing changed, or restored. -/
theorem restoreSessionState_all_or_nothing (B : Build) (saved : ClientSessionState)
    (e : MqttEngine T) :
    (∃ error, restoreSessionState B saved e = .done (.error error) e) ∨
      ∃ after, restoreSessionState B saved e = .done (.ok ()) after ∧ Restored B saved after := by
  cases hload : e.loadSession B saved with
  | error error =>
    refine .inl ⟨error, Eff.bind_of_error ?_⟩
    rw [Eff.ask_run, hload]
  | ok loaded =>
    have hask : Eff.ask (fun e : MqttEngine T => e.loadSession B saved) e =
        .done (.ok loaded) e := by rw [Eff.ask_run, hload]
    refine .inr ⟨e.commitSession saved loaded, ?_, loadSession_restored hload⟩
    exact (Eff.bind_of_ok hask).trans rfl

end MqttEngine

end FlowSdk
