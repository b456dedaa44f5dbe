/-
  FlowSdk.Client.Memory — the memory of the engine is bounded.

  `Stored` ties the byte counter to the queue and states the bounds on the queue, the output
  and the input. It also says that every queued packet has an encoding and keeps one without
  its topic alias; so nothing is evicted from the queue and nothing in it is broken.
-/
import FlowSdk.Client.Step
import Mathlib.Algebra.BigOperators.Group.List.Basic
import Mathlib.Data.List.Sort

namespace FlowSdk

open Machine Wire Ledger

variable {T : Type} [TimePoint T] {strict : Bool} {P : Permit} {l l' : Ledger T}

/-! ## Packets without topic alias -/

namespace MqttPacket

@[simp] theorem withoutAlias_withoutAlias (packet : MqttPacket) :
    packet.withoutAlias.withoutAlias = packet.withoutAlias := by
  cases packet <;> simp [withoutAlias, List.filter_filter]

@[simp] theorem qos_withoutAlias (packet : MqttPacket) : packet.withoutAlias.qos = packet.qos := by
  cases packet <;> rfl

@[simp] theorem publishId_withoutAlias (packet : MqttPacket) :
    packet.withoutAlias.publishId = packet.publishId := by
  cases packet <;> rfl

@[simp] theorem isPublish_withoutAlias (packet : MqttPacket) :
    packet.withoutAlias.isPublish = packet.isPublish := by
  cases packet <;> rfl

@[simp] theorem tracked_withoutAlias (packet : MqttPacket) :
    packet.withoutAlias.tracked = packet.tracked := by
  rw [tracked, tracked, qos_withoutAlias, publishId_withoutAlias]

end MqttPacket

/-! ## What the queue holds -/

/-- A queued packet has an encoding, also without its topic alias. -/
structure Storable (strict : Bool) (P : Permit) (packet : MqttPacket) : Prop where
  encodable : packet.Encodable strict
  plain : packet.withoutAlias.Encodable strict
  shrinks : P.huge ∨ packet.withoutAlias.size strict ≤ packet.size strict

theorem Storable.withoutAlias {packet : MqttPacket} (h : Storable strict P packet) :
    Storable strict P packet.withoutAlias :=
  ⟨h.plain, by simpa using h.plain, .inr (by simp)⟩

theorem Ledger.Publishes.storable {packet : MqttPacket} {id : Option UInt16}
    (h : Publishes strict P packet id) : Storable strict P packet :=
  ⟨h.encodable, h.plain, h.shrinks⟩

structure Stored (strict : Bool) (P : Permit) (l : Ledger T) : Prop where
  capacity : l.capacity = l.limits.maxPackets
  packets : ∀ item ∈ l.queue, Storable strict P item.2.packet
  queuedBytes : l.queuedBytes = queueSize strict l.queue
  queued : l.queue.length ≤ l.limits.maxPackets
  outgoing : l.outgoing.length ≤ l.limits.maxPackets
  buffered : ∀ limit ∈ l.limits.maxIncoming, l.buffered ≤ limit
  bytes : P.huge ∨ ∀ limit ∈ l.limits.maxOutgoing, l.queuedBytes + l.unsent ≤ limit

/-! ## Changes of the queue -/

omit [TimePoint T] in
theorem perm_enqueue (priority : UInt8) (packet : MqttPacket) (n : Nat) (l : Ledger T) :
    (l.enqueue priority packet n).queue.Perm ((priority, ⟨packet, l.trace.length⟩) :: l.queue) :=
  List.perm_orderedInsert _ _ _

theorem queueSize_perm {queue queue' : List (UInt8 × Queued)} (h : queue.Perm queue') :
    queueSize strict queue = queueSize strict queue' :=
  (h.map _).sum_eq

theorem queueSize_cons (item : UInt8 × Queued) (rest : List (UInt8 × Queued)) :
    queueSize strict (item :: rest) = item.2.packet.size strict + queueSize strict rest := rfl

theorem queueSize_stripped (queue : List (UInt8 × Queued))
    (h : ∀ item ∈ queue, item.2.packet.withoutAlias.size strict ≤ item.2.packet.size strict) :
    queueSize strict (stripped queue) ≤ queueSize strict queue := by
  induction queue with
  | nil => exact Nat.le_refl _
  | cons item rest ih =>
    obtain ⟨hitem, hrest⟩ := List.forall_mem_cons.mp h
    exact Nat.add_le_add hitem (ih hrest)

omit [TimePoint T] in
theorem unsent_append (l : Ledger T) (origin : Origin) (packet : MqttPacket) (bytes : Bytes) :
    (l.append origin packet bytes).unsent = l.unsent + bytes.length := by
  show ((l.outgoing ++ [bytes]).map List.length).sum = _
  rw [List.map_append, List.sum_append, List.map_singleton, List.sum_singleton]
  rfl

namespace Stored

omit [TimePoint T] in
theorem finish (ih : Stored strict P l) (id : UInt16) (ev : MqttEvent) :
    Stored strict P (l.finish id ev) := { ih with }

omit [TimePoint T] in
/-- A permit matters only for publications that grow. -/
theorem under {P' : Permit} (ih : Stored strict P l) (huge : P.huge → P'.huge) :
    Stored strict P' l where
  capacity := ih.capacity
  packets item hitem :=
    let stored := ih.packets item hitem
    ⟨stored.encodable, stored.plain, stored.shrinks.imp_left huge⟩
  queuedBytes := ih.queuedBytes
  queued := ih.queued
  outgoing := ih.outgoing
  buffered := ih.buffered
  bytes := ih.bytes.imp_left huge

/-! The queue never evicts, and what it holds can always be sent. -/

omit [TimePoint T] in
theorem not_full (ih : Stored strict P l) (room : l.queue.length < l.limits.maxPackets)
    (full : l.capacity ≤ l.queue.length) : False :=
  absurd (ih.capacity ▸ full) (Nat.not_le.mpr room)

omit [TimePoint T] in
theorem not_broken (ih : Stored strict P l) {priority : UInt8} {item : Queued}
    {rest : List (UInt8 × Queued)} (front : l.queue = (priority, item) :: rest)
    (unencodable : ¬ item.packet.Encodable strict) : False :=
  unencodable (ih.packets _ (front ▸ List.mem_cons_self)).encodable

theorem not_stalled (ih : Stored strict P l) (possible : Possible strict l .queuedPacket) :
    False := by
  obtain ⟨item, hitem, hbad⟩ := possible
  exact hbad (ih.packets item hitem).plain

omit [TimePoint T] in
/-- A publication that fits is inserted. -/
theorem enqueue (ih : Stored strict P l) {packet : MqttPacket} (priority : UInt8)
    (storable : Storable strict P packet) (room : l.QueueRoom (packet.size strict)) :
    Stored strict P (l.enqueue priority packet (packet.size strict)) := by
  have hperm := perm_enqueue priority packet (packet.size strict) l
  refine { ih with packets := ?_, queuedBytes := ?_, queued := ?_, bytes := ?_ }
  · intro item hitem
    rcases List.mem_cons.mp (hperm.mem_iff.mp hitem) with rfl | hitem
    · exact storable
    · exact ih.packets item hitem
  · rw [queueSize_perm hperm, queueSize_cons, ← ih.queuedBytes]
    exact Nat.add_comm _ _
  · rw [hperm.length_eq]
    exact room.1
  · refine .inr fun limit hlimit => ?_
    have := room.2 limit hlimit
    show l.queuedBytes + packet.size strict + l.unsent ≤ limit
    omega

omit [TimePoint T] in
/-- The publication in front leaves with its bytes. -/
theorem dequeue (ih : Stored strict P l) {item : UInt8 × Queued} {rest : List (UInt8 × Queued)}
    (front : l.queue = item :: rest) :
    Stored strict P (l.dequeue rest (item.2.packet.size strict)) ∧
      (l.dequeue rest (item.2.packet.size strict)).queuedBytes + item.2.packet.size strict =
        l.queuedBytes := by
  have hbytes := ih.queuedBytes
  rw [front, queueSize_cons] at hbytes
  have hqueued := ih.queued
  rw [front, List.length_cons] at hqueued
  have hle : (l.dequeue rest (item.2.packet.size strict)).queuedBytes = queueSize strict rest := by
    show l.queuedBytes - item.2.packet.size strict = _
    omega
  refine ⟨{ ih with packets := ?_, queuedBytes := hle, queued := ?_, bytes := ?_ }, ?_⟩
  · intro i hi
    exact ih.packets i (front ▸ List.mem_cons_of_mem _ hi)
  · exact Nat.le_of_succ_le hqueued
  · refine ih.bytes.imp_right fun h limit hlimit => ?_
    have := h limit hlimit
    rw [hle]
    show queueSize strict rest + l.unsent ≤ limit
    omega
  · rw [hle]
    omega

omit [TimePoint T] in
theorem append (ih : Stored strict P l) {bytes : Bytes} (room : l.Room bytes.length)
    (origin : Origin) (packet : MqttPacket) : Stored strict P (l.append origin packet bytes) := by
  refine { ih with outgoing := ?_, bytes := ?_ }
  · show (l.outgoing ++ [bytes]).length ≤ _
    rw [List.length_append]
    exact room.1
  · refine .inr fun limit hlimit => ?_
    have := room.2 limit hlimit
    show l.queuedBytes + (l.append origin packet bytes).unsent ≤ limit
    rw [unsent_append]
    omega

omit [TimePoint T] in
theorem close (ih : Stored strict P l) : Stored strict P l.close :=
  { ih with buffered := fun _ _ => Nat.zero_le _ }

omit [TimePoint T] in
/-- The bytes of a queued publication move to the output. -/
theorem moved (ih : Stored strict P l) {item : UInt8 × Queued} {rest : List (UInt8 × Queued)}
    (front : l.queue = item :: rest) (count : l.outgoing.length < l.limits.maxPackets)
    (origin : Origin) {bytes : Bytes} (encodes : item.2.packet.toBytes strict = .ok bytes) :
    Stored strict P
      ((l.dequeue rest (item.2.packet.size strict)).append origin item.2.packet bytes) := by
  obtain ⟨h, hsum⟩ := ih.dequeue front
  refine { h with outgoing := ?_, bytes := ?_ }
  · show (l.outgoing ++ [_]).length ≤ _
    rw [List.length_append]
    exact count
  · refine ih.bytes.imp_right fun h limit hlimit => ?_
    have := h limit hlimit
    show (l.dequeue rest _).queuedBytes + ((l.dequeue rest _).append origin _ bytes).unsent ≤ limit
    rw [unsent_append, ← MqttPacket.size_eq encodes]
    show _ + (l.unsent + _) ≤ limit
    omega

omit [TimePoint T] in
theorem reset (ih : Stored strict P l) : Stored strict P (l.reset strict) := by
  refine { ih with
    packets := ?_
    queuedBytes := rfl
    queued := ?_
    outgoing := Nat.zero_le _
    buffered := fun _ _ => Nat.zero_le _
    bytes := ?_ }
  · intro item hitem
    obtain ⟨i, hi, rfl⟩ := List.mem_map.mp hitem
    exact (ih.packets i hi).withoutAlias
  · show (stripped l.queue).length ≤ _
    rw [stripped, List.length_map]
    exact ih.queued
  · by_cases huge : P.huge
    · exact .inl huge
    · refine .inr fun limit hlimit => ?_
      have hshrink := queueSize_stripped l.queue
        (fun item hitem => (ih.packets item hitem).shrinks.resolve_left huge)
      have := ih.bytes.resolve_left huge limit hlimit
      rw [ih.queuedBytes] at this
      show queueSize strict (stripped l.queue) + 0 ≤ limit
      omega

end Stored

omit [TimePoint T] in
theorem stored_blank (limits : Limits) (timeout : Nat) (retry : Retry T) (now : T)
    (trace : List Obs) : Stored strict P (blank limits timeout retry now trace) where
  capacity := rfl
  packets := fun _ h => (by cases h)
  queuedBytes := rfl
  queued := Nat.zero_le _
  outgoing := Nat.zero_le _
  buffered := fun _ _ => Nat.zero_le _
  bytes := .inr fun _ _ => Nat.zero_le _

theorem stored_step (h : Step strict P l l') (ih : Stored strict P l) : Stored strict P l' := by
  cases h with
  | evict room full => exact (ih.not_full room full).elim
  | broken _ _ _ front unencodable => exact (ih.not_broken front unencodable).elim
  | append origin packet bytes encodes room => exact ih.append room origin packet
  | flushed takes =>
    refine { ih with outgoing := Nat.zero_le _, bytes := ih.bytes.imp_right fun h limit hlimit => ?_ }
    exact Nat.le_trans (Nat.le_add_right _ _) (h limit hlimit)
  | input n bounded =>
    refine { ih with buffered := fun limit hlimit => ?_ }
    exact bounded.elim (fun hn => Nat.le_trans hn (ih.buffered limit hlimit)) (· limit hlimit)
  | accept id priority packet publishes free room =>
    cases id with
    | none => exact ih.enqueue priority publishes.storable room.without_spare
    | some id =>
      have hreserve : Stored strict P (l.reserve id (packet.size strict)) := { ih with }
      exact hreserve.enqueue priority publishes.storable room.without_spare
  | requeue id priority packet loading done publishes free room =>
    cases id with
    | none => exact ih.enqueue priority publishes.storable room.without_spare
    | some id =>
      have hinherit : Stored strict P (l.inherit id) := { ih with }
      exact hinherit.enqueue priority publishes.storable room.without_spare
  | send priority item rest bytes front drains encodes count =>
    have hmoved := ih.moved front count (.queue priority item.ticket) encodes
    cases htracked : item.packet.tracked with
    | none => exact hmoved
    | some id => exact { hmoved with }
  | reject priority item rest id error front => exact (ih.dequeue front).1.finish id _
  | drop priority item rest error front => exact { (ih.dequeue front).1 with }
  | resend id packet rest bytes front connected settled encodes room =>
    exact { ih.append room .replay packet with }
  | untracked id packet rest bytes error front connected settled encodes room =>
    have hsent : Stored strict P ({ l with replay := rest }.append .replay packet bytes) :=
      { ih.append room .replay packet with }
    exact hsent.finish id _
  | abort id packet rest =>
    have hrest : Stored strict P { l with replay := rest } := { ih with }
    exact hrest.finish id _
  | complete stream ack id packet ev =>
    have hrecord : Stored strict P (l.record (.completed ack)) := { ih with }
    exact hrecord.finish id ev
  | expire id packet rest =>
    have hrest : Stored strict P { l with restoring := rest } := { ih with }
    exact hrest.finish id _
  | connect packet bytes opens idle closed unstale isConnect encodes room =>
    exact { ih.append room .command packet with }
  | refuse limit reserve settings news =>
    have hrefused : Stored strict P (l.refused limit reserve settings news) := { ih with }
    exact hrefused.reset
  | reset settled => exact ih.reset
  | close settled => exact { ih.close with }
  | disconnect packet bytes settled connected isDisconnect encodes room =>
    exact { (ih.append room .command packet).close with }
  | load outbound received control replay wide fits room fresh closed reserved empty unsent =>
    have hbytes : 0 = queueSize strict l.queue := by rw [empty]; rfl
    refine { ih with capacity := rfl, queuedBytes := hbytes, bytes := .inr fun _ _ => ?_ }
    show 0 + (l.outgoing.map List.length).sum ≤ _
    rw [unsent]
    exact Nat.zero_le _
  | migrate limits timeout retry now => exact { stored_blank limits timeout retry now l.trace with }
  | _ => exact { ih with }

end FlowSdk
