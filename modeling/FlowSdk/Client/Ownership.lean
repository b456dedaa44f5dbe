/-
  FlowSdk.Client.Ownership — who owns a packet identifier.

  An identifier is reserved exactly as long as an operation holds it: a publication in the
  queue, or an exchange in flight, waiting for its replay, being settled by CONNACK or left
  over from an interrupted connection. No two operations hold the same one.

  Exchanges may stand in two places at once: what is in flight is also listed in `previous`
  while a handshake is under way. Without a session (`sessionless`) a reset fails what is in
  flight and leaves the list as it is, so there the list holds nothing of its own.

  Main results:
    1. `owned_step`   every step preserves `Owned`, if QoS 0 publications carry no identifier
                      and no CONNECT meets a queued publication with a left-over identifier
-/
import FlowSdk.Client.Exchanges
import FlowSdk.Client.Memory

namespace FlowSdk

open Machine Wire Ledger

variable {T : Type} [TimePoint T] {strict : Bool} {P : Permit} {l l' : Ledger T}

/-! ## Holding an identifier -/

namespace Ledger

def restoringIds (restoring : List (Exchange × Bool)) : List UInt16 := restoring.map (·.1.1)

theorem perm_settleOrder (replaying : Bool) (previous : List Exchange) :
    (restoringIds (settleOrder replaying previous)).Perm (ids previous) := by
  rw [restoringIds, settleOrder, List.map_map]
  refine List.Perm.map Prod.fst ?_
  split
  · exact perm_replayOrder previous
  · exact .refl _

/-- An exchange of the identifier is somewhere behind the queue. -/
def Engaged (l : Ledger T) (id : UInt16) : Prop :=
  id ∈ ids l.inflight ∨ id ∈ ids l.replay ∨ id ∈ restoringIds l.restoring ∨
    (l.limits.sessionless = false ∧ id ∈ ids l.previous)

def Held (l : Ledger T) (id : UInt16) : Prop := id ∈ queuedIds l.queue ∨ l.Engaged id

end Ledger

/-- What is queued carries an identifier exactly if it needs one. -/
structure Labelled (packet : MqttPacket) : Prop where
  isPublish : packet.isPublish
  identified : packet.qos > 0 → packet.tracked.isSome
  untagged : packet.publishId.isSome → packet.qos > 0

/-- The places of the ledger are well arranged. -/
structure Arranged (l : Ledger T) : Prop where
  labelled : ∀ item ∈ l.queue, Labelled item.2.packet
  queued : (queuedIds l.queue).Nodup
  apart : ∀ id ∈ queuedIds l.queue, ¬ l.Engaged id
  inflight : (ids l.inflight).Nodup
  separate : ∀ id ∈ ids l.inflight, id ∉ ids l.replay
  waiting : (ids l.replay ++ restoringIds l.restoring).Nodup
  previous : (ids l.previous).Nodup
  connected : l.connected = true → l.previous = [] ∧ l.connecting = false
  connecting : l.connecting = true → l.replay = []
  settling : l.connected = false → l.restoring = []
  sessionless : l.limits.sessionless = true → l.replay = [] ∧
    (∀ id ∈ restoringIds l.restoring, id ∈ ids l.inflight) ∧
    (l.connecting = true → ∀ id ∈ ids l.previous, id ∈ ids l.inflight)
  loading : l.loading = true → l.inflight = [] ∧ l.replay = [] ∧ l.restoring = [] ∧
    l.connected = false ∧ l.connecting = false ∧ l.limits.sessionless = false

structure Owned (l : Ledger T) : Prop extends Arranged l where
  reserved : ∀ id, id ∈ l.reserved ↔ l.Held id
  nonzero : 0 ∉ l.reserved

/-! ## Ending an operation -/

/-- A ledger in which one operation is about to end: nothing but an exchange in flight may
still hold its identifier. -/
structure Ending (l : Ledger T) (id : UInt16) : Prop extends Arranged l where
  others : ∀ i, i ≠ id → (i ∈ l.reserved ↔ l.Held i)
  nonzero : 0 ∉ l.reserved
  unqueued : id ∉ queuedIds l.queue
  unreplayed : id ∉ ids l.replay
  settled : id ∉ restoringIds l.restoring
  forgotten : l.limits.sessionless = false → id ∉ ids l.previous
  idle : l.connecting = false

omit [TimePoint T] in
theorem Ending.finish {id : UInt16} (h : Ending l id) (ev : MqttEvent) :
    Owned (l.finish id ev) := by
  have hengaged : ∀ i, (l.finish id ev).Engaged i ↔ l.Engaged i ∧ i ≠ id := by
    intro i
    constructor
    · rintro (hi | hi | hi | ⟨hs, hi⟩)
      · obtain ⟨hi, hne⟩ := mem_ids_filter.mp hi
        exact ⟨.inl hi, hne⟩
      · exact ⟨.inr (.inl hi), fun heq => h.unreplayed (heq ▸ hi)⟩
      · exact ⟨.inr (.inr (.inl hi)), fun heq => h.settled (heq ▸ hi)⟩
      · exact ⟨.inr (.inr (.inr ⟨hs, hi⟩)), fun heq => h.forgotten hs (heq ▸ hi)⟩
    · rintro ⟨hi | hi, hne⟩
      · exact .inl (mem_ids_filter.mpr ⟨hi, hne⟩)
      · exact .inr hi
  refine { h with
    apart := fun i hi hengage => h.apart i hi ((hengaged i).mp hengage).1
    inflight := nodup_ids_filter h.inflight _
    separate := fun i hi => h.separate i (mem_ids_filter.mp hi).1
    sessionless := fun hs => ?_
    loading := fun hl => ?_
    reserved := fun i => ?_
    nonzero := fun hz => h.nonzero (Finset.mem_of_mem_erase hz) }
  · obtain ⟨hreplay, hrestoring, hconnecting⟩ := h.sessionless hs
    refine ⟨hreplay, fun i hi => mem_ids_filter.mpr ⟨hrestoring i hi, ?_⟩, fun hc i hi => ?_⟩
    · rintro rfl
      exact h.settled hi
    · cases h.idle.symm.trans hc
  · obtain ⟨hinflight, hrest⟩ := h.loading hl
    refine ⟨?_, hrest⟩
    show l.inflight.filter _ = []
    rw [hinflight]
    rfl
  · show i ∈ l.reserved.erase id ↔ i ∈ queuedIds l.queue ∨ (l.finish id ev).Engaged i
    rw [Finset.mem_erase, hengaged]
    by_cases hi : i = id
    · subst hi
      simp [h.unqueued]
    · rw [h.others i hi]
      simp [hi, Held]

/-! ## The queue -/

theorem queuedIds_cons (item : UInt8 × Queued) (rest : List (UInt8 × Queued)) :
    queuedIds (item :: rest) = item.2.packet.tracked.toList ++ queuedIds rest := by
  rw [queuedIds, List.filterMap_cons]
  cases item.2.packet.tracked <;> rfl

omit [TimePoint T] in
theorem perm_queuedIds_enqueue (priority : UInt8) (packet : MqttPacket) (n : Nat) (l : Ledger T) :
    (queuedIds (l.enqueue priority packet n).queue).Perm
      (packet.tracked.toList ++ queuedIds l.queue) := by
  have h : (queuedIds (l.enqueue priority packet n).queue).Perm
      (queuedIds ((priority, ⟨packet, l.trace.length⟩) :: l.queue)) :=
    (perm_enqueue priority packet n l).filterMap _
  rwa [queuedIds_cons] at h

theorem queuedIds_stripped (queue : List (UInt8 × Queued)) :
    queuedIds (stripped queue) = queuedIds queue := by
  rw [queuedIds, stripped, List.filterMap_map]
  refine List.filterMap_congr fun item _ => ?_
  exact item.2.packet.tracked_withoutAlias

theorem Labelled.withoutAlias {packet : MqttPacket} (h : Labelled packet) :
    Labelled packet.withoutAlias :=
  ⟨by simpa using h.isPublish, by simpa using h.identified, by simpa using h.untagged⟩

theorem Labelled.tracked_eq {packet : MqttPacket} (h : Labelled packet) :
    packet.tracked = packet.publishId := by
  rw [MqttPacket.tracked]
  split
  · rfl
  next hqos =>
    cases hid : packet.publishId with
    | none => rfl
    | some id => exact absurd (h.untagged (by rw [hid]; rfl)) hqos

theorem Ledger.Publishes.labelled {packet : MqttPacket} {id : Option UInt16}
    (h : Publishes strict P packet id) (untagged : ¬ P.tagged) : Labelled packet where
  isPublish := h.isPublish
  identified := fun hqos => h.tracked ▸ h.identified hqos
  untagged := fun hid => by
    rcases h.untagged.resolve_left untagged with hqos | hnone
    · exact hqos
    · rw [hnone] at hid
      cases hid

namespace Owned

omit [TimePoint T] in
/-- A publication with a free identifier joins the queue. -/
theorem push (ih : Owned l) {packet : MqttPacket} (labelled : Labelled packet)
    (free : ∀ i ∈ packet.tracked, i ≠ 0 ∧ i ∉ l.reserved) {reserved : Finset UInt16}
    (hreserved : ∀ i, i ∈ reserved ↔ i ∈ l.reserved ∨ i ∈ packet.tracked) (trace : List Obs)
    (priority : UInt8) (n : Nat) :
    Owned ({ l with reserved := reserved, trace := trace }.enqueue priority packet n) := by
  have hperm := perm_queuedIds_enqueue priority packet n { l with reserved, trace }
  have hmem : ∀ i, i ∈ queuedIds ({ l with reserved, trace }.enqueue priority packet n).queue ↔
      i ∈ packet.tracked ∨ i ∈ queuedIds l.queue := by
    intro i
    rw [hperm.mem_iff, List.mem_append, Option.mem_toList]
    exact Iff.rfl
  have hnew : ∀ i ∈ packet.tracked, ¬ l.Held i :=
    fun i hi hheld => (free i hi).2 ((ih.reserved i).mpr hheld)
  refine { ih with
    labelled := fun item hitem => ?_
    queued := ?_
    apart := fun i hi hengaged => ?_
    reserved := fun i => ?_
    nonzero := fun hz => ?_ }
  · rcases List.mem_cons.mp ((perm_enqueue priority packet n _).mem_iff.mp hitem) with rfl | hitem
    · exact labelled
    · exact ih.labelled item hitem
  · rw [hperm.nodup_iff]
    refine List.Nodup.append ?_ ih.queued fun i hi hqueued => ?_
    · cases packet.tracked <;> simp
    · exact hnew i (Option.mem_toList.mp hi) (.inl hqueued)
  · rcases (hmem i).mp hi with hi | hi
    · exact hnew i hi (.inr hengaged)
    · exact ih.apart i hi hengaged
  · rw [Held, hmem]
    show i ∈ reserved ↔ _
    rw [hreserved, ih.reserved]
    constructor
    · rintro ((hq | he) | hi)
      · exact .inl (.inr hq)
      · exact .inr he
      · exact .inl (.inl hi)
    · rintro ((hi | hq) | he)
      · exact .inr hi
      · exact .inl (.inl hq)
      · exact .inl (.inr he)
  · rcases (hreserved 0).mp hz with hz | hz
    · exact ih.nonzero hz
    · exact (free 0 hz).1 rfl

omit [TimePoint T] in
/-- The front of the queue, seen by its identifier. -/
theorem front_apart (ih : Owned l) {item : UInt8 × Queued} {rest : List (UInt8 × Queued)} {id : UInt16}
    (front : l.queue = item :: rest) (tracked : item.2.packet.tracked = some id) :
    queuedIds l.queue = id :: queuedIds rest ∧ id ∉ queuedIds rest ∧ ¬ l.Engaged id := by
  have hids : queuedIds l.queue = id :: queuedIds rest := by
    rw [front, queuedIds_cons, tracked]
    rfl
  have hnodup := ih.queued
  rw [hids] at hnodup
  exact ⟨hids, (List.nodup_cons.mp hnodup).1, ih.apart id (hids ▸ List.mem_cons_self)⟩

omit [TimePoint T] in
theorem record (ih : Owned l) (o : Obs) : Owned (l.record o) := { ih with }

omit [TimePoint T] in
theorem settle (ih : Owned l) (key : ReceiveKey) : Owned (l.settle key) := { ih with }

omit [TimePoint T] in
theorem append (ih : Owned l) (origin : Origin) (packet : MqttPacket) (bytes : Bytes) :
    Owned (l.append origin packet bytes) := { ih with }

omit [TimePoint T] in
/-- A publication leaves the queue: its operation is about to end, or it had none. -/
theorem dequeue (ih : Owned l) {item : UInt8 × Queued} {rest : List (UInt8 × Queued)} (n : Nat)
    (front : l.queue = item :: rest) : Arranged (l.dequeue rest n) where
  labelled := fun i hi => ih.labelled i (front ▸ List.mem_cons_of_mem _ hi)
  queued := by
    have h := ih.queued
    rw [front, queuedIds_cons] at h
    exact h.of_append_right
  apart := fun i hi => ih.apart i (by
    rw [front, queuedIds_cons]
    exact List.mem_append_right _ hi)
  inflight := ih.inflight
  separate := ih.separate
  waiting := ih.waiting
  previous := ih.previous
  connected := ih.connected
  connecting := ih.connecting
  settling := ih.settling
  sessionless := ih.sessionless
  loading := ih.loading

omit [TimePoint T] in
theorem dequeue_untracked (ih : Owned l) {item : UInt8 × Queued} {rest : List (UInt8 × Queued)}
    (n : Nat) (front : l.queue = item :: rest) (tracked : item.2.packet.tracked = none) :
    Owned (l.dequeue rest n) where
  toArranged := ih.dequeue n front
  reserved i := by
    show i ∈ l.reserved ↔ i ∈ queuedIds rest ∨ l.Engaged i
    rw [ih.reserved, Held, front, queuedIds_cons, tracked]
    exact Iff.rfl
  nonzero := ih.nonzero

end Owned

/-! ## Tracking an exchange -/

omit [TimePoint T] in
theorem engaged_track {stream : Option Nat} {id i : UInt16} (packet : MqttPacket) :
    (l.trackOn stream id packet).Engaged i ↔ l.Engaged i ∨ i = id := by
  show i ∈ ids (l.inflight ++ [(id, packet)]) ∨ _ ↔ (i ∈ ids l.inflight ∨ _) ∨ i = id
  rw [ids_append, List.mem_append]
  simp only [ids, List.map_cons, List.map_nil, List.mem_singleton]
  tauto

omit [TimePoint T] in
theorem held_track {stream : Option Nat} {id i : UInt16} (packet : MqttPacket) :
    (l.trackOn stream id packet).Held i ↔ l.Held i ∨ i = id := by
  rw [Held, engaged_track, ← or_assoc]
  exact Iff.rfl

omit [TimePoint T] in
/-- An exchange whose identifier nothing else holds joins those in flight. -/
theorem Arranged.track (h : Arranged l) (stream : Option Nat) {id : UInt16} (packet : MqttPacket)
    (free : ¬ l.Held id) (idle : l.loading = false) : Arranged (l.trackOn stream id packet) := by
  have hgrow : ∀ i, i ∈ ids (l.inflight ++ [(id, packet)]) ↔ i ∈ ids l.inflight ∨ i = id := by
    simp [ids]
  refine { h with
    apart := fun i hi hengaged => ?_
    inflight := ?_
    separate := fun i hi => ?_
    sessionless := fun hs => ?_
    loading := fun hl => by cases idle.symm.trans hl }
  · rcases (engaged_track packet).mp hengaged with hengaged | rfl
    · exact h.apart i hi hengaged
    · exact free (.inl hi)
  · show (ids (l.inflight ++ [(id, packet)])).Nodup
    rw [ids_append]
    refine h.inflight.append (List.nodup_singleton _) ?_
    rintro i hi (_ | ⟨_, hlast⟩)
    · exact free (.inr (.inl hi))
    · cases hlast
  · rcases (hgrow i).mp hi with hi | rfl
    · exact h.separate i hi
    · exact fun hreplay => free (.inr (.inr (.inl hreplay)))
  · obtain ⟨hreplay, hrestoring, hconnecting⟩ := h.sessionless hs
    exact ⟨hreplay, fun i hi => (hgrow i).mpr (.inl (hrestoring i hi)),
      fun hc i hi => (hgrow i).mpr (.inl (hconnecting hc i hi))⟩

namespace Owned

omit [TimePoint T] in
/-- A publication that was sent is in flight. -/
theorem send (ih : Owned l) {item : UInt8 × Queued} {rest : List (UInt8 × Queued)} {id : UInt16}
    (n : Nat) (front : l.queue = item :: rest) (tracked : item.2.packet.tracked = some id)
    (connected : l.connected = true) : Owned ((l.dequeue rest n).track id item.2.packet) := by
  obtain ⟨hids, hrest, hfree⟩ := ih.front_apart front tracked
  have hidle : l.loading = false := by
    by_contra hl
    cases connected.symm.trans (ih.loading (Bool.not_eq_false _ ▸ hl)).2.2.2.1
  refine { (ih.dequeue n front).track none item.2.packet (fun h => h.elim hrest hfree) hidle with
    reserved := fun i => ?_
    nonzero := ih.nonzero }
  rw [Ledger.track, held_track]
  show i ∈ l.reserved ↔ (i ∈ queuedIds rest ∨ l.Engaged i) ∨ i = id
  rw [ih.reserved, Held, hids, List.mem_cons]
  tauto

omit [TimePoint T] in
/-- An operation with a free identifier is tracked at once. -/
theorem operate (ih : Owned l) (stream : Option Nat) {id : UInt16} (packet : MqttPacket)
    (free : l.Free id) (idle : l.loading = false) :
    Owned ((l.trackOn stream id packet).accept id) := by
  have hfree : ¬ l.Held id := fun hheld => free.2.1 ((ih.reserved id).mpr hheld)
  refine { ih.toArranged.track stream packet hfree idle with
    reserved := fun i => ?_
    nonzero := fun hz => ?_ }
  · show i ∈ insert id l.reserved ↔ (l.trackOn stream id packet).Held i
    rw [held_track, Finset.mem_insert, ih.reserved]
    exact or_comm
  · rcases Finset.mem_insert.mp hz with hz | hz
    · exact free.1 hz.symm
    · exact ih.nonzero hz

omit [TimePoint T] in
/-- The front of the replay: without it the rest of the ledger does not hold its identifier. -/
theorem front_replay (ih : Owned l) {id : UInt16} {packet : MqttPacket} {rest : List Exchange}
    (front : l.replay = (id, packet) :: rest) (connected : l.connected = true)
    (settled : l.restoring = []) : Ending { l with replay := rest } id := by
  have hids : ids l.replay = id :: ids rest := by rw [front]; rfl
  have hnodup : (id :: ids rest).Nodup := by
    simpa [hids, settled, restoringIds] using ih.waiting
  obtain ⟨hid, hrest⟩ := List.nodup_cons.mp hnodup
  obtain ⟨hprevious, hconnecting⟩ := ih.connected connected
  have hengaged : ∀ i, i ≠ id → (l.Engaged i ↔ { l with replay := rest }.Engaged i) := by
    intro i hi
    simp only [Engaged, hids, List.mem_cons, hi, false_or]
  have hunqueued : id ∉ queuedIds l.queue :=
    fun hq => ih.apart id hq (.inr (.inl (hids ▸ List.mem_cons_self)))
  refine { ih with
    apart := fun i hi h => ih.apart i hi ((hengaged i fun heq => hunqueued (heq ▸ hi)).mpr h)
    separate := fun i hi hreplay => ih.separate i hi (hids ▸ List.mem_cons_of_mem _ hreplay)
    waiting := ?_
    connecting := fun hc => by cases hconnecting.symm.trans hc
    sessionless := fun hs => ?_
    loading := fun hl => by cases connected.symm.trans (ih.loading hl).2.2.2.1
    others := fun i hi => (ih.reserved i).trans (or_congr_right (hengaged i hi))
    unqueued := hunqueued
    unreplayed := hid
    settled := by rw [settled]; exact List.not_mem_nil
    forgotten := fun _ => by rw [hprevious]; exact List.not_mem_nil
    idle := hconnecting }
  · show (ids rest ++ restoringIds l.restoring).Nodup
    rw [settled, restoringIds, List.map_nil, List.append_nil]
    exact hrest
  · rw [(ih.sessionless hs).1] at front
    cases front

omit [TimePoint T] in
/-- An exchange that was replayed is in flight. -/
theorem resend (ih : Owned l) {id : UInt16} {packet : MqttPacket} {rest : List Exchange}
    (front : l.replay = (id, packet) :: rest) (connected : l.connected = true)
    (settled : l.restoring = []) : Owned ({ l with replay := rest }.track id packet) := by
  have hids : ids l.replay = id :: ids rest := by rw [front]; rfl
  have hending := ih.front_replay front connected settled
  have hidle : l.loading = false := by
    by_contra hl
    cases connected.symm.trans (ih.loading (Bool.not_eq_false _ ▸ hl)).2.2.2.1
  have hfree : ¬ { l with replay := rest }.Held id := by
    rintro (hq | hi | hr | hs | ⟨hs, hv⟩)
    · exact hending.unqueued hq
    · exact ih.separate id hi (hids ▸ List.mem_cons_self)
    · exact hending.unreplayed hr
    · exact hending.settled hs
    · exact hending.forgotten hs hv
  refine { hending.toArranged.track none packet hfree hidle with
    reserved := fun i => ?_
    nonzero := ih.nonzero }
  rw [Ledger.track, held_track]
  show i ∈ l.reserved ↔ _
  by_cases hi : i = id
  · have hreserved : i ∈ l.reserved :=
      (ih.reserved i).mpr (.inr (.inr (.inl (hids ▸ hi ▸ List.mem_cons_self))))
    exact iff_of_true hreserved (.inr hi)
  · exact (hending.others i hi).trans (or_iff_left hi).symm

omit [TimePoint T] in
/-- An exchange in flight can end on a connection whose exchanges are settled. -/
theorem ending (ih : Owned l) {id : UInt16} (sent : id ∈ ids l.inflight)
    (settled : l.restoring = []) (idle : l.connecting = false)
    (forgotten : l.limits.sessionless = false → l.previous = []) : Ending l id where
  toArranged := ih.toArranged
  others := fun i _ => ih.reserved i
  nonzero := ih.nonzero
  unqueued := fun hq => ih.apart id hq (.inl sent)
  unreplayed := ih.separate id sent
  settled := by rw [settled]; exact List.not_mem_nil
  forgotten := fun hs => by rw [forgotten hs]; exact List.not_mem_nil
  idle := idle

/-! ## The connection -/

omit [TimePoint T] in
theorem mem_outstanding (l : Ledger T) (i : UInt16) : i ∈ ids l.outstanding ↔
    (i ∈ ids l.previous ∧ i ∈ l.reserved) ∨ i ∈ ids l.inflight ∨ i ∈ ids l.replay := by
  rw [outstanding, mem_ids_mergeEntries, ids_append, List.mem_append]
  refine or_congr_left ?_
  simp only [ids, List.mem_map, List.mem_filter, decide_eq_true_eq]
  constructor
  · rintro ⟨e, ⟨he, hr⟩, rfl⟩
    exact ⟨⟨e, he, rfl⟩, hr⟩
  · rintro ⟨⟨e, he, rfl⟩, hr⟩
    exact ⟨e, ⟨he, hr⟩, rfl⟩

omit [TimePoint T] in
theorem nodup_outstanding (ih : Owned l) : (ids l.outstanding).Nodup :=
  nodup_ids_mergeEntries _ (nodup_ids_filter ih.previous _)

omit [TimePoint T] in
theorem connect (ih : Owned l) (idle : l.loading = false) (closed : l.connected = false)
    (unstale : l.limits.sessionless = true → ∀ id ∈ ids l.previous, id ∉ queuedIds l.queue) :
    Owned { l with previous := l.outstanding, replay := [], connecting := true, fresh := false } := by
  have hsettled := ih.settling closed
  have hengaged : ∀ i, Engaged { l with
      previous := l.outstanding, replay := [], connecting := true, fresh := false } i ↔
      l.Engaged i := by
    intro i
    show i ∈ ids l.inflight ∨ i ∈ ids [] ∨ i ∈ restoringIds l.restoring ∨
      (l.limits.sessionless = false ∧ i ∈ ids l.outstanding) ↔ _
    rw [mem_outstanding, hsettled, Engaged, hsettled]
    cases hs : l.limits.sessionless with
    | true => simp [(ih.sessionless hs).1, ids]
    | false =>
      have hsub : i ∈ ids l.previous → i ∈ l.reserved :=
        fun hi => (ih.reserved i).mpr (.inr (.inr (.inr (.inr ⟨hs, hi⟩))))
      simp only [ids, restoringIds, List.map_nil, List.not_mem_nil, true_and]
      tauto
  refine { ih with
    apart := fun i hi h => ih.apart i hi ((hengaged i).mp h)
    separate := fun i _ => List.not_mem_nil
    waiting := ?_
    previous := nodup_outstanding ih
    connected := fun hc => by cases closed.symm.trans hc
    connecting := fun _ => rfl
    sessionless := fun hs => ⟨rfl, (ih.sessionless hs).2.1, fun _ i hi => ?_⟩
    loading := fun hl => by cases idle.symm.trans hl
    reserved := fun i => (ih.reserved i).trans (or_congr_right (hengaged i).symm) }
  · exact ih.waiting.sublist (List.sublist_append_right _ _)
  · rcases (mem_outstanding l i).mp hi with ⟨hv, hr⟩ | hi | hi
    · rcases (ih.reserved i).mp hr with hq | hi | hi | hi | ⟨hs', _⟩
      · exact absurd hq (unstale hs i hv)
      · exact hi
      · rw [(ih.sessionless hs).1] at hi
        cases hi
      · exact (ih.sessionless hs).2.1 i hi
      · cases hs.symm.trans hs'
    · exact hi
    · rw [(ih.sessionless hs).1] at hi
      cases hi

omit [TimePoint T] in
/-- CONNACK takes over what was left. -/
theorem connack (ih : Owned l) (limit : UInt16) (replaying : Bool) (trace : List Obs)
    (connecting : l.connecting = true) (closed : l.connected = false) :
    Owned { l with
      connected := true
      connecting := false
      receiveMaximum := limit
      restoring := settleOrder replaying l.previous
      previous := []
      trace := trace } := by
  have hsettled := ih.settling closed
  have hreplay := ih.connecting connecting
  have hperm := perm_settleOrder replaying l.previous
  have hengaged : ∀ i, i ∈ ids l.inflight ∨ i ∈ ids l.replay ∨
      i ∈ restoringIds (settleOrder replaying l.previous) ∨
      (l.limits.sessionless = false ∧ i ∈ ids []) ↔ l.Engaged i := by
    intro i
    rw [hperm.mem_iff, Engaged, hsettled]
    cases hs : l.limits.sessionless with
    | true =>
      have hsub := (ih.sessionless hs).2.2 connecting i
      simp only [ids, restoringIds, List.map_nil, List.not_mem_nil, Bool.true_eq_false, false_and,
        or_false] at hsub ⊢
      tauto
    | false => simp [ids, restoringIds]
  refine { ih with
    apart := fun i hi h => ih.apart i hi ((hengaged i).mp h)
    waiting := ?_
    previous := List.nodup_nil
    connected := fun _ => ⟨rfl, rfl⟩
    connecting := fun hc => by cases hc
    settling := fun hc => by cases hc
    sessionless := fun hs => ⟨hreplay, fun i hi => ?_, fun hc => by cases hc⟩
    loading := fun hl => by cases connecting.symm.trans (ih.loading hl).2.2.2.2.1
    reserved := fun i => (ih.reserved i).trans (or_congr_right (hengaged i).symm) }
  · show (ids l.replay ++ restoringIds (settleOrder replaying l.previous)).Nodup
    rw [hreplay]
    exact hperm.nodup_iff.mpr ih.previous
  · exact (ih.sessionless hs).2.2 connecting i (hperm.mem_iff.mp hi)

omit [TimePoint T] in
/-- An exchange of the last connection waits for its replay. -/
theorem carry (ih : Owned l) {id : UInt16} {packet : MqttPacket} {rest : List (Exchange × Bool)}
    (again : MqttPacket) (trace : List Obs) (front : l.restoring = ((id, packet), true) :: rest)
    (sessions : l.limits.sessionless = false) :
    Owned { l.remove id with
      restoring := rest, replay := l.replay ++ [(id, again)], trace := trace } := by
  have hids : restoringIds l.restoring = id :: restoringIds rest := by rw [front]; rfl
  have hengaged : ∀ i, i ∈ ids (l.remove id).inflight ∨ i ∈ ids (l.replay ++ [(id, again)]) ∨
      i ∈ restoringIds rest ∨ (l.limits.sessionless = false ∧ i ∈ ids l.previous) ↔
        l.Engaged i := by
    intro i
    show i ∈ ids (l.inflight.filter _) ∨ _ ↔ _
    rw [mem_ids_filter, Engaged, hids, List.mem_cons, ids_append, List.mem_append]
    by_cases hi : i = id
    · subst hi
      simp [ids]
    · simp [ids, hi]
  have hconnected : l.connected = true := by
    by_contra hc
    rw [ih.settling (Bool.not_eq_true _ ▸ hc)] at front
    cases front
  refine { ih with
    apart := fun i hi h => ih.apart i hi ((hengaged i).mp h)
    inflight := nodup_ids_filter ih.inflight _
    separate := fun i hi hreplay => ?_
    waiting := ?_
    connecting := fun hc => by cases (ih.connected hconnected).2.symm.trans hc
    settling := fun hc => by cases hconnected.symm.trans hc
    sessionless := fun hs => by cases sessions.symm.trans hs
    loading := fun hl => by cases hconnected.symm.trans (ih.loading hl).2.2.2.1
    reserved := fun i => (ih.reserved i).trans (or_congr_right (hengaged i).symm) }
  · obtain ⟨hi, hne⟩ := mem_ids_filter.mp hi
    rcases List.mem_append.mp (ids_append _ _ ▸ hreplay) with hreplay | hreplay
    · exact ih.separate i hi hreplay
    · exact hne (List.mem_singleton.mp hreplay)
  · show (ids (l.replay ++ [(id, again)]) ++ restoringIds rest).Nodup
    have hwaiting := ih.waiting
    rw [hids] at hwaiting
    rw [ids_append, List.append_assoc]
    exact hwaiting

omit [TimePoint T] in
/-- An exchange of the last connection is about to fail. -/
theorem expire (ih : Owned l) {id : UInt16} {packet : MqttPacket} {rest : List (Exchange × Bool)}
    (front : l.restoring = ((id, packet), false) :: rest) :
    Ending { l with restoring := rest } id := by
  have hids : restoringIds l.restoring = id :: restoringIds rest := by rw [front]; rfl
  have hnodup := List.nodup_middle.mp (hids ▸ ih.waiting)
  obtain ⟨hid, hrest⟩ := List.nodup_cons.mp hnodup
  have hconnected : l.connected = true := by
    by_contra hc
    rw [ih.settling (Bool.not_eq_true _ ▸ hc)] at front
    cases front
  obtain ⟨hprevious, hconnecting⟩ := ih.connected hconnected
  have hunqueued : id ∉ queuedIds l.queue :=
    fun hq => ih.apart id hq (.inr (.inr (.inl (hids ▸ List.mem_cons_self))))
  have hengaged : ∀ i, i ≠ id → (l.Engaged i ↔ { l with restoring := rest }.Engaged i) := by
    intro i hi
    simp only [Engaged, hids, List.mem_cons, hi, false_or]
  exact { ih with
    apart := fun i hi h => ih.apart i hi ((hengaged i fun heq => hunqueued (heq ▸ hi)).mpr h)
    waiting := hrest
    settling := fun hc => by cases hconnected.symm.trans hc
    sessionless := fun hs => ⟨(ih.sessionless hs).1,
      fun i hi => (ih.sessionless hs).2.1 i (hids ▸ List.mem_cons_of_mem _ hi),
      (ih.sessionless hs).2.2⟩
    loading := fun hl => by cases hconnected.symm.trans (ih.loading hl).2.2.2.1
    others := fun i hi => (ih.reserved i).trans (or_congr_right (hengaged i hi))
    unqueued := hunqueued
    unreplayed := fun hreplay => hid (List.mem_append_left _ hreplay)
    settled := fun hsettled => hid (List.mem_append_right _ hsettled)
    forgotten := fun _ => by rw [hprevious]; exact List.not_mem_nil
    idle := hconnecting }

omit [TimePoint T] in
theorem close (ih : Owned l) (settled : l.restoring = []) : Owned l.close :=
  { ih with
    connected := fun hc => by cases hc
    connecting := fun hc => by cases hc
    settling := fun _ => settled
    sessionless := fun hs => ⟨(ih.sessionless hs).1, (ih.sessionless hs).2.1, fun hc => by cases hc⟩
    loading := fun hl => by
      obtain ⟨hi, hp, hr, -, -, hs⟩ := ih.loading hl
      exact ⟨hi, hp, hr, rfl, rfl, hs⟩ }

omit [TimePoint T] in
theorem refused (ih : Owned l) (limit : UInt16) (reserve : Nat) (settings : Settings)
    (news : List Obs) : Owned (l.refused limit reserve settings news) :=
  { ih with
    connected := fun hc => ⟨(ih.connected hc).1, rfl⟩
    connecting := fun hc => by cases hc
    sessionless := fun hs => ⟨(ih.sessionless hs).1, (ih.sessionless hs).2.1, fun hc => by cases hc⟩
    loading := fun hl => by
      obtain ⟨hinflight, hreplay, hrestoring, hconnected, -, hs⟩ := ih.loading hl
      exact ⟨hinflight, hreplay, hrestoring, hconnected, rfl, hs⟩ }

omit [TimePoint T] in
theorem reset (ih : Owned l) (settled : l.restoring = []) : Owned (l.reset strict) := by
  have hids : queuedIds (l.reset strict).queue = queuedIds l.queue := queuedIds_stripped l.queue
  refine { ih.close settled with
    labelled := fun item hitem => ?_
    queued := hids ▸ ih.queued
    apart := fun i hi => ih.apart i (hids ▸ hi)
    reserved := fun i => ?_ }
  · obtain ⟨i, hi, rfl⟩ := List.mem_map.mp hitem
    exact (ih.labelled i hi).withoutAlias
  · rw [Held, hids]
    exact ih.reserved i

/-! ## Saved sessions -/

omit [TimePoint T] in
/-- A ledger in which nothing is reserved can take over a saved session. -/
theorem load (ih : Owned l) (reserved : l.reserved = ∅) (empty : l.queue = [])
    (closed : l.connected = false ∧ l.connecting = false)
    (sessions : l.limits.sessionless = false) (capacity bytes : Nat) (promised : List Exchange)
    (received : AList (fun _ : ReceiveKey => ReceiveStage)) :
    Owned { l with
      fresh := false
      previous := []
      capacity := capacity
      queuedBytes := bytes
      received := received
      loading := true
      promised := promised } := by
  have hnone : ∀ i, ¬ l.Held i := by
    intro i hi
    have := (ih.reserved i).mpr hi
    rw [reserved] at this
    cases this
  have hinflight : l.inflight = [] :=
    List.eq_nil_iff_forall_not_mem.mpr fun e he => hnone e.1 (.inr (.inl (mem_ids_of_mem he)))
  have hreplay : l.replay = [] :=
    List.eq_nil_iff_forall_not_mem.mpr fun e he => hnone e.1 (.inr (.inr (.inl (mem_ids_of_mem he))))
  have hrestoring := ih.settling closed.1
  refine { ih with
    apart := fun i hi => ?_
    previous := List.nodup_nil
    connected := fun hc => by cases closed.1.symm.trans hc
    sessionless := fun hs => by cases sessions.symm.trans hs
    loading := fun _ => ⟨hinflight, hreplay, hrestoring, closed.1, closed.2, sessions⟩
    reserved := fun i => ?_ }
  · rw [empty] at hi
    cases hi
  · show i ∈ l.reserved ↔ i ∈ queuedIds l.queue ∨ i ∈ ids l.inflight ∨ i ∈ ids l.replay ∨
      i ∈ restoringIds l.restoring ∨ (l.limits.sessionless = false ∧ i ∈ ids [])
    rw [reserved, empty, hinflight, hreplay, hrestoring]
    simp [queuedIds, ids, restoringIds]

omit [TimePoint T] in
theorem inherit (ih : Owned l) {id : UInt16} (packet : MqttPacket) (rest : List Exchange)
    (loading : l.loading = true) (nonzero : id ≠ 0) (free : id ∉ l.reserved) :
    Owned { l.inherit id with previous := l.previous ++ [(id, packet)], promised := rest } := by
  obtain ⟨hinflight, hreplay, hrestoring, hconnected, hconnecting, hsessions⟩ := ih.loading loading
  have hfree : ¬ l.Held id := fun h => free ((ih.reserved id).mpr h)
  have hengaged : ∀ i, Engaged { l.inherit id with
      previous := l.previous ++ [(id, packet)], promised := rest } i ↔ l.Engaged i ∨ i = id := by
    intro i
    show _ ∨ _ ∨ _ ∨ (l.limits.sessionless = false ∧ i ∈ ids (l.previous ++ [(id, packet)])) ↔
      (_ ∨ _ ∨ _ ∨ _) ∨ i = id
    rw [ids_append, List.mem_append]
    simp only [hsessions, ids, List.map_cons, List.map_nil, List.mem_singleton, true_and]
    tauto
  refine { ih with
    apart := fun i hi h => ?_
    previous := ?_
    connected := fun hc => by cases hconnected.symm.trans hc
    sessionless := fun hs => by cases hsessions.symm.trans hs
    reserved := fun i => ?_
    nonzero := fun hz => ?_ }
  · rcases (hengaged i).mp h with h | rfl
    · exact ih.apart i hi h
    · exact hfree (.inl hi)
  · show (ids (l.previous ++ [(id, packet)])).Nodup
    rw [ids_append]
    refine ih.previous.append (List.nodup_singleton _) ?_
    rintro i hi (_ | ⟨_, hlast⟩)
    · exact hfree (.inr (.inr (.inr (.inr ⟨hsessions, hi⟩))))
    · cases hlast
  · rw [Held, hengaged, ← or_assoc]
    show i ∈ insert id l.reserved ↔ l.Held i ∨ i = id
    rw [Finset.mem_insert, ih.reserved]
    exact or_comm
  · rcases Finset.mem_insert.mp hz with hz | hz
    · exact nonzero hz.symm
    · exact ih.nonzero hz

end Owned

/-! ## Every step -/

/-- The caller keeps to what ownership depends on. -/
structure Careful (P : Permit) (l : Ledger T) : Prop where
  untagged : ¬ P.tagged
  unstale : l.limits.sessionless = true → ¬ P.stale

omit [TimePoint T] in
theorem owned_blank (limits : Limits) (timeout : Nat) (retry : Retry T) (now : T)
    (trace : List Obs) : Owned (blank limits timeout retry now trace) where
  labelled := fun _ h => (by cases h)
  queued := List.nodup_nil
  apart := fun _ h => (by cases h)
  inflight := List.nodup_nil
  separate := fun _ h => (by cases h)
  waiting := List.nodup_nil
  previous := List.nodup_nil
  connected := fun h => (by cases h)
  connecting := fun h => (by cases h)
  settling := fun _ => rfl
  sessionless := fun _ => ⟨rfl, fun _ h => (by cases h), fun h => (by cases h)⟩
  loading := fun h => (by cases h)
  reserved := fun i => by simp [blank, Held, Engaged, queuedIds, ids, restoringIds]
  nonzero := Finset.notMem_empty _

theorem owned_step (h : Step strict P l l') (stored : Stored strict P l) (careful : Careful P l)
    (ih : Owned l) : Owned l' := by
  cases h with
  | evict room full => exact (stored.not_full room full).elim
  | broken _ _ _ front unencodable => exact (stored.not_broken front unencodable).elim
  | accept id priority packet publishes free =>
    have hlabelled := publishes.labelled careful.untagged
    have hfree : ∀ i ∈ packet.tracked, i ≠ 0 ∧ i ∉ l.reserved := by
      rw [publishes.tracked]
      exact fun i hi => ⟨(free i hi).1, (free i hi).2.1⟩
    cases id with
    | none => exact ih.push hlabelled hfree (by simp [publishes.tracked]) l.trace priority _
    | some id =>
      have hreserved : ∀ i, i ∈ insert id l.reserved ↔ i ∈ l.reserved ∨ i ∈ packet.tracked := by
        simp [publishes.tracked, or_comm, eq_comm]
      exact { ih.push hlabelled hfree hreserved (.accepted id :: l.trace) priority
        (packet.size strict) with }
  | requeue id priority packet loading done publishes free =>
    have hlabelled := publishes.labelled careful.untagged
    have hfree : ∀ i ∈ packet.tracked, i ≠ 0 ∧ i ∉ l.reserved := publishes.tracked ▸ free
    cases id with
    | none => exact ih.push hlabelled hfree (by simp [publishes.tracked]) l.trace priority _
    | some id =>
      exact ih.push hlabelled hfree (by simp [publishes.tracked, or_comm, eq_comm]) _ priority _
  | send priority item rest bytes front drains =>
    cases htracked : item.packet.tracked with
    | none => exact (ih.dequeue_untracked (item.packet.size strict) front htracked).append _ _ bytes
    | some id => exact (ih.send _ front htracked drains.connected).append _ _ bytes
  | reject priority item rest id error front drains named =>
    have hlabelled : Labelled item.packet := ih.labelled (priority, item) (front ▸ List.mem_cons_self)
    have htracked : item.packet.tracked = some id := hlabelled.tracked_eq.trans named
    obtain ⟨hids, hrest, hfree⟩ := ih.front_apart front htracked
    have hending : Ending (l.dequeue rest (item.packet.size strict)) id :=
      { ih.dequeue _ front with
        others := fun i hi => by
          show i ∈ l.reserved ↔ i ∈ queuedIds rest ∨ l.Engaged i
          rw [ih.reserved, Held, hids, List.mem_cons, or_iff_right hi]
        nonzero := ih.nonzero
        unqueued := hrest
        unreplayed := fun h => hfree (.inr (.inl h))
        settled := fun h => hfree (.inr (.inr (.inl h)))
        forgotten := fun hs h => hfree (.inr (.inr (.inr ⟨hs, h⟩)))
        idle := (ih.connected drains.connected).2 }
    exact hending.finish _
  | drop priority item rest error front unnamed =>
    have hlabelled : Labelled item.packet := ih.labelled (priority, item) (front ▸ List.mem_cons_self)
    have htracked : item.packet.tracked = none := hlabelled.tracked_eq.trans unnamed
    exact (ih.dequeue_untracked (item.packet.size strict) front htracked).record _
  | resend id packet rest bytes front connected settled =>
    exact { ih.resend front connected settled with }
  | untracked id packet rest bytes error front connected settled =>
    have hending : Ending ({ l with replay := rest }.append .replay packet bytes) id :=
      { ih.front_replay front connected settled with }
    exact hending.finish _
  | abort id packet rest error front connected settled =>
    exact (ih.front_replay front connected settled).finish _
  | operate stream id packet free request inner idle => exact ih.operate stream packet free idle
  | trackStream stream id packet n streams free isPublish tracked idle =>
    exact { ih.operate stream packet free idle with }
  | complete stream ack id packet ev sent tag on onQuota connected settled =>
    obtain ⟨hprevious, hidle⟩ := ih.connected connected
    have hending : Ending (l.record (.completed ack)) id :=
      { ih.ending (mem_ids_of_mem sent) settled hidle (fun _ => hprevious) with }
    exact hending.finish ev
  | answer stream id packet ev sent tag on request connected settled =>
    obtain ⟨hprevious, hidle⟩ := ih.connected connected
    exact (ih.ending (mem_ids_of_mem sent) settled hidle (fun _ => hprevious)).finish ev
  | pubrec stream id packet rel sent tag on onQuota isPubRel names connected =>
    have hids : ids (l.advance id rel).inflight = ids l.inflight := ids_map_same _ fun _ => rfl
    have hengaged : ∀ i, (l.advance id rel).Engaged i ↔ l.Engaged i :=
      fun i => or_congr_left (hids ▸ Iff.rfl)
    exact { ih with
      apart := fun i hi hengage => ih.apart i hi ((hengaged i).mp hengage)
      inflight := hids ▸ ih.inflight
      separate := fun i hi => ih.separate i (hids ▸ hi)
      sessionless := fun hs => by
        obtain ⟨hreplay, hrestoring, hconnecting⟩ := ih.sessionless hs
        exact ⟨hreplay, fun i hi => hids ▸ hrestoring i hi, fun hc i hi => hids ▸ hconnecting hc i hi⟩
      loading := fun hl => by cases connected.symm.trans (ih.loading hl).2.2.2.1
      reserved := fun i => (ih.reserved i).trans (or_congr_right (hengaged i).symm) }
  | connect packet bytes opens idle closed unstale =>
    exact { ih.connect idle closed.1 fun hs => unstale.resolve_left (careful.unstale hs) with }
  | refuse limit reserve settings news connecting settled =>
    exact (ih.refused limit reserve settings news).reset settled
  | stall limit reserve settings news => exact { ih.refused limit reserve settings news with }
  | connack result limit reserve replaying connecting closed =>
    exact { ih.connack limit replaying l.trace connecting closed with }
  | carry id packet rest front sessions => exact ih.carry _ _ front sessions
  | expire id packet rest front => exact (ih.expire front).finish _
  | reset settled => exact ih.reset settled
  | abandonInflight id packet sent sessionless settled closed =>
    refine (ih.ending (mem_ids_of_mem sent) settled closed.2 fun hs => ?_).finish _
    cases sessionless.symm.trans hs
  | abandonReplay sessionless settled =>
    have hreplay := (ih.sessionless sessionless).1
    obtain ⟨⟩ := l
    cases hreplay
    cases settled
    exact ih
  | close settled => exact { ih.close settled with }
  | disconnect packet bytes settled => exact { ih.close settled with }
  | deliver key message =>
    have hentered : Owned { l.record (.entered key (.publish message.qos)) with
      received := l.received.insert key (.publish message.qos) } := { ih with }
    exact (hentered.record _).record _
  | refusePublish id => exact (ih.settle (none, id)).record _
  | pubrel key =>
    have hadvanced : Owned { l with received := l.received.insert key .pubRel } := { ih with }
    exact (hadvanced.record _).record _
  | release key => exact ((ih.record _).record _).settle key
  | load outbound received control replay wide fits room fresh closed reserved empty unsent sessions
      idle starts stages =>
    exact { ih.load reserved empty closed sessions l.limits.maxPackets 0 outbound received with }
  | migrate limits timeout retry now received control replay migrates wide fits room saved sessions idle
      settled kept stages range timed =>
    exact { owned_blank limits timeout retry now l.trace with
      loading := fun _ => ⟨rfl, rfl, rfl, rfl, rfl, sessions⟩ }
  | inherit id packet rest loading front nonzero free =>
    exact ih.inherit packet rest loading nonzero free
  | loaded loading => exact { ih with loading := fun hl => by cases hl }
  | _ => exact { ih with }

end FlowSdk
