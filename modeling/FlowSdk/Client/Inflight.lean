/-
  FlowSdk.Client.Inflight — the exchanges that wait for an acknowledgement.

  The queue keeps a map from identifiers to entries, the identifiers in order of admission
  and, below MQTT 5, one retransmission deadline for each entry. The fields of the structure
  tie the order to the map, and say that MQTT 5 has no retransmission timer.

  The rest of the engine sees the queue as the list `snapshotForReconnect` of identifiers
  and packets in order of admission:
    1. `pushWithStreamAt_cases`        a push appends, or is refused
    2. `acknowledge_snapshot`          an acknowledgement removes one entry
    3. `transitionPubrelAt_cases`      a PUBREL takes the place of its PUBLISH
    4. `getExpiredWithStreamAt_cases`  retransmission changes no packet
-/
import FlowSdk.Client.Types
import Mathlib.Data.List.AList

namespace FlowSdk

variable {T : Type} [TimePoint T]

namespace MqttPacket

def isPublish : MqttPacket → Bool
  | .publish5 _ | .publish3 _ => true
  | _ => false

def isPubRel : MqttPacket → Bool
  | .pubRel5 _ | .pubRel3 _ => true
  | _ => false

end MqttPacket

structure InflightEntry (T : Type) where
  packetId : UInt16
  packet : MqttPacket
  sentAt : T
  retryCount : Nat
  qos : UInt8
  stream : Option Nat

structure InflightQueue (T : Type) where
  entries : AList (fun _ : UInt16 => InflightEntry T)
  admissionOrder : List UInt16
  deadlineQueue : List (UInt16 × T)
  receiveMaximum : UInt16
  mqttVersion : UInt8
  retransmissionTimeout : Nat
  publishQuotaUsed : Nat
  lastUpdate : Option T
  order_nodup : admissionOrder.Nodup
  order_mem : ∀ id, id ∈ admissionOrder ↔ (entries.lookup id).isSome
  entry_key : ∀ id entry, entries.lookup id = some entry → entry.packetId = id
  untimed : mqttVersion = 5 → deadlineQueue = []

namespace InflightQueue

def new (receiveMaximum : UInt16) (mqttVersion : UInt8) (retransmissionTimeout : Nat) :
    InflightQueue T :=
  ⟨∅, [], [], if receiveMaximum = 0 then 65535 else receiveMaximum, mqttVersion,
    retransmissionTimeout, 0, none, .nil, fun _ => by simp, fun _ _ h => by simp at h, fun _ => rfl⟩

/-- `check_time`. It answers the deadline of an entry sent now, which `refresh_deadline`
computes a second time: its `expect` sees the value tested here. -/
def checkTime (q : InflightQueue T) (now : T) : Except MqttClientError (Option T) :=
  let rejected := .error (.invalidConfiguration "monotonic_time"
    "inflight timestamp moved backwards or its deadline overflowed")
  if q.lastUpdate.any (fun last => now < last) then rejected
  else if q.mqttVersion = 5 then .ok none
  else match TimePoint.checkedAdd now q.retransmissionTimeout with
    | some deadline => .ok (some deadline)
    | none => rejected

def canPushPublish (q : InflightQueue T) : Bool := q.publishQuotaUsed < q.receiveMaximum.toNat

def updateReceiveMaximum (q : InflightQueue T) (receiveMaximum : UInt16) : InflightQueue T :=
  if receiveMaximum > 0 then { q with receiveMaximum := receiveMaximum } else q

def contains (q : InflightQueue T) (packetId : UInt16) : Bool := (q.entries.lookup packetId).isSome

def get (q : InflightQueue T) (packetId : UInt16) : Option (InflightEntry T) :=
  q.entries.lookup packetId

def isEmpty (q : InflightQueue T) : Bool := q.entries.keys.isEmpty

/-- `refresh_deadline`: one live deadline for each exchange, in MQTT 3. -/
def refreshDeadline (mqttVersion : UInt8) (deadlines : List (UInt16 × T)) (packetId : UInt16)
    (deadline : Option T) : List (UInt16 × T) :=
  if mqttVersion = 5 then deadlines
  else deadlines.filter (fun d => d.1 ≠ packetId) ++ (deadline.map (packetId, ·)).toList

/-- The insertion of `push_with_stream_at`, for an identifier that is not in use. -/
def admitEntry (q : InflightQueue T) (entry : InflightEntry T)
    (fresh : q.entries.lookup entry.packetId = none) (deadline : Option T) : InflightQueue T where
  entries := q.entries.insert entry.packetId entry
  admissionOrder := q.admissionOrder ++ [entry.packetId]
  deadlineQueue := refreshDeadline q.mqttVersion q.deadlineQueue entry.packetId deadline
  receiveMaximum := q.receiveMaximum
  mqttVersion := q.mqttVersion
  retransmissionTimeout := q.retransmissionTimeout
  publishQuotaUsed := if entry.packet.isPublish then q.publishQuotaUsed + 1 else q.publishQuotaUsed
  lastUpdate := some entry.sentAt
  order_nodup := by
    refine q.order_nodup.append (List.nodup_singleton _) ?_
    intro id hid hnew
    rw [List.mem_singleton.mp hnew, q.order_mem, fresh] at hid
    cases hid
  order_mem := by
    intro id
    by_cases h : id = entry.packetId
    · subst h
      simp
    · rw [AList.lookup_insert_ne h, ← q.order_mem]
      simp [h]
  entry_key := by
    intro id e he
    by_cases h : id = entry.packetId
    · subst h
      rw [AList.lookup_insert] at he
      cases he
      rfl
    · rw [AList.lookup_insert_ne h] at he
      exact q.entry_key id e he
  untimed := by
    intro h
    rw [refreshDeadline, if_pos h]
    exact q.untimed h

def pushWithStreamAt (q : InflightQueue T) (packetId : UInt16) (packet : MqttPacket) (qos : UInt8)
    (stream : Option Nat) (now : T) : Except MqttClientError (InflightQueue T) := do
  let deadline ← q.checkTime now
  if packetId = 0 then throw (.invalidPacketId packetId)
  else match fresh : q.entries.lookup packetId with
    | some _ => throw (.invalidPacketId packetId)
    | none =>
      if packet.isPublish ∧ ¬ q.canPushPublish then
        throw (.bufferFull "inflight_publish" q.receiveMaximum.toNat)
      else return q.admitEntry ⟨packetId, packet, now, 0, qos, stream⟩ fresh deadline

def pushAt (q : InflightQueue T) (packetId : UInt16) (packet : MqttPacket) (qos : UInt8) (now : T) :
    Except MqttClientError (InflightQueue T) :=
  q.pushWithStreamAt packetId packet qos none now

/-- `entries.get_mut`: change the entry of an identifier, its key apart. -/
def alter (entries : AList (fun _ : UInt16 => InflightEntry T)) (packetId : UInt16)
    (f : InflightEntry T → InflightEntry T) : AList (fun _ : UInt16 => InflightEntry T) :=
  match entries.lookup packetId with
  | none => entries
  | some entry => entries.insert packetId { f entry with packetId := packetId }

omit [TimePoint T] in
theorem lookup_alter (entries : AList (fun _ : UInt16 => InflightEntry T)) (packetId id : UInt16)
    (f : InflightEntry T → InflightEntry T) :
    (alter entries packetId f).lookup id =
      if id = packetId then
        (entries.lookup packetId).map (fun entry => { f entry with packetId := packetId })
      else entries.lookup id := by
  unfold alter
  split
  next h =>
    split
    next heq =>
      rw [heq, h]
      rfl
    next => rfl
  next entry h =>
    split
    next heq =>
      subst heq
      rw [AList.lookup_insert, h]
      rfl
    next hne => exact AList.lookup_insert_ne hne

/-- Change one entry in place, with the deadlines that follow from it. -/
def replace (q : InflightQueue T) (packetId : UInt16) (f : InflightEntry T → InflightEntry T)
    (deadlines : List (UInt16 × T)) (untimed : q.mqttVersion = 5 → deadlines = []) (now : T) :
    InflightQueue T :=
  { q with
    untimed
    entries := alter q.entries packetId f
    deadlineQueue := deadlines
    lastUpdate := some now
    order_mem := by
      intro id
      rw [q.order_mem, lookup_alter]
      split
      next h => rw [h, Option.isSome_map]
      next => rfl
    entry_key := by
      intro id entry h
      rw [lookup_alter] at h
      split at h
      next heq =>
        obtain ⟨old, _, rfl⟩ := Option.map_eq_some_iff.mp h
        exact heq.symm
      next => exact q.entry_key id entry h }

def transitionPubrelAt (q : InflightQueue T) (packetId : UInt16) (packet : MqttPacket) (now : T) :
    Except MqttClientError (InflightQueue T) := do
  let deadline ← q.checkTime now
  return q.replace packetId (fun entry => { entry with packet := packet, sentAt := now })
    (if q.contains packetId then
      refreshDeadline q.mqttVersion q.deadlineQueue packetId deadline else q.deadlineQueue)
    (fun h => by rw [refreshDeadline, if_pos h, q.untimed h, ite_self]) now

def resumeOnStreamAt (q : InflightQueue T) (packetId : UInt16) (stream : Nat) (now : T) :
    Except MqttClientError (InflightQueue T) := do
  let deadline ← q.checkTime now
  return q.replace packetId (fun entry => { entry with stream := some stream, sentAt := now })
    (if q.contains packetId then
      refreshDeadline q.mqttVersion q.deadlineQueue packetId deadline else q.deadlineQueue)
    (fun h => by rw [refreshDeadline, if_pos h, q.untimed h, ite_self]) now

/-- `acknowledge`: the removed entry and the queue without it. -/
def acknowledge (q : InflightQueue T) (packetId : UInt16) :
    Option (InflightEntry T) × InflightQueue T :=
  match q.entries.lookup packetId with
  | none => (none, q)
  | some entry =>
    (some entry, { q with
      entries := q.entries.erase packetId
      admissionOrder := q.admissionOrder.filter (fun id => id ≠ packetId)
      deadlineQueue := q.deadlineQueue.filter (fun d => d.1 ≠ packetId)
      publishQuotaUsed := if entry.packet.isPublish || entry.packet.isPubRel
        then q.publishQuotaUsed - 1 else q.publishQuotaUsed
      order_nodup := q.order_nodup.filter _
      order_mem := by
        intro id
        by_cases h : id = packetId
        · subst h
          simp
        · rw [AList.lookup_erase_ne h, List.mem_filter, q.order_mem]
          simp [h]
      entry_key := by
        intro id e he
        by_cases h : id = packetId
        · subst h
          rw [AList.lookup_erase] at he
          cases he
        · rw [AList.lookup_erase_ne h] at he
          exact q.entry_key id e he
      untimed := fun h => by rw [q.untimed h, List.filter_nil] })

/-- An entry that is sent once more. -/
def retried (now : T) (e : InflightEntry T) : InflightEntry T :=
  { e with retryCount := min (e.retryCount + 1) (2 ^ 32 - 1), sentAt := now }

omit [TimePoint T] in
theorem timer_absurd {q : InflightQueue T} {d : UInt16 × T} {rest : List (UInt16 × T)}
    (timed : q.deadlineQueue = d :: rest) (h : q.mqttVersion = 5) : False := by
  rw [q.untimed h] at timed
  cases timed

/-- The loop of `get_expired_with_stream_at`, at most once for each deadline. -/
def expireLoop (now : T) (deadline : Option T) :
    Nat → InflightQueue T → List (MqttPacket × Option Nat) →
      List (MqttPacket × Option Nat) × InflightQueue T
  | 0, q, expired => (expired, q)
  | fuel + 1, q, expired =>
    match timed : q.deadlineQueue with
    | [] => (expired, q)
    | (id, due) :: rest =>
      if now < due then (expired, q)
      else match q.get id with
        | none => expireLoop now deadline fuel
            { q with deadlineQueue := rest, untimed := fun h => (timer_absurd timed h).elim } expired
        | some entry =>
          expireLoop now deadline fuel
            (q.replace id (retried now) (refreshDeadline q.mqttVersion rest id deadline)
              (fun h => (timer_absurd timed h).elim) now)
            (expired ++ [(entry.packet, entry.stream)])

def getExpiredWithStreamAt (q : InflightQueue T) (now : T) :
    Except MqttClientError (List (MqttPacket × Option Nat) × InflightQueue T) := do
  let deadline ← q.checkTime now
  return expireLoop now deadline q.deadlineQueue.length { q with lastUpdate := some now } []

/-- `clear`: the limits and the time of the last update stay. -/
def clear (q : InflightQueue T) : InflightQueue T :=
  { q with
    entries := ∅
    admissionOrder := []
    deadlineQueue := []
    publishQuotaUsed := 0
    order_nodup := .nil
    order_mem := fun _ => by simp
    entry_key := fun _ _ h => by simp at h
    untimed := fun _ => rfl }

/-- `snapshot_for_reconnect`: the outstanding packets in order of admission. -/
def snapshotForReconnect (q : InflightQueue T) : List (UInt16 × MqttPacket) :=
  q.admissionOrder.filterMap
    (fun id => (q.entries.lookup id).map (fun entry => (entry.packetId, entry.packet)))

/-- The stream that an outstanding packet was sent on. -/
def tags (q : InflightQueue T) (id : UInt16) : Option (Option Nat) :=
  (q.get id).map InflightEntry.stream

def nextExpiration (q : InflightQueue T) : Option T := q.deadlineQueue.head?.map Prod.snd

/-! ## The queue as a list -/

omit [TimePoint T] in
theorem mem_snapshot {q : InflightQueue T} {id : UInt16} {packet : MqttPacket} :
    (id, packet) ∈ q.snapshotForReconnect ↔
      ∃ entry, q.get id = some entry ∧ entry.packet = packet := by
  rw [snapshotForReconnect, List.mem_filterMap]
  constructor
  · rintro ⟨key, _, h⟩
    obtain ⟨entry, hentry, heq⟩ := Option.map_eq_some_iff.mp h
    cases heq
    rw [q.entry_key key entry hentry]
    exact ⟨entry, hentry, rfl⟩
  · rintro ⟨entry, hentry, rfl⟩
    have hsome : (q.entries.lookup id).isSome := by
      rw [show q.entries.lookup id = some entry from hentry]
      rfl
    refine ⟨id, (q.order_mem id).mpr hsome, ?_⟩
    rw [show q.entries.lookup id = some entry from hentry]
    exact congrArg some (Prod.ext (q.entry_key id entry hentry) rfl)

omit [TimePoint T] in
theorem filterMap_ids {entries : AList (fun _ : UInt16 => InflightEntry T)}
    (hkey : ∀ id entry, entries.lookup id = some entry → entry.packetId = id) :
    ∀ ids : List UInt16, (∀ id ∈ ids, (entries.lookup id).isSome) →
      (ids.filterMap (fun id =>
        (entries.lookup id).map (fun entry => (entry.packetId, entry.packet)))).map Prod.fst = ids
  | [], _ => rfl
  | id :: ids, h => by
    obtain ⟨entry, hentry⟩ := Option.isSome_iff_exists.mp (h id List.mem_cons_self)
    have ih := filterMap_ids hkey ids (fun i hi => h i (List.mem_cons_of_mem _ hi))
    rw [List.filterMap_cons, hentry]
    simp only [Option.map_some, List.map_cons, ih, hkey id entry hentry]

omit [TimePoint T] in
theorem snapshot_ids (q : InflightQueue T) : q.snapshotForReconnect.map Prod.fst = q.admissionOrder :=
  filterMap_ids q.entry_key _ (fun id h => (q.order_mem id).mp h)

omit [TimePoint T] in
theorem snapshot_nodup (q : InflightQueue T) : (q.snapshotForReconnect.map Prod.fst).Nodup := by
  rw [snapshot_ids]
  exact q.order_nodup

omit [TimePoint T] in
theorem contains_iff {q : InflightQueue T} {id : UInt16} :
    q.contains id = true ↔ id ∈ q.snapshotForReconnect.map Prod.fst := by
  rw [snapshot_ids, q.order_mem]
  rfl

omit [TimePoint T] in
theorem get_eq_none {q : InflightQueue T} {id : UInt16} :
    q.get id = none ↔ id ∉ q.snapshotForReconnect.map Prod.fst := by
  rw [snapshot_ids, q.order_mem]
  exact Option.not_isSome_iff_eq_none.symm

/-- The clock accepts an exchange sent now. -/
def ClockOk (lastUpdate : Option T) (mqttVersion : UInt8) (retransmissionTimeout : Nat) (now : T) :
    Prop :=
  (∀ last ∈ lastUpdate, ¬ now < last) ∧
    (mqttVersion = 5 ∨ (TimePoint.checkedAdd now retransmissionTimeout).isSome)

theorem checkTime_ok_iff {q : InflightQueue T} {now : T} :
    (∃ deadline, q.checkTime now = .ok deadline) ↔
      ClockOk q.lastUpdate q.mqttVersion q.retransmissionTimeout now := by
  rw [checkTime, ClockOk]
  rcases hl : q.lastUpdate with _ | last
  · by_cases hv : q.mqttVersion = 5
    · simp [hv]
    · cases hd : TimePoint.checkedAdd now q.retransmissionTimeout <;> simp [hv]
  · by_cases hlt : now < last
    · simp [hlt]
    · by_cases hv : q.mqttVersion = 5
      · simp [hv, hlt, not_lt.mp hlt]
      · cases hd : TimePoint.checkedAdd now q.retransmissionTimeout <;>
          simp [hv, hlt, not_lt.mp hlt]

/-- What a queue keeps when entries come and go. -/
structure SameLimits (q q' : InflightQueue T) : Prop where
  receiveMaximum : q'.receiveMaximum = q.receiveMaximum
  mqttVersion : q'.mqttVersion = q.mqttVersion
  retransmissionTimeout : q'.retransmissionTimeout = q.retransmissionTimeout

omit [TimePoint T] in
theorem admit_tags {q : InflightQueue T} {entry : InflightEntry T}
    (fresh : q.entries.lookup entry.packetId = none) (deadline : Option T) :
    (q.admitEntry entry fresh deadline).tags =
      fun i => if i = entry.packetId then some entry.stream else q.tags i := by
  funext i
  show ((q.entries.insert entry.packetId entry).lookup i).map InflightEntry.stream = _
  split
  next h => rw [h, AList.lookup_insert, Option.map_some]
  next h => rw [AList.lookup_insert_ne h, tags, get]

omit [TimePoint T] in
/-- A change that keeps the stream of the entry keeps the streams. -/
theorem replace_tags (q : InflightQueue T) (packetId : UInt16) {f : InflightEntry T → InflightEntry T}
    (hf : ∀ entry, (f entry).stream = entry.stream) (deadlines : List (UInt16 × T))
    (untimed : q.mqttVersion = 5 → deadlines = []) (now : T) :
    (q.replace packetId f deadlines untimed now).tags = q.tags := by
  funext i
  show ((alter q.entries packetId f).lookup i).map InflightEntry.stream = _
  rw [lookup_alter]
  split
  next h =>
    rw [h, Option.map_map, tags, get]
    exact congrFun (congrArg Option.map (funext hf)) _
  next => rfl

omit [TimePoint T] in
theorem acknowledge_tags (q : InflightQueue T) (packetId : UInt16) :
    (q.acknowledge packetId).2.tags = fun i => if i = packetId then none else q.tags i := by
  funext i
  rw [acknowledge]
  split
  next h =>
    show q.tags i = _
    split
    next hi => rw [hi, tags, get, h, Option.map_none]
    next => rfl
  next entry h =>
    show ((q.entries.erase packetId).lookup i).map InflightEntry.stream = _
    split
    next hi => rw [hi, AList.lookup_erase, Option.map_none]
    next hi => rw [AList.lookup_erase_ne hi, tags, get]

omit [TimePoint T] in
theorem admit_snapshot {q : InflightQueue T} {entry : InflightEntry T}
    (fresh : q.entries.lookup entry.packetId = none) (deadline : Option T) :
    (q.admitEntry entry fresh deadline).snapshotForReconnect =
      q.snapshotForReconnect ++ [(entry.packetId, entry.packet)] := by
  have hold : ∀ id ∈ q.admissionOrder, id ≠ entry.packetId := by
    rintro id hid rfl
    rw [q.order_mem, fresh] at hid
    cases hid
  rw [snapshotForReconnect, snapshotForReconnect]
  simp only [admitEntry, List.filterMap_append, List.filterMap_cons, AList.lookup_insert,
    Option.map_some, List.filterMap_nil]
  congr 1
  refine List.filterMap_congr (fun id hid => ?_)
  rw [AList.lookup_insert_ne (hold id hid)]

/-- A push succeeds when the clock, the identifier and the quota allow it. -/
def Admits (q : InflightQueue T) (packetId : UInt16) (packet : MqttPacket) (now : T) : Prop :=
  ClockOk q.lastUpdate q.mqttVersion q.retransmissionTimeout now ∧ packetId ≠ 0 ∧
    packetId ∉ q.snapshotForReconnect.map Prod.fst ∧ (packet.isPublish → q.canPushPublish)

theorem checkTime_error {q : InflightQueue T} {now : T} {e : MqttClientError}
    (h : q.checkTime now = .error e) :
    ¬ ClockOk q.lastUpdate q.mqttVersion q.retransmissionTimeout now ∧
      e.isOperationTimeout = false := by
  refine ⟨fun hclock => ?_, ?_⟩
  · obtain ⟨deadline, hok⟩ := checkTime_ok_iff.mpr hclock
    rw [h] at hok
    cases hok
  · unfold checkTime at h
    split at h
    · cases h
      rfl
    · split at h
      · cases h
      · split at h
        · cases h
        · cases h
          rfl

theorem pushWithStreamAt_cases (q : InflightQueue T) (packetId : UInt16) (packet : MqttPacket)
    (qos : UInt8) (stream : Option Nat) (now : T) :
    (¬ q.Admits packetId packet now ∧
      ∃ e, q.pushWithStreamAt packetId packet qos stream now = .error e ∧
        e.isOperationTimeout = false) ∨
    (q.Admits packetId packet now ∧
      ∃ q', q.pushWithStreamAt packetId packet qos stream now = .ok q' ∧
        q'.snapshotForReconnect = q.snapshotForReconnect ++ [(packetId, packet)] ∧
        q'.publishQuotaUsed =
          (if packet.isPublish then q.publishQuotaUsed + 1 else q.publishQuotaUsed) ∧
        q'.tags = (fun i => if i = packetId then some stream else q.tags i) ∧
        q'.lastUpdate = some now ∧ SameLimits q q') := by
  rw [pushWithStreamAt]
  cases ht : q.checkTime now with
  | error e => exact .inl ⟨fun h => (checkTime_error ht).1 h.1, e, rfl, (checkTime_error ht).2⟩
  | ok deadline =>
    show (_ ∧ ∃ e, (if packetId = 0 then _ else _) = _ ∧ _) ∨
      (_ ∧ ∃ q', (if packetId = 0 then _ else _) = _ ∧ _)
    by_cases hzero : packetId = 0
    · rw [if_pos hzero]
      exact .inl ⟨fun h => h.2.1 hzero, _, rfl, rfl⟩
    rw [if_neg hzero]
    split
    next entry hfound =>
      refine .inl ⟨fun h => h.2.2.1 ?_, _, rfl, rfl⟩
      rw [snapshot_ids, q.order_mem, hfound]
      rfl
    next hfresh =>
      split
      next hfull => exact .inl ⟨fun h => hfull.2 (h.2.2.2 hfull.1), _, rfl, rfl⟩
      next hroom =>
        refine .inr ⟨⟨checkTime_ok_iff.mp ⟨deadline, ht⟩, hzero, get_eq_none.mp hfresh,
          fun hp => ?_⟩, _, rfl, admit_snapshot hfresh deadline, rfl, admit_tags hfresh deadline, rfl,
          ⟨rfl, rfl, rfl⟩⟩
        by_contra hc
        exact hroom ⟨hp, hc⟩

omit [TimePoint T] in
/-- What `acknowledge` leaves behind, whether or not the identifier was outstanding. -/
theorem acknowledge_snapshot (q : InflightQueue T) (packetId : UInt16) :
    (q.acknowledge packetId).2.snapshotForReconnect =
      q.snapshotForReconnect.filter (fun e => e.1 ≠ packetId) := by
  rw [acknowledge]
  split
  next h =>
    refine (List.filter_eq_self.mpr fun e he => ?_).symm
    have hid : e.1 ∈ q.snapshotForReconnect.map Prod.fst := List.mem_map_of_mem he
    rw [snapshot_ids, q.order_mem] at hid
    have : e.1 ≠ packetId := by
      rintro rfl
      rw [h] at hid
      cases hid
    simpa using this
  next entry h =>
    simp only [snapshotForReconnect]
    rw [List.filterMap_filter, List.filter_filterMap]
    refine List.filterMap_congr (fun id _ => ?_)
    by_cases heq : id = packetId
    · subst heq
      simp [h, q.entry_key id entry h, Option.filter]
    · rw [AList.lookup_erase_ne heq]
      cases hlook : q.entries.lookup id with
      | none => simp [heq]
      | some e => simp [heq, q.entry_key id e hlook, Option.filter]

omit [TimePoint T] in
theorem replace_snapshot (q : InflightQueue T) (packetId : UInt16)
    (f : InflightEntry T → InflightEntry T) (deadlines : List (UInt16 × T))
    (untimed : q.mqttVersion = 5 → deadlines = []) (now : T) :
    (q.replace packetId f deadlines untimed now).snapshotForReconnect =
      q.admissionOrder.filterMap (fun id => (q.entries.lookup id).map (fun entry =>
        (entry.packetId, if id = packetId then (f entry).packet else entry.packet))) := by
  simp only [snapshotForReconnect, replace]
  refine List.filterMap_congr (fun id _ => ?_)
  rw [lookup_alter]
  by_cases heq : id = packetId
  · subst heq
    cases hlook : q.entries.lookup id with
    | none => simp
    | some e => simp [q.entry_key id e hlook]
  · simp [heq]

omit [TimePoint T] in
/-- `acknowledge` answers the entry that was outstanding and gives its quota back. -/
theorem acknowledge_cases (q : InflightQueue T) (packetId : UInt16) :
    (packetId ∉ q.snapshotForReconnect.map Prod.fst ∧ q.acknowledge packetId = (none, q)) ∨
    ∃ entry, q.get packetId = some entry ∧
      (q.acknowledge packetId).1 = some entry ∧
      (q.acknowledge packetId).2.publishQuotaUsed =
        (if entry.packet.isPublish || entry.packet.isPubRel then q.publishQuotaUsed - 1
          else q.publishQuotaUsed) := by
  rw [acknowledge]
  split
  next h => exact .inl ⟨get_eq_none.mp h, rfl⟩
  next entry h => exact .inr ⟨entry, h, rfl, rfl⟩

omit [TimePoint T] in
theorem acknowledge_limits (q : InflightQueue T) (packetId : UInt16) :
    SameLimits q (q.acknowledge packetId).2 ∧
      (q.acknowledge packetId).2.lastUpdate = q.lastUpdate := by
  rw [acknowledge]
  split <;> exact ⟨⟨rfl, rfl, rfl⟩, rfl⟩

omit [TimePoint T] in
/-- A change that keeps the packet of the entry keeps the list. -/
theorem replace_same_packet {q : InflightQueue T} {packetId : UInt16}
    {f : InflightEntry T → InflightEntry T} (hf : ∀ entry, (f entry).packet = entry.packet)
    (deadlines : List (UInt16 × T)) (untimed : q.mqttVersion = 5 → deadlines = []) (now : T) :
    (q.replace packetId f deadlines untimed now).snapshotForReconnect = q.snapshotForReconnect := by
  rw [replace_snapshot, snapshotForReconnect]
  simp only [hf, ite_self]

omit [TimePoint T] in
theorem replace_packet (q : InflightQueue T) (packetId : UInt16) (packet : MqttPacket)
    {f : InflightEntry T → InflightEntry T} (hf : ∀ entry, (f entry).packet = packet)
    (deadlines : List (UInt16 × T)) (untimed : q.mqttVersion = 5 → deadlines = []) (now : T) :
    (q.replace packetId f deadlines untimed now).snapshotForReconnect =
      q.snapshotForReconnect.map (fun e => (e.1, if e.1 = packetId then packet else e.2)) := by
  rw [replace_snapshot, snapshotForReconnect, List.map_filterMap]
  refine List.filterMap_congr (fun id _ => ?_)
  cases hlook : q.entries.lookup id with
  | none => rfl
  | some entry => simp [hf, q.entry_key id entry hlook]

theorem transitionPubrelAt_cases (q : InflightQueue T) (packetId : UInt16) (packet : MqttPacket)
    (now : T) :
    (¬ ClockOk q.lastUpdate q.mqttVersion q.retransmissionTimeout now ∧
      ∃ e, q.transitionPubrelAt packetId packet now = .error e) ∨
    ∃ q', q.transitionPubrelAt packetId packet now = .ok q' ∧
      q'.snapshotForReconnect =
        q.snapshotForReconnect.map (fun e => (e.1, if e.1 = packetId then packet else e.2)) ∧
      q'.publishQuotaUsed = q.publishQuotaUsed ∧ q'.tags = q.tags ∧ q'.lastUpdate = some now ∧
      SameLimits q q' := by
  rw [transitionPubrelAt]
  cases ht : q.checkTime now with
  | error e => exact .inl ⟨(checkTime_error ht).1, e, rfl⟩
  | ok deadline =>
    exact .inr ⟨_, rfl, replace_packet q packetId packet (fun _ => rfl) _ _ now, rfl,
      replace_tags q packetId (f := fun entry => { entry with packet := packet, sentAt := now })
        (fun _ => rfl) _ _ now, rfl, rfl, rfl, rfl⟩

/-- What a retransmission round leaves as it is. -/
structure Retransmits (q q' : InflightQueue T) : Prop where
  snapshot : q'.snapshotForReconnect = q.snapshotForReconnect
  publishQuotaUsed : q'.publishQuotaUsed = q.publishQuotaUsed
  tags : q'.tags = q.tags
  limits : SameLimits q q'

/-- The loop changes no packet, and what it answers is outstanding. -/
theorem expireLoop_spec (now : T) (deadline : Option T) :
    ∀ (fuel : Nat) (q : InflightQueue T) (expired : List (MqttPacket × Option Nat)),
      q.lastUpdate = some now →
      Retransmits q (expireLoop now deadline fuel q expired).2 ∧
      (expireLoop now deadline fuel q expired).2.lastUpdate = some now ∧
      ∀ e ∈ (expireLoop now deadline fuel q expired).1,
        e ∈ expired ∨ ∃ id, (id, e.1) ∈ q.snapshotForReconnect
  | 0, q, expired, h => ⟨⟨rfl, rfl, rfl, rfl, rfl, rfl⟩, h, fun _ he => .inl he⟩
  | fuel + 1, q, expired, h => by
    rw [expireLoop]
    split
    next => exact ⟨⟨rfl, rfl, rfl, rfl, rfl, rfl⟩, h, fun _ he => .inl he⟩
    next id due rest timed =>
      have huntimed : ∀ list : List (UInt16 × T), q.mqttVersion = 5 → list = [] :=
        fun _ h5 => (timer_absurd timed h5).elim
      split
      next => exact ⟨⟨rfl, rfl, rfl, rfl, rfl, rfl⟩, h, fun _ he => .inl he⟩
      next =>
        split
        next =>
          obtain ⟨hr, hlast, hexp⟩ := expireLoop_spec now deadline fuel
            { q with deadlineQueue := rest, untimed := huntimed _ } expired h
          exact ⟨⟨hr.snapshot, hr.publishQuotaUsed, hr.tags, hr.limits.receiveMaximum,
            hr.limits.mqttVersion, hr.limits.retransmissionTimeout⟩, hlast, hexp⟩
        next entry hget =>
          have hsnap : (q.replace id (retried now) (refreshDeadline q.mqttVersion rest id deadline)
              (huntimed _) now).snapshotForReconnect = q.snapshotForReconnect :=
            replace_same_packet (f := retried now) (fun _ => rfl) _ _ _
          obtain ⟨hr, hlast, hexp⟩ := expireLoop_spec now deadline fuel
            (q.replace id (retried now) (refreshDeadline q.mqttVersion rest id deadline)
              (huntimed _) now)
            (expired ++ [(entry.packet, entry.stream)]) rfl
          have htags := q.replace_tags id (f := retried now) (fun _ => rfl)
            (refreshDeadline q.mqttVersion rest id deadline) (huntimed _) now
          refine ⟨⟨hr.snapshot.trans hsnap, hr.publishQuotaUsed, hr.tags.trans htags,
            hr.limits.receiveMaximum,
            hr.limits.mqttVersion, hr.limits.retransmissionTimeout⟩, hlast, fun e he => ?_⟩
          rcases hexp e he with hin | ⟨i, hi⟩
          · rcases List.mem_append.mp hin with hin | hin
            · exact .inl hin
            · rw [List.mem_singleton.mp hin]
              exact .inr ⟨id, mem_snapshot.mpr ⟨entry, hget, rfl⟩⟩
          · exact .inr ⟨i, hsnap ▸ hi⟩

theorem getExpiredWithStreamAt_cases (q : InflightQueue T) (now : T) :
    (¬ ClockOk q.lastUpdate q.mqttVersion q.retransmissionTimeout now ∧
      ∃ e, q.getExpiredWithStreamAt now = .error e) ∨
    ClockOk q.lastUpdate q.mqttVersion q.retransmissionTimeout now ∧
      ∃ expired q', q.getExpiredWithStreamAt now = .ok (expired, q') ∧ Retransmits q q' ∧
      q'.lastUpdate = some now ∧
      ∀ e ∈ expired, q.mqttVersion ≠ 5 ∧ ∃ id, (id, e.1) ∈ q.snapshotForReconnect := by
  rw [getExpiredWithStreamAt]
  cases ht : q.checkTime now with
  | error e => exact .inl ⟨(checkTime_error ht).1, e, rfl⟩
  | ok deadline =>
    obtain ⟨hr, hlast, hexp⟩ := expireLoop_spec now deadline q.deadlineQueue.length
      { q with lastUpdate := some now } [] rfl
    refine .inr ⟨checkTime_ok_iff.mp ⟨deadline, ht⟩, _, _, rfl, ⟨hr.snapshot, hr.publishQuotaUsed, hr.tags, hr.limits.receiveMaximum,
      hr.limits.mqttVersion, hr.limits.retransmissionTimeout⟩, hlast, fun e he => ⟨fun h5 => ?_, ?_⟩⟩
    · rw [show q.deadlineQueue.length = 0 by rw [q.untimed h5, List.length_nil]] at he
      cases he
    · rcases hexp e he with hin | hin
      · cases hin
      · exact hin

end InflightQueue

end FlowSdk
