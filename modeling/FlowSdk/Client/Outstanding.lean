/-
  FlowSdk.Client.Outstanding — the four structures of the in-flight queue agree.

  The map of entries, the order of admission, the deadlines and the counter of the quota are
  updated one by one. `Outstanding` says how they belong together after any sequence of
  operations; `Timed` is its part about the deadlines, over the entries alone, so that a push,
  a PUBREL, a resumed stream and a retransmission are one case.

  Main results:
    1. `Timed.refresh`, `Timed.forget`   what becomes of the deadlines
    2. `expireLoop_answers`              the rotating loop visits what was due, once
    3. `inflight_represented`            what holds after any sequence of operations
-/
import FlowSdk.Client.Timer
import Mathlib.Data.List.Dedup

namespace FlowSdk

variable {T : Type} [TimePoint T]

/-- The packets that `acknowledge` gives quota back for. -/
def MqttPacket.isPublishExchange (packet : MqttPacket) : Bool := packet.isPublish || packet.isPubRel

/-- The operations that change an in-flight queue. -/
inductive InflightOp (T : Type) where
  | push (packetId : UInt16) (packet : MqttPacket) (qos : UInt8) (stream : Option Nat) (now : T)
  | transitionPubrel (packetId : UInt16) (packet : MqttPacket) (released : packet.isPubRel)
      (now : T)
  | resumeOnStream (packetId : UInt16) (stream : Nat) (now : T)
  | acknowledge (packetId : UInt16)
  | getExpired (now : T)
  | updateReceiveMaximum (receiveMaximum : UInt16)
  | clear

/-- The identifier of a push. -/
def InflightOp.pushed : InflightOp T → List UInt16
  | .push packetId _ _ _ _ => [packetId]
  | .transitionPubrel _ _ _ _ | .resumeOnStream _ _ _ | .acknowledge _ | .getExpired _
  | .updateReceiveMaximum _ | .clear => []

namespace InflightQueue

/-! ## Sequences of operations -/

def perform (q : InflightQueue T) : InflightOp T → Except MqttClientError (InflightQueue T)
  | .push packetId packet qos stream now => q.pushWithStreamAt packetId packet qos stream now
  | .transitionPubrel packetId packet _ now => q.transitionPubrelAt packetId packet now
  | .resumeOnStream packetId stream now => q.resumeOnStreamAt packetId stream now
  | .acknowledge packetId => .ok (q.acknowledge packetId).2
  | .getExpired now => (q.getExpiredWithStreamAt now).map Prod.snd
  | .updateReceiveMaximum receiveMaximum => .ok (q.updateReceiveMaximum receiveMaximum)
  | .clear => .ok q.clear

/-- A refused operation changes nothing. -/
def next (q : InflightQueue T) (op : InflightOp T) : InflightQueue T :=
  match q.perform op with
  | .ok q' => q'
  | .error _ => q

def performAll (q : InflightQueue T) (ops : List (InflightOp T)) : InflightQueue T :=
  ops.foldl next q

/-- The identifier that an operation inserts. -/
def inserted (q : InflightQueue T) (op : InflightOp T) : List UInt16 :=
  match q.perform op with
  | .ok _ => op.pushed
  | .error _ => []

/-- The identifiers inserted by a sequence of operations, the earliest first. -/
def insertions (q : InflightQueue T) : List (InflightOp T) → List UInt16
  | [] => []
  | op :: ops => q.inserted op ++ insertions (q.next op) ops

/-! ## The deadlines -/

/-- One deadline for each entry, the timeout after it was sent, the earliest first. -/
structure Timed (timeout : Nat) (get : UInt16 → Option (InflightEntry T))
    (deadlines : List (UInt16 × T)) : Prop where
  once : (deadlines.map Prod.fst).Nodup
  due : ∀ d ∈ deadlines, ∃ entry, get d.1 = some entry ∧
    TimePoint.checkedAdd entry.sentAt timeout = some d.2
  complete : ∀ id, (get id).isSome → id ∈ deadlines.map Prod.fst
  sorted : deadlines.Pairwise (fun a b => a.2 ≤ b.2)

variable {timeout : Nat} {get get' : UInt16 → Option (InflightEntry T)}
  {deadlines : List (UInt16 × T)} {id : UInt16} {now deadline : T}

theorem Timed.forget (h : Timed timeout get deadlines) (hother : ∀ i, i ≠ id → get' i = get i)
    (hid : get' id = none) : Timed timeout get' (deadlines.filter (fun d => d.1 ≠ id)) where
  once := h.once.sublist (List.filter_sublist.map Prod.fst)
  due d hd := by
    obtain ⟨hmem, hne⟩ := List.mem_filter.mp hd
    obtain ⟨entry, hget, hdue⟩ := h.due d hmem
    exact ⟨entry, (hother d.1 (of_decide_eq_true hne)).trans hget, hdue⟩
  complete i hi := by
    have hne : i ≠ id := by
      rintro rfl
      rw [hid] at hi
      cases hi
    rw [hother i hne] at hi
    obtain ⟨d, hd, rfl⟩ := List.mem_map.mp (h.complete i hi)
    exact List.mem_map_of_mem (List.mem_filter.mpr ⟨hd, decide_eq_true hne⟩)
  sorted := h.sorted.filter _

/-- An entry sent now gets the last deadline, because no entry was sent later. -/
theorem Timed.refresh [OrderedTimePoint T] (h : Timed timeout get deadlines)
    (hpast : ∀ i entry, get i = some entry → entry.sentAt ≤ now)
    (hadd : TimePoint.checkedAdd now timeout = some deadline)
    (hother : ∀ i, i ≠ id → get' i = get i)
    (hid : ∃ entry, get' id = some entry ∧ entry.sentAt = now) :
    Timed timeout get' (deadlines.filter (fun d => d.1 ≠ id) ++ [(id, deadline)]) where
  once := by
    rw [List.map_append]
    refine (h.once.sublist (List.filter_sublist.map Prod.fst)).append (List.nodup_singleton id) ?_
    intro i hi hnew
    obtain ⟨d, hd, rfl⟩ := List.mem_map.mp hi
    exact of_decide_eq_true (List.mem_filter.mp hd).2 (List.mem_singleton.mp hnew)
  due d hd := by
    rcases List.mem_append.mp hd with hold | hnew
    · obtain ⟨hmem, hne⟩ := List.mem_filter.mp hold
      obtain ⟨entry, hget, hdue⟩ := h.due d hmem
      exact ⟨entry, (hother d.1 (of_decide_eq_true hne)).trans hget, hdue⟩
    · obtain ⟨entry, hget, hsent⟩ := hid
      rw [List.mem_singleton.mp hnew]
      exact ⟨entry, hget, hsent ▸ hadd⟩
  complete i hi := by
    rw [List.map_append, List.mem_append]
    by_cases hne : i = id
    · exact .inr (List.mem_singleton.mpr hne)
    · rw [hother i hne] at hi
      obtain ⟨d, hd, rfl⟩ := List.mem_map.mp (h.complete i hi)
      exact .inl (List.mem_map_of_mem (List.mem_filter.mpr ⟨hd, decide_eq_true hne⟩))
  sorted := by
    refine List.pairwise_append.mpr ⟨h.sorted.filter _, List.pairwise_singleton _ _, ?_⟩
    intro d hd last hlast
    obtain ⟨entry, hget, hdue⟩ := h.due d (List.mem_filter.mp hd).1
    rw [List.mem_singleton.mp hlast]
    exact OrderedTimePoint.checkedAdd_mono (hpast d.1 entry hget) hdue hadd

/-! ## The representation -/

/-- The queue after a sequence of operations that has inserted the identifiers of the log. -/
structure Outstanding (mqttVersion : UInt8) (timeout : Nat) (log : List UInt16)
    (q : InflightQueue T) : Prop where
  version : q.mqttVersion = mqttVersion
  retransmission : q.retransmissionTimeout = timeout
  order : q.admissionOrder = log.dedup.filter q.contains
  past : ∀ id entry, q.get id = some entry → ∃ last, q.lastUpdate = some last ∧ entry.sentAt ≤ last
  timed : mqttVersion ≠ 5 → Timed timeout q.get q.deadlineQueue
  quota : q.publishQuotaUsed ≤ q.snapshotForReconnect.countP (fun e => e.2.isPublishExchange)

theorem outstanding_new (receiveMaximum : UInt16) (mqttVersion : UInt8) (timeout : Nat) :
    Outstanding mqttVersion timeout [] (new receiveMaximum mqttVersion timeout : InflightQueue T) where
  version := rfl
  retransmission := rfl
  order := rfl
  past _ _ h := by simp [new, InflightQueue.get] at h
  timed _ := ⟨.nil, fun _ hd => (nomatch hd), fun _ h => by simp [new, InflightQueue.get] at h, .nil⟩
  quota := Nat.le_refl 0

variable {mqttVersion : UInt8} {log : List UInt16} {q : InflightQueue T} {expires : Option T}

/-- What `check_time` has established about a time and the deadline of an entry sent then. -/
structure Dated (q : InflightQueue T) (now : T) (expires : Option T) : Prop where
  forward : ∀ last, q.lastUpdate = some last → last ≤ now
  ends : q.mqttVersion ≠ 5 → ∃ deadline, expires = some deadline ∧
    TimePoint.checkedAdd now q.retransmissionTimeout = some deadline

theorem checkTime_dated (h : q.checkTime now = .ok expires) : Dated q now expires := by
  have hclock := checkTime_ok_iff.mp ⟨expires, h⟩
  refine ⟨fun last hlast => not_lt.mp (hclock.1 last hlast), fun hversion => ?_⟩
  obtain ⟨deadline, hadd⟩ := Option.isSome_iff_exists.mp (hclock.2.resolve_left hversion)
  have hforward : ¬ (q.lastUpdate.any (fun last => now < last)) = true := by
    intro hback
    obtain ⟨last, hlast, hlt⟩ := (Option.any_eq_true _ _).mp hback
    exact hclock.1 last hlast (of_decide_eq_true hlt)
  rw [checkTime, if_neg hforward, if_neg hversion, hadd] at h
  exact ⟨deadline, (Except.ok.inj h).symm, hadd⟩

/-- What an operation does once `check_time` has accepted its time. -/
theorem checkTime_bind {α : Type} {k : Option T → Except MqttClientError α} {a : α}
    (h : (q.checkTime now >>= k) = .ok a) : ∃ expires, Dated q now expires ∧ k expires = .ok a := by
  obtain ⟨expires, hcheck, hk⟩ := Wire.bind_eq_ok.mp h
  exact ⟨expires, checkTime_dated hcheck, hk⟩

theorem Outstanding.past_now (h : Outstanding mqttVersion timeout log q) (hdated : Dated q now expires)
    (i : UInt16) (entry : InflightEntry T) (hget : q.get i = some entry) : entry.sentAt ≤ now := by
  obtain ⟨last, hlast, hle⟩ := h.past i entry hget
  exact le_trans hle (hdated.forward last hlast)

/-- The deadlines after `refresh_deadline`, when the entry itself is sent now. -/
theorem Outstanding.refresh [OrderedTimePoint T] (h : Outstanding mqttVersion timeout log q)
    (hdated : Dated q now expires) (hother : ∀ i, i ≠ id → get' i = q.get i)
    (hid : ∃ entry, get' id = some entry ∧ entry.sentAt = now) (hversion : mqttVersion ≠ 5) :
    Timed timeout get' (refreshDeadline q.mqttVersion q.deadlineQueue id expires) := by
  have hbelow : q.mqttVersion ≠ 5 := h.version ▸ hversion
  obtain ⟨deadline, rfl, hadd⟩ := hdated.ends hbelow
  rw [refreshDeadline, if_neg hbelow]
  exact (h.timed hversion).refresh (h.past_now hdated) (h.retransmission ▸ hadd) hother hid

/-! ## The operations -/

theorem dedup_concat (log : List UInt16) (id : UInt16) :
    (log ++ [id]).dedup = log.dedup.filter (fun i => i ≠ id) ++ [id] := by
  induction log with
  | nil => rfl
  | cons first log ih =>
    rw [List.cons_append, List.dedup_cons, List.dedup_cons, ih]
    by_cases hlog : first ∈ log
    · rw [if_pos (List.mem_append_left _ hlog), if_pos hlog]
    · by_cases hid : first = id
      · subst hid
        rw [if_pos (List.mem_append_right _ List.mem_cons_self), if_neg hlog,
          List.filter_cons_of_neg (by simp)]
      · rw [if_neg (by simp [hlog, hid]), if_neg hlog, List.filter_cons_of_pos (by simpa using hid)]
        rfl

theorem Outstanding.admit [OrderedTimePoint T] (h : Outstanding mqttVersion timeout log q)
    {entry : InflightEntry T} (fresh : q.entries.lookup entry.packetId = none)
    (hdated : Dated q entry.sentAt expires) :
    Outstanding mqttVersion timeout (log ++ [entry.packetId]) (q.admitEntry entry fresh expires) := by
  have hself : (q.admitEntry entry fresh expires).get entry.packetId = some entry :=
    AList.lookup_insert q.entries
  have hother : ∀ i, i ≠ entry.packetId → (q.admitEntry entry fresh expires).get i = q.get i :=
    fun i hi => AList.lookup_insert_ne hi
  refine ⟨h.version, h.retransmission, ?_, ?_, ?_, ?_⟩
  · rw [dedup_concat, List.filter_append, List.filter_filter]
    refine congrArg₂ (· ++ ·) ?_ ?_
    · rw [h.order]
      refine List.filter_congr fun i _ => ?_
      by_cases hi : i = entry.packetId
      · have hnone : q.contains i = false := by rw [hi, contains, fresh]; rfl
        simp [hi ▸ hnone, hi]
      · have hcontains : (q.admitEntry entry fresh expires).contains i = q.contains i :=
          congrArg Option.isSome (hother i hi)
        simp [hcontains, hi]
    · refine (List.filter_eq_self.mpr fun i hi => ?_).symm
      rw [List.mem_singleton.mp hi]
      exact congrArg Option.isSome hself
  · intro i e hget
    refine ⟨entry.sentAt, rfl, ?_⟩
    by_cases hi : i = entry.packetId
    · rw [hi, hself] at hget
      cases hget
      exact le_refl _
    · exact h.past_now hdated i e (hother i hi ▸ hget)
  · exact h.refresh hdated hother ⟨entry, hself, rfl⟩
  · have hquota := h.quota
    rw [admit_snapshot, List.countP_append]
    show (if entry.packet.isPublish then _ else _) ≤ _
    split
    next hpublish =>
      have hcounted : List.countP (fun e => MqttPacket.isPublishExchange e.2)
          [(entry.packetId, entry.packet)] = 1 := by
        simp [MqttPacket.isPublishExchange, hpublish]
      omega
    next => omega

/-- An entry that stays is sent again: a PUBREL, a resumed stream or a retransmission. -/
theorem Outstanding.resend [OrderedTimePoint T] (h : Outstanding mqttVersion timeout log q)
    (hdated : Dated q now expires) (hcontains : q.contains id)
    {f : InflightEntry T → InflightEntry T} (hsent : ∀ entry, (f entry).sentAt = now)
    (hpacket : ∀ entry, entry.packet.isPublishExchange → (f entry).packet.isPublishExchange)
    (hdeadlines : deadlines = refreshDeadline q.mqttVersion q.deadlineQueue id expires)
    (untimed : q.mqttVersion = 5 → deadlines = []) :
    Outstanding mqttVersion timeout log (q.replace id f deadlines untimed now) := by
  subst hdeadlines
  set q' := q.replace id f (refreshDeadline q.mqttVersion q.deadlineQueue id expires) untimed now
    with hq'
  have hget' : ∀ i, q'.get i = if i = id then
      (q.get id).map (fun entry => { f entry with packetId := id }) else q.get i :=
    fun i => lookup_alter q.entries id i f
  obtain ⟨entry, hentry⟩ := Option.isSome_iff_exists.mp hcontains
  have hentry : q.get id = some entry := hentry
  have hother : ∀ i, i ≠ id → q'.get i = q.get i := fun i hi => by rw [hget' i, if_neg hi]
  have hself : q'.get id = some { f entry with packetId := id } := by
    rw [hget' id, if_pos rfl, hentry]
    rfl
  refine ⟨h.version, h.retransmission, ?_, ?_, ?_, ?_⟩
  · show q.admissionOrder = _
    rw [h.order]
    refine List.filter_congr fun i _ => ?_
    show (q.get i).isSome = (q'.get i).isSome
    by_cases hi : i = id
    · rw [hi, hself, hentry]
      rfl
    · rw [hother i hi]
  · intro i e hget
    refine ⟨now, rfl, ?_⟩
    by_cases hi : i = id
    · rw [hi, hself] at hget
      cases hget
      exact le_of_eq (hsent entry)
    · exact h.past_now hdated i e (hother i hi ▸ hget)
  · exact h.refresh hdated hother ⟨_, hself, hsent entry⟩
  · refine le_trans h.quota ?_
    rw [hq', replace_snapshot, snapshotForReconnect, List.countP_filterMap, List.countP_filterMap]
    refine List.countP_mono_left fun i _ hcounted => ?_
    cases hlook : q.entries.lookup i with
    | none => rw [hlook] at hcounted; exact hcounted
    | some e =>
      rw [hlook] at hcounted
      show (if i = id then (f e).packet else e.packet).isPublishExchange = true
      split
      · exact hpacket e hcounted
      · exact hcounted

/-- `transition_pubrel_at` and `resume_on_stream_at`, also for an identifier not outstanding. -/
theorem Outstanding.replaced [OrderedTimePoint T] (h : Outstanding mqttVersion timeout log q)
    (hdated : Dated q now expires) {f : InflightEntry T → InflightEntry T}
    (hsent : ∀ entry, (f entry).sentAt = now)
    (hpacket : ∀ entry, entry.packet.isPublishExchange → (f entry).packet.isPublishExchange)
    (hdeadlines : deadlines = if q.contains id then
      refreshDeadline q.mqttVersion q.deadlineQueue id expires else q.deadlineQueue)
    (untimed : q.mqttVersion = 5 → deadlines = []) :
    Outstanding mqttVersion timeout log (q.replace id f deadlines untimed now) := by
  by_cases hcontains : q.contains id
  · rw [if_pos hcontains] at hdeadlines
    exact h.resend hdated hcontains hsent hpacket hdeadlines untimed
  · rw [if_neg hcontains] at hdeadlines
    subst hdeadlines
    have hentries : alter q.entries id f = q.entries := by
      rw [alter, Option.not_isSome_iff_eq_none.mp hcontains]
    have hget : (q.replace id f q.deadlineQueue untimed now).get = q.get :=
      funext fun i => congrArg (AList.lookup i) hentries
    have hsnapshot : (q.replace id f q.deadlineQueue untimed now).snapshotForReconnect =
        q.snapshotForReconnect := by
      unfold snapshotForReconnect
      rw [show (q.replace id f q.deadlineQueue untimed now).entries = q.entries from hentries]
      rfl
    refine ⟨h.version, h.retransmission, ?_, ?_, ?_, ?_⟩
    · rw [show (q.replace id f q.deadlineQueue untimed now).contains = q.contains from
        funext fun i => congrArg Option.isSome (congrFun hget i)]
      exact h.order
    · intro i entry hentry
      exact ⟨now, rfl, h.past_now hdated i entry (hget ▸ hentry)⟩
    · rw [hget]
      exact h.timed
    · rw [hsnapshot]
      exact h.quota

omit [TimePoint T] in
/-- What `acknowledge` removes with the entry of an identifier. -/
theorem acknowledge_removes {entry : InflightEntry T} (h : q.get id = some entry) :
    (q.acknowledge id).2.admissionOrder = q.admissionOrder.filter (fun i => i ≠ id) ∧
      (q.acknowledge id).2.deadlineQueue = q.deadlineQueue.filter (fun d => d.1 ≠ id) ∧
      (q.acknowledge id).2.get id = none ∧
      ∀ i, i ≠ id → (q.acknowledge id).2.get i = q.get i := by
  unfold acknowledge
  split
  next hnone =>
    have hget : q.get id = none := hnone
    rw [h] at hget
    cases hget
  next => exact ⟨rfl, rfl, AList.lookup_erase _ _, fun i hi => AList.lookup_erase_ne hi⟩

omit [TimePoint T] in
/-- An acknowledged entry is one of those counted exactly when it gives quota back. -/
theorem acknowledge_quota {entry : InflightEntry T} (h : q.get id = some entry) :
    q.snapshotForReconnect.countP (fun e => e.2.isPublishExchange) =
      (q.acknowledge id).2.snapshotForReconnect.countP (fun e => e.2.isPublishExchange) +
        if entry.packet.isPublishExchange then 1 else 0 := by
  have hnodup : q.snapshotForReconnect.Nodup := q.snapshot_nodup.of_map
  have hperm : q.snapshotForReconnect.Perm
      ((id, entry.packet) :: q.snapshotForReconnect.filter (fun e => e.1 ≠ id)) := by
    refine (List.perm_ext_iff_of_nodup hnodup
      (List.nodup_cons.mpr ⟨by simp, hnodup.filter _⟩)).mpr fun e => ?_
    rw [List.mem_cons, List.mem_filter, decide_eq_true_eq]
    constructor
    · intro he
      by_cases hid : e.1 = id
      · obtain ⟨entry', hget, hpacket⟩ := mem_snapshot.mp he
        rw [hid, h] at hget
        cases hget
        exact .inl (Prod.ext hid hpacket.symm)
      · exact .inr ⟨he, hid⟩
    · rintro (rfl | ⟨he, -⟩)
      · exact mem_snapshot.mpr ⟨entry, h, rfl⟩
      · exact he
  rw [acknowledge_snapshot, hperm.countP_eq, List.countP_cons]

theorem Outstanding.acknowledge (h : Outstanding mqttVersion timeout log q) (id : UInt16) :
    Outstanding mqttVersion timeout log (q.acknowledge id).2 := by
  rcases acknowledge_cases q id with ⟨-, hsame⟩ | ⟨entry, hget, -, hused⟩
  · rw [hsame]
    exact h
  obtain ⟨horder, hdeadlines, hself, hother⟩ := acknowledge_removes hget
  have hquota := acknowledge_quota hget
  obtain ⟨hlimits, hlast⟩ := acknowledge_limits q id
  generalize (q.acknowledge id).2 = q' at horder hdeadlines hself hother hquota hlimits hlast hused
  refine ⟨hlimits.mqttVersion.trans h.version,
    hlimits.retransmissionTimeout.trans h.retransmission, ?_, ?_, ?_, ?_⟩
  · rw [horder, h.order, List.filter_filter]
    refine List.filter_congr fun i _ => ?_
    by_cases hi : i = id
    · have hnone : q'.contains id = false := congrArg Option.isSome hself
      simp [hnone, hi]
    · have hcontains : q'.contains i = q.contains i := congrArg Option.isSome (hother i hi)
      simp [hcontains, hi]
  · intro i e he
    have hi : i ≠ id := by
      rintro rfl
      rw [hself] at he
      cases he
    rw [hlast]
    exact h.past i e (hother i hi ▸ he)
  · intro hversion
    rw [hdeadlines]
    exact (h.timed hversion).forget hother hself
  · have hbefore := h.quota
    rw [hquota] at hbefore
    rw [hused]
    unfold MqttPacket.isPublishExchange at hbefore ⊢
    split at hbefore <;> split <;> omega

theorem Outstanding.clear (h : Outstanding mqttVersion timeout log q) :
    Outstanding mqttVersion timeout log q.clear where
  version := h.version
  retransmission := h.retransmission
  order := by
    refine (List.filter_eq_nil_iff.mpr fun i _ => ?_).symm
    simp [InflightQueue.clear, contains]
  past _ _ hget := by simp [InflightQueue.clear, InflightQueue.get] at hget
  timed _ := ⟨.nil, fun _ hd => (nomatch hd), fun _ h => by
    simp [InflightQueue.clear, InflightQueue.get] at h, .nil⟩
  quota := Nat.le_refl 0

theorem Outstanding.updateReceiveMaximum (h : Outstanding mqttVersion timeout log q)
    (receiveMaximum : UInt16) :
    Outstanding mqttVersion timeout log (q.updateReceiveMaximum receiveMaximum) := by
  unfold InflightQueue.updateReceiveMaximum
  split
  · exact { h with }
  · exact h

/-! ## The expiry loop -/

omit [TimePoint T] in
/-- The entry visited is the first one, so taking its deadline off changes nothing. -/
theorem refreshDeadline_pop {due : T} {rest : List (UInt16 × T)}
    (timed : q.deadlineQueue = (id, due) :: rest) :
    refreshDeadline q.mqttVersion rest id expires =
      refreshDeadline q.mqttVersion q.deadlineQueue id expires := by
  have hbelow : ¬ q.mqttVersion = 5 := timer_absurd timed
  rw [refreshDeadline, refreshDeadline, if_neg hbelow, if_neg hbelow, timed,
    List.filter_cons_of_neg (by simp)]

theorem Dated.again (hdated : Dated q now expires) {q' : InflightQueue T}
    (hlast : q'.lastUpdate = some now) (hversion : q'.mqttVersion = q.mqttVersion)
    (htimeout : q'.retransmissionTimeout = q.retransmissionTimeout) : Dated q' now expires where
  forward last h := by
    rw [hlast] at h
    cases h
    exact le_refl _
  ends h := by
    rw [htimeout]
    exact hdated.ends (hversion ▸ h)

theorem Outstanding.expireLoop [OrderedTimePoint T] (fuel : Nat)
    (h : Outstanding mqttVersion timeout log q) (hdated : Dated q now expires)
    (expired : List (MqttPacket × Option Nat)) :
    Outstanding mqttVersion timeout log (expireLoop now expires fuel q expired).2 := by
  induction fuel generalizing q expired with
  | zero => exact h
  | succ fuel ih =>
    rw [InflightQueue.expireLoop]
    split
    next => exact h
    next id due rest timed =>
      split
      next => exact h
      next =>
        have hbelow : mqttVersion ≠ 5 := h.version ▸ timer_absurd timed
        obtain ⟨entry, hentry, -⟩ := (h.timed hbelow).due (id, due) (timed ▸ List.mem_cons_self)
        split
        next hnone =>
          rw [hentry] at hnone
          cases hnone
        next =>
          exact ih (h.resend (f := retried now) hdated (congrArg Option.isSome hentry)
            (fun _ => rfl) (fun _ hp => hp) (refreshDeadline_pop timed) _)
            (hdated.again rfl rfl rfl) _

omit [TimePoint T] in
/-- The deadline of the visited entry goes behind the others. -/
theorem refreshDeadline_rest {due : T} {rest : List (UInt16 × T)}
    (timed : q.deadlineQueue = (id, due) :: rest)
    (honce : (((id, due) :: rest).map Prod.fst).Nodup) :
    refreshDeadline q.mqttVersion rest id expires = rest ++ (expires.map (id, ·)).toList := by
  rw [refreshDeadline, if_neg (timer_absurd timed)]
  refine congrArg (· ++ _) (List.filter_eq_self.mpr fun d hd => decide_eq_true fun hid => ?_)
  have hmem : d.1 ∈ rest.map Prod.fst := List.mem_map_of_mem hd
  exact (List.nodup_cons.mp honce).1 (hid ▸ hmem)

omit [TimePoint T] in
theorem nodup_behind {pending refreshed : List (UInt16 × T)} (expires : Option T)
    (hid : id ∉ (pending ++ refreshed).map Prod.fst)
    (honce : ((pending ++ refreshed).map Prod.fst).Nodup) :
    ((pending ++ (refreshed ++ (expires.map (id, ·)).toList)).map Prod.fst).Nodup := by
  cases expires with
  | none => simpa using honce
  | some deadline =>
    rw [← List.append_assoc, List.map_append]
    refine honce.append (List.nodup_singleton id) fun i hi hnew => ?_
    have heq : i = id := List.mem_singleton.mp hnew
    exact hid (heq ▸ hi)

/-- The deadlines are visited from the front; those put back at the end are not visited
again, because the loop runs once for each deadline that was there when it began. -/
theorem expireLoop_answers (pending refreshed : List (UInt16 × T)) (q : InflightQueue T)
    (expired : List (MqttPacket × Option Nat)) (htimed : q.deadlineQueue = pending ++ refreshed)
    (honce : ((pending ++ refreshed).map Prod.fst).Nodup) :
    (expireLoop now expires pending.length q expired).1 =
      expired ++ (pending.takeWhile (fun d => d.2 ≤ now)).filterMap
        (fun d => (q.get d.1).map (fun entry => (entry.packet, entry.stream))) := by
  induction pending generalizing refreshed q expired with
  | nil => exact (List.append_nil _).symm
  | cons first pending ih =>
    rw [List.cons_append] at htimed honce
    obtain ⟨hfirst, hrest⟩ := List.nodup_cons.mp honce
    rw [List.length_cons, expireLoop]
    split
    next hempty =>
      rw [htimed] at hempty
      cases hempty
    next id due rest timed =>
      obtain ⟨rfl, rfl⟩ := List.cons.inj (timed.symm.trans htimed)
      split
      next hlater => rw [List.takeWhile_cons_of_neg (by simpa using hlater)]; simp
      next hdue =>
        rw [List.takeWhile_cons_of_pos (by simpa using hdue), List.filterMap_cons]
        split
        next hnone =>
          rw [hnone]
          exact ih refreshed { q with
            deadlineQueue := pending ++ refreshed
            untimed := fun h => (timer_absurd timed h).elim } expired rfl hrest
        next entry hentry =>
          have hbehind : refreshDeadline q.mqttVersion (pending ++ refreshed) id expires = _ :=
            refreshDeadline_rest timed honce
          rw [List.append_assoc] at hbehind
          rw [hentry, ih (refreshed ++ (expires.map (id, ·)).toList) _ _ hbehind
            (nodup_behind expires hfirst hrest), List.append_assoc]
          refine congrArg (expired ++ (entry.packet, entry.stream) :: ·) ?_
          refine List.filterMap_congr fun d hd => ?_
          -- The entries that wait to be visited are untouched.
          have hmem : d.1 ∈ (pending ++ refreshed).map Prod.fst :=
            List.mem_map_of_mem (List.mem_append_left _ ((List.takeWhile_sublist _).subset hd))
          have hne : d.1 ≠ id := fun heq => hfirst (heq ▸ hmem)
          have hlook := (lookup_alter q.entries id d.1 (retried now)).trans (if_neg hne)
          exact congrArg (Option.map fun e => (e.packet, e.stream)) hlook

/-- Sorted deadlines: what is due stands in front. -/
theorem takeWhile_due (h : deadlines.Pairwise (fun a b => a.2 ≤ b.2)) (now : T) :
    deadlines.takeWhile (fun d => d.2 ≤ now) = deadlines.filter (fun d => d.2 ≤ now) := by
  induction deadlines with
  | nil => rfl
  | cons first rest ih =>
    obtain ⟨hfirst, hrest⟩ := List.pairwise_cons.mp h
    by_cases hdue : first.2 ≤ now
    · rw [List.takeWhile_cons_of_pos (by simpa using hdue),
        List.filter_cons_of_pos (by simpa using hdue), ih hrest]
    · have hlater : ∀ d ∈ first :: rest, ¬ (decide (d.2 ≤ now) = true) := by
        rintro d (_ | ⟨_, hd⟩)
        · simpa using hdue
        · simpa using lt_of_lt_of_le (not_le.mp hdue) (hfirst d hd)
      rw [List.takeWhile_cons_of_neg (by simpa using hdue), List.filter_eq_nil_iff.mpr hlater]

theorem Outstanding.once (h : Outstanding mqttVersion timeout log q) :
    (q.deadlineQueue.map Prod.fst).Nodup := by
  by_cases hversion : mqttVersion = 5
  · rw [q.untimed (h.version.trans hversion)]
    exact .nil
  · exact (h.timed hversion).once

theorem Outstanding.sorted (h : Outstanding mqttVersion timeout log q) :
    q.deadlineQueue.Pairwise (fun a b => a.2 ≤ b.2) := by
  by_cases hversion : mqttVersion = 5
  · rw [q.untimed (h.version.trans hversion)]
    exact .nil
  · exact (h.timed hversion).sorted

/-- `get_expired_with_stream_at` answers the entries that are due, in the order of their
deadlines. -/
theorem Outstanding.getExpired_answers (h : Outstanding mqttVersion timeout log q)
    {answer : List (MqttPacket × Option Nat) × InflightQueue T}
    (hok : q.getExpiredWithStreamAt now = .ok answer) :
    answer.1 = (q.deadlineQueue.filter (fun d => d.2 ≤ now)).filterMap
      (fun d => (q.get d.1).map (fun entry => (entry.packet, entry.stream))) := by
  obtain ⟨expires, -, hok⟩ := checkTime_bind hok
  cases hok
  rw [← takeWhile_due h.sorted now]
  refine (expireLoop_answers q.deadlineQueue [] { q with lastUpdate := some now } []
    (List.append_nil _).symm ?_).trans (List.nil_append _)
  rw [List.append_nil]
  exact h.once

theorem Outstanding.getExpired [OrderedTimePoint T] (h : Outstanding mqttVersion timeout log q)
    {answer : List (MqttPacket × Option Nat) × InflightQueue T}
    (hok : q.getExpiredWithStreamAt now = .ok answer) :
    Outstanding mqttVersion timeout log answer.2 := by
  obtain ⟨expires, hdated, hok⟩ := checkTime_bind hok
  cases hok
  have htouched : Outstanding mqttVersion timeout log { q with lastUpdate := some now } :=
    { h with past := fun i entry hget => ⟨now, rfl, h.past_now hdated i entry hget⟩ }
  exact htouched.expireLoop _ (hdated.again rfl rfl rfl) []

theorem Outstanding.push [OrderedTimePoint T] (h : Outstanding mqttVersion timeout log q)
    {packet : MqttPacket} {qos : UInt8} {stream : Option Nat} {q' : InflightQueue T}
    (hok : q.pushWithStreamAt id packet qos stream now = .ok q') :
    Outstanding mqttVersion timeout (log ++ [id]) q' := by
  obtain ⟨expires, hdated, hok⟩ := checkTime_bind hok
  replace hok : (if id = 0 then _ else _) = Except.ok q' := hok
  split at hok
  next => cases hok
  next =>
    split at hok
    next => cases hok
    next fresh =>
      split at hok
      next => cases hok
      next =>
        cases hok
        let entry : InflightEntry T := ⟨id, packet, now, 0, qos, stream⟩
        have unused : q.entries.lookup entry.packetId = none := fresh
        exact h.admit unused hdated

theorem Outstanding.transitionPubrel [OrderedTimePoint T]
    (h : Outstanding mqttVersion timeout log q) {packet : MqttPacket} (released : packet.isPubRel)
    {q' : InflightQueue T} (hok : q.transitionPubrelAt id packet now = .ok q') :
    Outstanding mqttVersion timeout log q' := by
  obtain ⟨expires, hdated, hok⟩ := checkTime_bind hok
  cases hok
  have hcounted : packet.isPublishExchange = true := by
    rw [MqttPacket.isPublishExchange, released, Bool.or_true]
  exact h.replaced (f := fun entry => { entry with packet := packet, sentAt := now })
    hdated (fun _ => rfl) (fun _ _ => hcounted) rfl _

theorem Outstanding.resumeOnStream [OrderedTimePoint T]
    (h : Outstanding mqttVersion timeout log q) {stream : Nat}
    {q' : InflightQueue T} (hok : q.resumeOnStreamAt id stream now = .ok q') :
    Outstanding mqttVersion timeout log q' := by
  obtain ⟨expires, hdated, hok⟩ := checkTime_bind hok
  cases hok
  exact h.replaced (f := fun entry => { entry with stream := some stream, sentAt := now })
    hdated (fun _ => rfl) (fun _ hcounted => hcounted) rfl _

/-! ## Whole sequences -/

theorem Outstanding.perform [OrderedTimePoint T] (h : Outstanding mqttVersion timeout log q)
    {op : InflightOp T} {q' : InflightQueue T} (hok : q.perform op = .ok q') :
    Outstanding mqttVersion timeout (log ++ op.pushed) q' := by
  have hsame {q' : InflightQueue T} (h : Outstanding mqttVersion timeout log q') :
      Outstanding mqttVersion timeout (log ++ []) q' := (List.append_nil log).symm ▸ h
  cases op with
  | push => exact h.push hok
  | transitionPubrel packetId packet released now => exact hsame (h.transitionPubrel released hok)
  | resumeOnStream packetId stream now => exact hsame (h.resumeOnStream hok)
  | acknowledge packetId =>
    cases hok
    exact hsame (h.acknowledge packetId)
  | getExpired now =>
    cases hanswer : q.getExpiredWithStreamAt now with
    | error e =>
      rw [InflightQueue.perform, hanswer] at hok
      cases hok
    | ok answer =>
      rw [InflightQueue.perform, hanswer] at hok
      cases hok
      exact hsame (h.getExpired hanswer)
  | updateReceiveMaximum receiveMaximum =>
    cases hok
    exact hsame (h.updateReceiveMaximum receiveMaximum)
  | clear =>
    cases hok
    exact hsame h.clear

theorem Outstanding.next [OrderedTimePoint T] (h : Outstanding mqttVersion timeout log q)
    (op : InflightOp T) : Outstanding mqttVersion timeout (log ++ q.inserted op) (q.next op) := by
  unfold InflightQueue.next inserted
  cases hok : q.perform op with
  | ok q' => exact h.perform hok
  | error e => rwa [List.append_nil]

theorem Outstanding.performAll [OrderedTimePoint T] (h : Outstanding mqttVersion timeout log q)
    (ops : List (InflightOp T)) :
    Outstanding mqttVersion timeout (log ++ q.insertions ops) (q.performAll ops) := by
  induction ops generalizing q log with
  | nil =>
    rw [insertions, List.append_nil]
    exact h
  | cons op ops ih =>
    rw [insertions, ← List.append_assoc]
    exact ih (h.next op)

omit [TimePoint T] in
theorem order_perm (q : InflightQueue T) : q.admissionOrder.Perm q.entries.keys := by
  refine (List.perm_ext_iff_of_nodup q.order_nodup q.entries.keys_nodup).mpr fun i => ?_
  rw [q.order_mem, AList.lookup_isSome, AList.mem_keys]

omit [TimePoint T] in
/-- The entries of a kind, counted in the map. -/
theorem countP_snapshot (q : InflightQueue T) (p : MqttPacket → Bool) :
    q.snapshotForReconnect.countP (fun e => p e.2) =
      q.entries.keys.countP (fun i => (q.get i).any (fun entry => p entry.packet)) := by
  rw [← q.order_perm.countP_eq, snapshotForReconnect, List.countP_filterMap]
  refine List.countP_congr fun i _ => ?_
  show ((q.get i).map _ |>.map _).getD false = true ↔ _
  cases q.get i <;> rfl

/-- After any sequence of operations: the order of admission lists the keys of the map once
each, in the order of their last insertion; MQTT 5 has no deadline, and otherwise each entry
has one, the timeout after it was sent, the earliest first; the quota in use is covered by
PUBLISH and PUBREL entries; and the expiry answers what is due, in the order of the deadlines. -/
theorem inflight_represented [OrderedTimePoint T] (receiveMaximum : UInt16) (mqttVersion : UInt8)
    (timeout : Nat) (ops : List (InflightOp T)) :
    let start : InflightQueue T := new receiveMaximum mqttVersion timeout
    let q := start.performAll ops
    q.admissionOrder.Nodup ∧ q.admissionOrder.Perm q.entries.keys ∧
      q.admissionOrder = (start.insertions ops).dedup.filter q.contains ∧
      (mqttVersion = 5 → q.deadlineQueue = []) ∧
      (mqttVersion ≠ 5 → (q.deadlineQueue.map Prod.fst).Perm q.entries.keys ∧
        ∀ d ∈ q.deadlineQueue, ∃ entry, q.get d.1 = some entry ∧
          TimePoint.checkedAdd entry.sentAt timeout = some d.2) ∧
      q.deadlineQueue.Pairwise (fun a b => a.2 ≤ b.2) ∧
      q.publishQuotaUsed ≤ q.entries.keys.countP
        (fun id => (q.get id).any (fun entry => entry.packet.isPublishExchange)) ∧
      ∀ now answer, q.getExpiredWithStreamAt now = .ok answer →
        answer.1 = (q.deadlineQueue.filter (fun d => d.2 ≤ now)).filterMap
          (fun d => (q.get d.1).map (fun entry => (entry.packet, entry.stream))) := by
  intro start q
  have h : Outstanding mqttVersion timeout ([] ++ start.insertions ops) q :=
    (outstanding_new receiveMaximum mqttVersion timeout).performAll ops
  refine ⟨q.order_nodup, q.order_perm, h.order, fun h5 => q.untimed (h.version.trans h5),
    fun hversion => ⟨?_, (h.timed hversion).due⟩, h.sorted, q.countP_snapshot _ ▸ h.quota,
    fun now answer => h.getExpired_answers⟩
  have htimed := h.timed hversion
  refine (List.perm_ext_iff_of_nodup htimed.once q.entries.keys_nodup).mpr fun i => ?_
  rw [← AList.mem_keys, ← AList.lookup_isSome]
  constructor
  · intro hi
    obtain ⟨d, hd, rfl⟩ := List.mem_map.mp hi
    obtain ⟨entry, hget, -⟩ := htimed.due d hd
    exact congrArg Option.isSome hget
  · exact htimed.complete i

/-- Two exchanges of an MQTT 3.1.1 queue with a zero timeout: both are due at once, and the
expiry answers each of them a single time. -/
theorem inflight_represented_zero :
    let q := (new 10 4 0 : InflightQueue Timestamp).performAll
      [.push 7 (.pubRel3 ⟨7⟩) 2 none 3, .push 2 (.pubRel3 ⟨2⟩) 2 none 5]
    ∃ answer, q.getExpiredWithStreamAt 5 = .ok answer ∧
      answer.1 = [(.pubRel3 ⟨7⟩, none), (.pubRel3 ⟨2⟩, none)] ∧
      answer.1 = (q.deadlineQueue.filter (fun d => d.2 ≤ 5)).filterMap
        (fun d => (q.get d.1).map (fun entry => (entry.packet, entry.stream))) :=
  ⟨_, rfl, rfl, (inflight_represented 10 4 0 [.push 7 (.pubRel3 ⟨7⟩) 2 none 3,
    .push 2 (.pubRel3 ⟨2⟩) 2 none 5]).2.2.2.2.2.2.2 5 _ rfl⟩

end InflightQueue

end FlowSdk
