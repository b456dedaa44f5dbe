/-
  FlowSdk.Refine.Load — reading a saved session, as steps.

  The engine checks a saved session as a whole and then takes it over as a whole. The ledger
  takes it over entry by entry: first the frame of the session, then each exchange that is
  outstanding, then each queued publication. Every step has in it what the engine has checked
  of its entry; the limits on the sums hold for each step because they hold at the end.
-/
import FlowSdk.Refine.Restore
import FlowSdk.Refine.Session

set_option linter.unusedSectionVars false

namespace FlowSdk

open Machine Wire Ledger
open Relation (ReflTransGen)

variable {T : Type} [TimePoint T] {ε α : Type} {B : Build} {P : Permit} {e : MqttEngine T}

/-! ## One packet -/

/-- A saved publication has an identifier exactly when its QoS asks for one. -/
theorem savedPublish_fields {mqttVersion : UInt8} {packet : MqttPacket}
    {fields : UInt8 × Option UInt16 × String × Bool}
    (h : MqttEngine.savedPublish mqttVersion packet = .ok (some fields)) :
    packet.isPublish = true ∧ packet.qos = fields.1 ∧ packet.publishId = fields.2.1 := by
  unfold MqttEngine.savedPublish at h
  split at h
  next p =>
    split at h
    next =>
      obtain ⟨-, heq⟩ := check_bind_eq_ok.mp h
      cases heq
      exact ⟨rfl, rfl, rfl⟩
    next => cases h
  next p =>
    split at h
    next =>
      cases h
      exact ⟨rfl, rfl, rfl⟩
    next => cases h
  next => cases h

namespace MqttEngine

/-- What the checks say of a saved publication. -/
theorem savedPacketId_publish {packet : MqttPacket} {mqttVersion : UInt8} {queued : Bool}
    {id : Option UInt16} (h : savedPacketId packet mqttVersion queued = .ok id)
    (hpublish : packet.isPublish = true) :
    packet.publishId = id ∧ (packet.qos > 0 → id.isSome) ∧ (¬ packet.qos > 0 → id = none ∧ queued = true) := by
  obtain ⟨found, hfound, h⟩ := bind_eq_ok.mp h
  cases found with
  | some fields =>
    obtain ⟨-, hqos, hid⟩ := savedPublish_fields hfound
    obtain ⟨qos, pid, topic, dup⟩ := fields
    obtain ⟨hcheck, heq⟩ := check_bind_eq_ok.mp h
    obtain rfl : pid = id := Except.ok.inj heq
    rw [rejectIf_eq_ok] at hcheck
    push Not at hcheck
    obtain ⟨-, -, -, hzero, hpos⟩ := hcheck
    dsimp only at hqos hid
    subst hqos
    refine ⟨hid, fun h => Option.isSome_iff_ne_none.mpr (hpos h).1, fun h => ?_⟩
    have h0 : packet.qos = 0 := Decidable.not_not.mp fun hne => h (UInt8.pos_iff_ne_zero.mpr hne)
    obtain ⟨hnone, -, hqueued⟩ := hzero h0
    exact ⟨by simpa using hnone, by simpa using hqueued⟩
  | none =>
    obtain ⟨-, hid⟩ := check_bind_eq_ok.mp h
    cases packet <;> try cases hpublish
    all_goals
      simp only [savedRequest] at hid
      cases hid

theorem savedPacketId_queued {packet : MqttPacket} {mqttVersion : UInt8} {id : Option UInt16}
    (h : savedPacketId packet mqttVersion true = .ok id) : packet.isPublish = true := by
  have hkind := (savedPacketId_ok h).1.kind
  cases packet <;> first | rfl | cases hkind

/-- What the checks say of a saved exchange. -/
theorem savedPacketId_names {packet : MqttPacket} {mqttVersion : UInt8} {id : UInt16}
    (h : savedPacketId packet mqttVersion false = .ok (some id)) :
    id ≠ 0 ∧ packet.Names id ∧ packet.isBoundary = false := by
  obtain ⟨hkeep, hkept⟩ := savedPacketId_ok h
  refine ⟨fun hzero => hkeep.nonzero (by rw [hkept, hzero]), ⟨fun hpublish => ?_, fun hrel => ?_⟩, ?_⟩
  · obtain ⟨hid, -, hzero⟩ := savedPacketId_publish h hpublish
    have hqos : packet.qos > 0 := Decidable.not_not.mp fun h => Bool.noConfusion (hzero h).2
    rw [MqttPacket.tracked, if_pos hqos, hid]
  · cases packet <;> first | exact hkept | cases hrel
  · have hkind := hkeep.kind
    cases packet <;> first | rfl | simp [MqttPacket.outstandingKind, MqttPacket.packetType] at hkind

/-- A saved packet keeps its size when it is sent again. -/
theorem savedPacketId_resent {packet : MqttPacket} {mqttVersion : UInt8} {queued : Bool}
    {id : UInt16} {bytes : Bytes} (h : savedPacketId packet mqttVersion queued = .ok (some id))
    (hquota : packet.onQuota = true) (hbytes : packet.toBytes B.strict = .ok bytes) :
    max 4 (packet.replayed.size B.strict) ≤ bytes.length := by
  have hplain := (savedPacketId_ok h).1.aliasFree
  have hqos (hpublish : packet.isPublish = true) : packet.qos > 0 := by
    obtain ⟨-, -, hzero⟩ := savedPacketId_publish h hpublish
    exact Decidable.not_not.mp fun h => (by cases (hzero h).1)
  obtain ⟨again, hagain, -, hsame⟩ :=
    MqttPacket.toBytes_replayed (MqttPacket.titled_of_withoutAlias hplain) hqos hbytes
  rw [MqttPacket.size_eq hagain, hsame hplain]
  refine Nat.max_le.mpr ⟨?_, Nat.le_refl _⟩
  rcases (Bool.or_eq_true _ _).mp hquota with hpublish | hrel
  · exact MqttPacket.four_le_publish hpublish hbytes
  · exact MqttPacket.four_le_pubrel hrel hbytes

theorem savedPacketId_publishes {packet : MqttPacket} {mqttVersion : UInt8} {id : Option UInt16}
    {bytes : Bytes} (h : savedPacketId packet mqttVersion true = .ok id)
    (hbytes : packet.toBytes B.strict = .ok bytes) : Publishes B.strict P packet id := by
  have hpublish := savedPacketId_queued h
  obtain ⟨hid, hsome, hnone⟩ := savedPacketId_publish h hpublish
  have hplain := (savedPacketId_ok h).1.aliasFree
  constructor
  case isPublish => exact hpublish
  case tracked =>
    rw [MqttPacket.tracked]
    split
    · exact hid
    · exact ((hnone ‹_›).1).symm
  case identified => exact hsome
  case untagged =>
    by_cases hqos : packet.qos > 0
    · exact .inr (.inl hqos)
    · exact .inr (.inr (hid.trans (hnone hqos).1))
  case encodable => exact ⟨bytes, hbytes⟩
  case plain => exact ⟨bytes, hplain.symm ▸ hbytes⟩
  case shrinks => exact .inr (by rw [hplain])
  case resent =>
    intro hsome'
    obtain ⟨i, rfl⟩ := Option.isSome_iff_exists.mp hsome'
    rw [MqttPacket.size_eq hbytes]
    exact .inr (savedPacketId_resent h (by rw [MqttPacket.onQuota, hpublish]; rfl) hbytes)

/-! ## The loops -/

/-- The exchanges that are outstanding, one step each. -/
theorem loadOutbound_steps {mqttVersion : UInt8} : ∀ {list : List Exchange} {reserve : Nat}
    {result : Finset UInt16 × Nat} {l : Ledger T},
    loadOutbound B mqttVersion list (l.reserved, reserve) = .ok result →
    l.loading = true → l.promised = list →
      ReflTransGen (Step B.strict P) l { l with
        reserved := result.1
        previous := l.previous ++ list
        promised := []
        trace := (list.map (fun entry => Obs.inherited entry.1)).reverse ++ l.trace }
  | [], reserve, result, l, h, _, hpromised => by
    cases h
    cases l
    dsimp only at hpromised
    subst hpromised
    rw [List.append_nil]
    exact .refl
  | (id, packet) :: rest, reserve, result, l, h, hloading, hpromised => by
    obtain ⟨found, hfound, h⟩ := bind_eq_ok.mp h
    obtain ⟨hcheck, hload⟩ := check_bind_eq_ok.mp h
    obtain ⟨bytes, -, hload⟩ := bind_eq_ok.mp hload
    rw [rejectIf_eq_ok, not_or, not_not] at hcheck
    obtain ⟨rfl, hfree⟩ := hcheck
    obtain ⟨hzero, hnames, hinner⟩ := savedPacketId_names hfound
    have hstep : Step B.strict P l _ :=
      .inherit id packet rest hloading hpromised hzero hfree hnames hinner
    have hrest := loadOutbound_steps (l := { l.inherit id with
      previous := l.previous ++ [(id, packet)], promised := rest }) hload hloading rfl
    refine .head hstep ?_
    convert hrest using 1
    simp only [Ledger.inherit, List.append_assoc, List.singleton_append, List.map_cons,
      List.reverse_cons]

theorem loadOutbound_reserve {mqttVersion : UInt8} : ∀ {list : List Exchange} {reserved : Finset UInt16}
    {reserve : Nat} {result : Finset UInt16 × Nat},
    loadOutbound B mqttVersion list (reserved, reserve) = .ok result →
      reserve ≤ result.2 ∧ ∀ entry ∈ list, entry.2.onQuota = true →
        max 4 (entry.2.replayed.size B.strict) ≤ result.2
  | [], _, _, _, h => by
    cases h
    exact ⟨Nat.le_refl _, fun _ hmem => (by cases hmem)⟩
  | (id, packet) :: rest, reserved, reserve, result, h => by
    obtain ⟨found, hfound, h⟩ := bind_eq_ok.mp h
    obtain ⟨hcheck, hload⟩ := check_bind_eq_ok.mp h
    obtain ⟨bytes, hbytes, hload⟩ := bind_eq_ok.mp hload
    rw [rejectIf_eq_ok, not_or, not_not] at hcheck
    obtain ⟨rfl, -⟩ := hcheck
    obtain ⟨hreserve, hrest⟩ := loadOutbound_reserve hload
    refine ⟨by omega, List.forall_mem_cons.mpr ⟨fun hquota => ?_, hrest⟩⟩
    have := savedPacketId_resent hfound hquota (encoded_eq_ok.mp hbytes)
    dsimp only at this ⊢
    omega

/-- A ledger that holds the queue read so far. -/
def withQueue (l : Ledger T) (loaded : LoadedQueue) : Ledger T :=
  { l with
    queue := loaded.queue.items
    reserved := loaded.reserved
    queuedBytes := loaded.queuedBytes
    trace := loaded.trace }

theorem loadQueued_grows {mqttVersion : UInt8} : ∀ {list : List (UInt8 × MqttPacket)}
    {loaded result : LoadedQueue}, loadQueued B mqttVersion list loaded = .ok result →
      loaded.queuedBytes ≤ result.queuedBytes ∧ loaded.replayReserve ≤ result.replayReserve ∧
        result.queue.capacity = loaded.queue.capacity
  | [], _, _, h => by
    cases h
    exact ⟨Nat.le_refl _, Nat.le_refl _, rfl⟩
  | (priority, packet) :: rest, loaded, result, h => by
    obtain ⟨id, -, h⟩ := bind_eq_ok.mp h
    obtain ⟨-, h⟩ := check_bind_eq_ok.mp h
    obtain ⟨bytes, -, h⟩ := bind_eq_ok.mp h
    obtain ⟨hbytes, hreserve, hcapacity⟩ := loadQueued_grows h
    have hadd : loaded.replayReserve ≤
        (loaded.add priority packet id bytes.length).replayReserve := by
      show _ ≤ if id.isSome then max loaded.replayReserve bytes.length else loaded.replayReserve
      split
      · exact Nat.le_max_left _ _
      · exact Nat.le_refl _
    exact ⟨Nat.le_trans (Nat.le_add_right _ _) hbytes, Nat.le_trans hadd hreserve,
      hcapacity.trans (PriorityQueue.enqueue_capacity _ _ _)⟩

theorem withQueue_add {loaded : LoadedQueue} (l : Ledger T) (priority : UInt8) (packet : MqttPacket)
    (id : Option UInt16) (size : Nat) (hbelow : loaded.queue.size < loaded.queue.capacity) :
    withQueue l (loaded.add priority packet id size) =
      (id.elim (withQueue l loaded) (withQueue l loaded).inherit).enqueue priority packet size := by
  have hroom : ¬ loaded.queue.size ≥ loaded.queue.capacity := Nat.not_le.mpr hbelow
  cases id with
  | none =>
    simp only [withQueue, LoadedQueue.add, Ledger.enqueue, PriorityQueue.items_enqueue hbelow, Option.elim,
      Option.map, Option.toList, List.nil_append, decide_eq_false hroom]
  | some id =>
    simp only [withQueue, LoadedQueue.add, Ledger.enqueue, Ledger.inherit,
      PriorityQueue.items_enqueue hbelow, Option.elim, Option.map, Option.toList, List.singleton_append,
      decide_eq_false hroom]

/-- The queued publications, one step each. -/
theorem loadQueued_steps {mqttVersion : UInt8} {l : Ledger T} (hloading : l.loading = true)
    (hdone : l.promised = []) (hunsent : l.outgoing = []) (hcovered : P.need ≤ l.controlReserve) :
    ∀ {list : List (UInt8 × MqttPacket)} {loaded result : LoadedQueue},
    loadQueued B mqttVersion list loaded = .ok result →
    loaded.queue.size + list.length ≤ loaded.queue.capacity →
    loaded.queue.capacity = l.capacity → l.capacity = l.limits.maxPackets →
    (∀ limit ∈ l.limits.maxOutgoing, result.queuedBytes + l.spare ≤ limit) →
    result.replayReserve ≤ l.replayReserve →
      ReflTransGen (Step B.strict P) (withQueue l loaded) (withQueue l result)
  | [], loaded, result, h, _, _, _, _, _ => by
    cases h
    exact .refl
  | (priority, packet) :: rest, loaded, result, h, hlength, hcapacity, hlimit, hroom, hreserve => by
    obtain ⟨id, hid, h⟩ := bind_eq_ok.mp h
    obtain ⟨hfresh, h⟩ := check_bind_eq_ok.mp h
    obtain ⟨bytes, hencoded, h⟩ := bind_eq_ok.mp h
    have hbytes := encoded_eq_ok.mp hencoded
    rw [List.length_cons] at hlength
    have hbelow : loaded.queue.size < loaded.queue.capacity := by omega
    obtain ⟨hsum, hreplay, -⟩ := loadQueued_grows h
    have hitems : (withQueue l loaded).queue.length = loaded.queue.size :=
      PriorityQueue.items_length _
    have hstep : Step B.strict P (withQueue l loaded)
        ((id.elim (withQueue l loaded) (withQueue l loaded).inherit).enqueue priority packet
          (packet.size B.strict)) := by
      refine .requeue id priority packet hloading hdone (savedPacketId_publishes hid hbytes) ?_ ⟨?_, ?_⟩
        hcovered ?_ ?_
      · rintro i rfl
        rw [rejectIf_eq_ok] at hfresh
        obtain ⟨hkeep, hkept⟩ := savedPacketId_ok hid
        refine ⟨fun hzero => hkeep.nonzero (by rw [hkept, hzero]), fun hmem => hfresh ?_⟩
        exact decide_eq_true hmem
      · rw [hitems, show (withQueue l loaded).limits = l.limits from rfl, ← hlimit, ← hcapacity]
        exact hbelow
      · intro limit hmem
        have hfits := hroom limit hmem
        have hunsent' : (withQueue l loaded).unsent = 0 := by
          show (l.outgoing.map List.length).sum = 0
          rw [hunsent]
          rfl
        have hspare : (withQueue l loaded).spare = l.spare := rfl
        have hsize : (loaded.add priority packet id bytes.length).queuedBytes =
            loaded.queuedBytes + bytes.length := rfl
        rw [hunsent', hspare, MqttPacket.size_eq hbytes]
        show loaded.queuedBytes + 0 + _ ≤ limit
        omega
      · intro hsome
        have hadd : (loaded.add priority packet id bytes.length).replayReserve =
            max loaded.replayReserve bytes.length := if_pos hsome
        rw [MqttPacket.size_eq hbytes]
        show bytes.length ≤ l.replayReserve
        omega
      · show (withQueue l loaded).queue.length < l.capacity
        rw [hitems, ← hcapacity]
        exact hbelow
    rw [MqttPacket.size_eq hbytes, ← withQueue_add l priority packet id bytes.length hbelow] at hstep
    have hsize : (loaded.add priority packet id bytes.length).queue.size = loaded.queue.size + 1 :=
      PriorityQueue.enqueue_size hbelow _ _
    have hcap : (loaded.add priority packet id bytes.length).queue.capacity =
        loaded.queue.capacity := PriorityQueue.enqueue_capacity _ _ _
    exact .head hstep (loadQueued_steps hloading hdone hunsent hcovered h (by omega)
      (hcap.trans hcapacity) hlimit hroom hreserve)

/-! ## The whole session -/

theorem loadReceived_stages {hasSession : Bool} : ∀ {list : List ReceivedExchange}
    {start received : AList (fun _ : ReceiveKey => ReceiveStage)},
    loadReceived hasSession list start = .ok received →
    (∀ key, start.lookup key ≠ some (.publish 1)) → ∀ key, received.lookup key ≠ some (.publish 1)
  | [], start, received, h, hstart => by
    cases h
    exact hstart
  | entry :: rest, start, received, h, hstart => by
    obtain ⟨-, h⟩ := check_bind_eq_ok.mp h
    refine loadReceived_stages h fun key => ?_
    by_cases hkey : key = (entry.stream, entry.packetId)
    · subst hkey
      rw [AList.lookup_insert]
      cases entry.stage <;> simp [loadStage]
    · rw [AList.lookup_insert_ne hkey]
      exact hstart key

/-- The ledger of an engine that begins to read a saved session. -/
def reading (next : MqttEngine T) (loaded : LoadedSession) : Ledger T :=
  { next.ledger with
    fresh := false
    previous := []
    capacity := next.options.maxOutgoingPacketCount
    queuedBytes := 0
    controlReserve := loaded.controlReserve
    replayReserve := loaded.replayReserve
    received := loaded.received
    link := { next.link with inputClosed := true, unbound := loaded.received.keys }
    loading := true
    promised := loaded.outbound }

/-- What is known of a saved session that passed the checks. -/
structure Loads (B : Build) (next : MqttEngine T) (loaded : LoadedSession) : Prop where
  fresh : next.session = none
  closed : next.Closed
  reserved : next.state.reserved = ∅
  queue : next.ledger.queue = []
  unsent : next.outgoingBuffer = []
  sessions : next.options.sessionless = false
  wide : 6 ≤ loaded.controlReserve
  fits : ∀ entry ∈ loaded.outbound, entry.2.onQuota = true →
    max 4 (entry.2.replayed.size B.strict) ≤ loaded.replayReserve
  room : ∀ limit ∈ next.options.maxOutgoingBufferBytes,
    max loaded.controlReserve loaded.replayReserve ≤ limit
  stages : ∀ key, loaded.received.lookup key ≠ some (.publish 1)

theorem loadSession_loads {next : MqttEngine T} {saved : ClientSessionState} {loaded : LoadedSession}
    (h : next.loadSession B saved = .ok loaded) : Loads B next loaded := by
  obtain ⟨hcheck, h⟩ := check_bind_eq_ok.mp h
  obtain ⟨⟨reserved, reserve⟩, houtbound, h⟩ := bind_eq_ok.mp h
  obtain ⟨queue, hqueue, h⟩ := bind_eq_ok.mp h
  obtain ⟨control, hcontrol, h⟩ := bind_eq_ok.mp h
  obtain ⟨hroom, h⟩ := check_bind_eq_ok.mp h
  obtain ⟨received, hreceived, heq⟩ := bind_eq_ok.mp h
  cases heq
  simp only [restoreCheck, check_bind_eq_ok, rejectIf_eq_ok, not_or, not_not] at hcheck
  obtain ⟨⟨hfresh, hc, hconnecting, hreserved, hsize, houtgoing⟩, -, ⟨hsessions, -⟩, -, -⟩ := hcheck
  obtain ⟨-, hfits⟩ := loadOutbound_reserve houtbound
  obtain ⟨-, hgrows, -⟩ := loadQueued_grows hqueue
  constructor
  case fresh => simpa using hfresh
  case closed => exact ⟨Bool.eq_false_iff.mpr hc, Bool.eq_false_iff.mpr hconnecting⟩
  case reserved => exact hreserved
  case queue =>
    refine List.length_eq_zero_iff.mp ?_
    show next.priorityQueue.items.length = 0
    rw [PriorityQueue.items_length]
    exact hsize
  case unsent => exact houtgoing
  case sessions => exact Bool.eq_false_iff.mpr hsessions
  case wide => exact connectReserve_wide hcontrol
  case fits => exact fun entry hentry hquota => Nat.le_trans (hfits entry hentry hquota) hgrows
  case room =>
    intro limit hlimit
    have hle := rejectOver_eq_ok.mp hroom limit hlimit
    show max control queue.replayReserve ≤ limit
    omega
  case stages => exact loadReceived_stages hreceived fun key => by simp

theorem loadSession_steps {next : MqttEngine T} {saved : ClientSessionState} {loaded : LoadedSession}
    (h : next.loadSession B saved = .ok loaded)
    (hneed : ∀ reserve, connectReserve B next.options = .ok reserve → P.need ≤ reserve) :
    ReflTransGen (Step B.strict P) (next.reading loaded) (next.commitSession saved loaded).ledger := by
  have hloads := loadSession_loads h
  obtain ⟨hcheck, h⟩ := check_bind_eq_ok.mp h
  obtain ⟨⟨reserved, reserve⟩, houtbound, h⟩ := bind_eq_ok.mp h
  obtain ⟨queue, hqueue, h⟩ := bind_eq_ok.mp h
  obtain ⟨control, hcontrol, h⟩ := bind_eq_ok.mp h
  obtain ⟨hroom, h⟩ := check_bind_eq_ok.mp h
  obtain ⟨received, hreceived, heq⟩ := bind_eq_ok.mp h
  cases heq
  simp only [restoreCheck, check_bind_eq_ok, rejectIf_eq_ok, not_or, not_not] at hcheck
  obtain ⟨-, -, -, -, hlength⟩ := hcheck
  obtain ⟨-, -, hcapacity⟩ := loadQueued_grows hqueue
  set loaded : LoadedSession := ⟨queue, saved.outbound, control, received⟩ with hloaded
  have houtbound' : loadOutbound B saved.mqttVersion saved.outbound
      ((next.reading loaded).reserved, 0) = .ok (reserved, reserve) := by
    rw [show (next.reading loaded).reserved = ∅ from hloads.reserved]
    exact houtbound
  have hfirst := loadOutbound_steps (P := P) houtbound' rfl rfl
  set l : Ledger T := { next.reading loaded with
    reserved := reserved
    previous := [] ++ saved.outbound
    promised := []
    trace := (saved.outbound.map (fun entry => Obs.inherited entry.1)).reverse ++ next.trace } with hl
  have hstart : withQueue l ⟨PriorityQueue.new next.options.maxOutgoingPacketCount, reserved, 0,
      reserve, (saved.outbound.map (fun entry => Obs.inherited entry.1)).reverse ++ next.trace⟩ = l := by
    simp only [withQueue, PriorityQueue.items_new, hl]
    rw [← hloads.queue]
    rfl
  have hroom' : ∀ limit ∈ l.limits.maxOutgoing, queue.queuedBytes + l.spare ≤ limit := by
    intro limit hlimit
    have hle := rejectOver_eq_ok.mp hroom limit hlimit
    have hspare : l.spare = max control queue.replayReserve := rfl
    omega
  have hsecond := loadQueued_steps (P := P) (l := l) rfl rfl hloads.unsent (hneed control hcontrol)
    hqueue (by show 0 + saved.queued.length ≤ next.options.maxOutgoingPacketCount; omega) rfl rfl
    hroom' (Nat.le_refl _)
  rw [hstart] at hsecond
  refine (hfirst.trans hsecond).tail ?_
  have hview : (next.commitSession saved loaded).ledger = { withQueue l queue with loading := false } := by
    have hcap : queue.queue.capacity = next.options.maxOutgoingPacketCount := hcapacity
    simp only [withQueue, hl, List.nil_append, reading, ← hcap]
    rfl
  rw [hview]
  exact .loaded rfl rfl

theorem restoreSessionState_sim (saved : ClientSessionState) (starts : P.starts)
    (hneed : ∀ reserve, connectReserve B e.options = .ok reserve → P.need ≤ reserve) :
    Sim B P e.ledger (restoreSessionState B saved e) Any := by
  refine .ask_bind (fun loaded hload => ?_) fun _ _ => .stay trivial
  have hloads := loadSession_loads hload
  have hstep : Step B.strict P e.ledger (e.reading loaded) :=
    .load loaded.outbound loaded.received loaded.controlReserve loaded.replayReserve hloads.wide
      hloads.fits hloads.room (by show e.session.isNone = true; rw [hloads.fresh]; rfl) hloads.closed
      hloads.reserved hloads.queue hloads.unsent hloads.sessions rfl starts hloads.stages
  exact .done (.head hstep (loadSession_steps hload hneed)) trivial

/-! ## Another engine -/

theorem loadReceived_kept {hasSession : Bool} : ∀ {list : List ReceivedExchange}
    {start received : AList (fun _ : ReceiveKey => ReceiveStage)},
    loadReceived hasSession list start = .ok received →
    (∀ key stage, start.lookup key = some stage → received.lookup key = some stage) ∧
      ∀ entry ∈ list, received.lookup (entry.stream, entry.packetId) = some (loadStage entry.stage)
  | [], start, received, h => by
    cases h
    exact ⟨fun _ _ h => h, fun _ h => (by cases h)⟩
  | entry :: rest, start, received, h => by
    obtain ⟨hcheck, h⟩ := check_bind_eq_ok.mp h
    rw [rejectIf_eq_ok] at hcheck
    push Not at hcheck
    obtain ⟨hkept, hrest⟩ := loadReceived_kept h
    refine ⟨fun key stage hkey => ?_, List.forall_mem_cons.mpr ⟨?_, hrest⟩⟩
    · refine hkept key stage ?_
      have hne : key ≠ (entry.stream, entry.packetId) := by
        rintro rfl
        exact hcheck.2.2 (by rw [hkey]; rfl)
      rw [AList.lookup_insert_ne hne]
      exact hkey
    · exact hkept _ _ (AList.lookup_insert _)

theorem mem_snapshotReceived {key : ReceiveKey} {stage : ReceiveStage} {stored : ReceivedStage}
    (h : e.state.received.lookup key = some stage) (hstage : snapshotStage stage = some stored) :
    ⟨key.1, key.2, stored⟩ ∈ e.snapshotReceived B := by
  unfold snapshotReceived
  rw [List.mem_mergeSort, List.mem_filterMap]
  refine ⟨⟨key, stage⟩, (B.iter_perm _).mem_iff.mpr (AList.mem_lookup_iff.mp h), ?_⟩
  rw [hstage]
  rfl

/-- The QoS 2 exchanges of the snapshot are in the new engine. -/
theorem snapshot_kept {hasSession : Bool} {received : AList (fun _ : ReceiveKey => ReceiveStage)}
    (h : loadReceived hasSession (e.snapshotReceived B) ∅ = .ok received) (key : ReceiveKey)
    (stage : ReceiveStage) (hkey : e.state.received.lookup key = some stage)
    (hstage : stage = .publish 2 ∨ stage = .pubRec ∨ stage = .pubRel) :
    received.lookup key = some stage := by
  obtain ⟨-, hall⟩ := loadReceived_kept h
  rcases hstage with rfl | rfl | rfl
  · exact hall ⟨key.1, key.2, .publish⟩ (mem_snapshotReceived hkey rfl)
  · exact hall ⟨key.1, key.2, .pubRec⟩ (mem_snapshotReceived hkey rfl)
  · exact hall ⟨key.1, key.2, .pubRel⟩ (mem_snapshotReceived hkey rfl)

theorem ledger_newAt (options : MqttClientOptions) (now : T) (trace : List Obs) :
    ({ newAt options now with trace := trace } : MqttEngine T).ledger =
      blank options.limits (fromMillis options.retransmissionTimeoutMs) options.retry now trace := rfl

theorem tryNewAt_ok {options : MqttClientOptions} {now : T} {fresh : MqttEngine T}
    (h : tryNewAt options now = .ok fresh) : fresh = newAt options now ∧
      ∀ d ∈ horizon options, (TimePoint.checkedAdd now d).isSome = true := by
  obtain ⟨-, h⟩ := check_bind_eq_ok.mp h
  obtain ⟨hrange, heq⟩ := check_bind_eq_ok.mp h
  rw [checkTimeRange, rejectIf_eq_ok, List.any_eq_true] at hrange
  refine ⟨(Except.ok.inj heq).symm, fun d hd => ?_⟩
  by_contra hnone
  exact hrange ⟨d, hd, by simpa using hnone⟩

theorem tryNewAt_of_isOk {options : MqttClientOptions} {now : T}
    (h : (tryNewAt options now).isOk = true) : tryNewAt options now = .ok (newAt options now) := by
  cases hnew : tryNewAt options now with
  | error error =>
    rw [hnew] at h
    cases h
  | ok fresh => rw [(tryNewAt_ok hnew).1]

/-- The default options are accepted. -/
theorem tryNewAt_default : tryNewAt {} (0 : Timestamp) = .ok (newAt {} 0) :=
  tryNewAt_of_isOk (by decide +kernel)

theorem mem_horizon_retransmission (options : MqttClientOptions) :
    fromMillis options.retransmissionTimeoutMs ∈ horizon options :=
  List.mem_append_left _ (List.mem_cons_of_mem _ List.mem_cons_self)

theorem replayed_withoutAlias (packet : MqttPacket) :
    packet.withoutAlias.replayed = packet.replayed ∧ packet.withoutAlias.onQuota = packet.onQuota := by
  cases packet
  case publish5 p =>
    simp [MqttPacket.replayed, MqttPacket.withoutAlias, MqttPacket.setDup, MqttPacket.onQuota,
      MqttPacket.isPublish]
  all_goals exact ⟨rfl, rfl⟩

theorem migrateInner_sim {options : MqttClientOptions} {now : T} (migrates : P.migrate)
    (hneed : ∀ reserve, connectReserve B options = .ok reserve → P.need ≤ reserve) :
    Sim B P e.ledger (migrateInner B options now e) Any := by
  unfold migrateInner
  refine .ask_bind (fun saved hsaved => ?_) fun _ _ => .stay trivial
  refine .lift_bind (fun fresh hfresh => ?_) fun _ _ => .stay trivial
  obtain ⟨rfl, hrange⟩ := tryNewAt_ok hfresh
  refine Reaches.read_bind (.lift_bind (fun loaded hload => ?_) fun _ _ => .stay trivial)
  set next : MqttEngine T := { newAt options now with trace := e.trace } with hnext
  have hloads := loadSession_loads hload
  have hsteps := loadSession_steps hload hneed
  obtain ⟨hsessions, hsaved⟩ := check_bind_eq_ok.mp hsaved
  rw [rejectIf_eq_ok, not_or] at hsessions
  obtain ⟨houtbound, hreceived⟩ : loaded.outbound = saved.outbound ∧
      loadReceived saved.hasSession saved.received ∅ = .ok loaded.received := by
    obtain ⟨-, h⟩ := check_bind_eq_ok.mp hload
    obtain ⟨_, -, h⟩ := bind_eq_ok.mp h
    obtain ⟨_, -, h⟩ := bind_eq_ok.mp h
    obtain ⟨_, -, h⟩ := bind_eq_ok.mp h
    obtain ⟨-, h⟩ := check_bind_eq_ok.mp h
    obtain ⟨received, hreceived, heq⟩ := bind_eq_ok.mp h
    cases heq
    exact ⟨rfl, hreceived⟩
  obtain rfl := Except.ok.inj hsaved
  have hfits : ∀ entry ∈ e.ledger.outstanding, entry.2.onQuota = true →
      max 4 (entry.2.replayed.size B.strict) ≤ loaded.replayReserve := by
    intro entry hentry hquota
    have hmem : (entry.1, entry.2.withoutAlias) ∈ loaded.outbound := by
      rw [houtbound]
      exact List.mem_map_of_mem hentry
    obtain ⟨hreplayed, hsame⟩ := replayed_withoutAlias entry.2
    have := hloads.fits _ hmem (hsame.trans hquota)
    rwa [hreplayed] at this
  have hstep : Step B.strict P e.ledger _ :=
    .migrate options.limits (fromMillis options.retransmissionTimeoutMs) options.retry now
      loaded.received loaded.controlReserve loaded.replayReserve migrates hloads.wide hfits hloads.room
      (Bool.eq_false_iff.mpr hsessions.1) hloads.sessions rfl rfl (snapshot_kept hreceived) hloads.stages hrange
      (mem_horizon_retransmission options)
  refine .done (.head hstep ?_) trivial
  convert hsteps using 1
  have hview : next.ledger = _ := ledger_newAt options now e.trace
  simp only [reading, hview, houtbound]
  rfl

end MqttEngine

end FlowSdk
