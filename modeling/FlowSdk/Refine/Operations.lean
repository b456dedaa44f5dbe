/-
  FlowSdk.Refine.Operations — the commands that wait for an acknowledgement, as steps.

  An identifier that a command is given belongs to no operation. A publication is admitted in
  one step, with its identifier and its bytes; a request is appended and then tracked, also in
  one step each. The limits on what a caller may pass are those of the `Permit`.
-/
import FlowSdk.Refine.Connection
import FlowSdk.Client.Replayed

set_option linter.unusedSectionVars false

namespace FlowSdk

open Machine Wire Ledger
open Relation (ReflTransGen)

variable {T : Type} [TimePoint T] {ε α : Type} {B : Build} {P : Permit} {e : MqttEngine T}

namespace MqttEngine

/-! ## Identifiers -/

/-- Only the allocator of identifiers was used. -/
def Allocates (e e' : MqttEngine T) : Prop :=
  ∃ session, session.isNone = e.session.isNone ∧ e' = { e with session := session }

theorem Allocates.refl (e : MqttEngine T) : e.Allocates e := ⟨e.session, rfl, rfl⟩

theorem Allocates.ledger {e' : MqttEngine T} (h : e.Allocates e') : e'.ledger = e.ledger := by
  obtain ⟨session, hsession, rfl⟩ := h
  simp only [MqttEngine.ledger, ledgerWith, link, retry, hsession]

theorem Allocates.isConnected {e' : MqttEngine T} (h : e.Allocates e') :
    e'.isConnected = e.isConnected := by
  obtain ⟨session, -, rfl⟩ := h
  rfl

theorem free_of_inUse {id : UInt16} (hzero : id ≠ 0) (h : e.inUse id = false) : e.ledger.Free id := by
  obtain ⟨hreserved, hinflight⟩ := Bool.or_eq_false_iff.mp h
  refine ⟨hzero, of_decide_eq_false hreserved, fun hmem => ?_⟩
  exact Bool.false_ne_true (hinflight.symm.trans (InflightQueue.contains_iff.mpr hmem))

theorem searchId_some {taken : UInt16 → Bool} {fuel : Nat} {session : ClientSession} {id : UInt16}
    (h : (searchId taken fuel session).1 = some id) : id ≠ 0 ∧ taken id = false := by
  rw [searchId_eq] at h
  obtain ⟨-, hfree, k, -, rfl, -⟩ := searchFree_some h
  rw [Function.iterate_succ_apply'] at hfree ⊢
  exact ⟨successor_ne_zero _, hfree⟩

theorem nextPacketId_sim (e : MqttEngine T) :
    Sim B P e.ledger (nextPacketId e)
      (fun r e' => e.Allocates e' ∧ ∀ id, r = .ok id → e.ledger.Free id) := by
  unfold nextPacketId
  refine Reaches.read_bind ?_
  cases hsession : e.session with
  | none => exact .stay ⟨.refl e, fun _ h => (by cases h)⟩
  | some session =>
    dsimp only
    have hsame : e.Allocates { e with session := some (searchId e.inUse 65535 session).2 } :=
      ⟨_, by rw [hsession]; rfl, rfl⟩
    refine Reaches.update_bind ?_
    cases hfound : (searchId e.inUse 65535 session).1 with
    | none => exact .done (hsame.ledger ▸ .refl) ⟨hsame, fun _ h => (by cases h)⟩
    | some id =>
      obtain ⟨hzero, hfree⟩ := searchId_some hfound
      refine .done (hsame.ledger ▸ .refl) ⟨hsame, ?_⟩
      rintro _ ⟨⟩
      exact free_of_inUse hzero hfree

theorem candidateId_sim (requested : Option UInt16) (e : MqttEngine T) :
    Sim B P e.ledger (candidateId requested e)
      (fun r e' => e.Allocates e' ∧ ∀ id, r = .ok id → e.ledger.Free id) := by
  unfold candidateId
  refine Reaches.read_bind ?_
  cases requested with
  | none => exact nextPacketId_sim e
  | some id =>
    refine .ite (fun _ => .stay ⟨.refl e, fun _ h => (by cases h)⟩) fun hfree => ?_
    refine .stay ⟨.refl e, ?_⟩
    rintro _ ⟨⟩
    push Not at hfree
    exact free_of_inUse hfree.1 (Bool.eq_false_iff.mpr hfree.2)

/-! ## PUBLISH -/

/-- Whatever topic and identifier the command is given, its packet fits into the lengths of
the encoder. -/
def Small (strict : Bool) (command : PublishCommand) : Prop :=
  ∀ version topic id bytes,
    (publishPacket version { command with topicName := topic, packetId := id }).toBytes strict =
      .ok bytes → bytes.length < 2 ^ 32

/-- The alias that a command registers is one that the broker accepts. -/
def Registers (e : MqttEngine T) (registration : Option (UInt16 × Topic)) : Prop :=
  ∀ topicAlias topic, registration = some (topicAlias, topic) →
    topicAlias ≠ 0 ∧ topicAlias ≤ e.state.outgoingAliasMaximum

theorem registerAlias_steps {registration : Option (UInt16 × Topic)}
    (publishes : P.publishes) (h : e.Registers registration) :
    ReflTransGen (Step B.strict P) e.ledger (e.registerAlias registration).ledger := by
  cases registration with
  | none => exact .refl
  | some registration =>
    obtain ⟨hnonzero, hle⟩ := h _ _ rfl
    exact .single (.register registration.1 registration.2 publishes hle hnonzero)

/-- What is left of a command that was checked: a topic, and perhaps its name. -/
theorem validatePublish_ok {command command' : PublishCommand}
    {registration : Option (UInt16 × Topic)}
    (h : e.validatePublish command = .ok (command', registration)) :
    (∃ topic, command' = { command with topicName := topic }) ∧
      (command'.topicName = "" → topicAliases command'.properties = []) ∧
      e.Registers registration := by
  have hnone : e.Registers none := fun _ _ h => (by cases h)
  obtain ⟨-, h⟩ := check_bind_eq_ok.mp h
  cases haliases : topicAliases command.properties with
  | nil =>
    rw [haliases] at h
    cases h
    exact ⟨⟨_, rfl⟩, fun _ => haliases, hnone⟩
  | cons first more =>
    rw [haliases] at h
    dsimp only at h
    split at h
    next => cases h
    next hvalid =>
      split at h
      next hempty =>
        split at h
        next => cases h
        next topic htopic =>
          cases h
          exact ⟨⟨_, rfl⟩, fun hnil => absurd hnil topic.property, hnone⟩
      next htitle =>
        cases h
        refine ⟨⟨_, rfl⟩, fun hnil => absurd hnil htitle, ?_⟩
        rintro _ _ ⟨⟩
        obtain ⟨-, hnonzero, hle⟩ : _ ∧ _ ∧ _ :=
          (not_or.mp hvalid).imp_right fun h => not_or.mp h
        exact ⟨hnonzero, UInt16.not_lt.mp hle⟩

theorem titled_publishPacket {command : PublishCommand} (version : UInt8)
    (h : command.topicName = "" → topicAliases command.properties = []) :
    (publishPacket version command).Titled := by
  unfold publishPacket
  split
  · intro hempty
    refine List.filter_eq_self.mpr fun property hproperty => ?_
    have hnone := List.filterMap_eq_nil_iff.mp (h hempty) property hproperty
    refine decide_eq_true fun hid => ?_
    cases property <;> simp_all [Property.id]
  · trivial

@[simp] theorem isPublish_publishPacket (version : UInt8) (command : PublishCommand) :
    (publishPacket version command).isPublish = true := by
  unfold publishPacket
  split <;> rfl

@[simp] theorem qos_publishPacket (version : UInt8) (command : PublishCommand) :
    (publishPacket version command).qos = command.qos := by
  unfold publishPacket
  split <;> rfl

@[simp] theorem publishId_publishPacket (version : UInt8) (command : PublishCommand) :
    (publishPacket version command).publishId = command.packetId := by
  unfold publishPacket
  split <;> rfl

/-- What is known of the packet of a command that was checked and encoded. -/
theorem publishes_publishPacket {command : PublishCommand} {id : Option UInt16} {bytes : Bytes}
    {version : UInt8} (hbytes : (publishPacket version command).toBytes B.strict = .ok bytes)
    (htitle : command.topicName = "" → topicAliases command.properties = [])
    (hid : id = if command.qos > 0 then command.packetId else none)
    (hidentified : command.qos > 0 → id.isSome)
    (htagged : P.tagged ∨ command.qos > 0 ∨ command.packetId = none)
    (hsmall : P.huge ∨ bytes.length < 2 ^ 32) :
    Publishes B.strict P (publishPacket version command) id := by
  have htitled := titled_publishPacket version htitle
  obtain ⟨plain, hplain, hshort⟩ := MqttPacket.toBytes_withoutAlias htitled hbytes
  refine ⟨isPublish_publishPacket _ _, ?_, ?_, ?_, ⟨bytes, hbytes⟩, ⟨plain, hplain⟩, ?_, ?_⟩
  · rw [MqttPacket.tracked, qos_publishPacket, publishId_publishPacket, hid]
  · rwa [qos_publishPacket]
  · rwa [qos_publishPacket, publishId_publishPacket]
  · rw [MqttPacket.size_eq hplain, MqttPacket.size_eq hbytes]
    exact hsmall.imp_right hshort
  · intro hsome
    have hqos : command.qos > 0 := by
      by_contra hzero
      rw [hid, if_neg hzero] at hsome
      cases hsome
    obtain ⟨again, hagain, hnolonger, -⟩ := MqttPacket.toBytes_replayed htitled
      (fun _ => (qos_publishPacket version command).symm ▸ hqos) hbytes
    rw [MqttPacket.size_eq hagain, MqttPacket.size_eq hbytes]
    have hfour := MqttPacket.four_le_publish (isPublish_publishPacket version command) hbytes
    exact hsmall.imp_right fun h => Nat.max_le.mpr ⟨hfour, hnolonger h⟩

/-- The identifier of a command of QoS 1 or 2 is new. -/
theorem assignId_sim (command : PublishCommand) (e : MqttEngine T) :
    Sim B P e.ledger (assignId command e) (fun r e' => e.Allocates e' ∧
      ∀ command' id, r = .ok (command', id) → (∀ i ∈ id, e.ledger.Free i) ∧
        (command.qos > 0 → id.isSome) ∧ (id = if command'.qos > 0 then command'.packetId else none) ∧
        ∃ pid, command' = { command with packetId := pid } ∧
          (¬ command.qos > 0 → pid = command.packetId)) := by
  unfold assignId
  refine .ite (fun hqos => ?_) fun hqos => ?_
  · refine .bind (candidateId_sim command.packetId e) ?_ ?_
    · rintro id e' ⟨hsame, hfree⟩
      refine .stay ⟨hsame, ?_⟩
      rintro _ _ ⟨⟩
      refine ⟨?_, fun _ => rfl, (if_pos hqos).symm, some id, rfl, fun h => absurd hqos h⟩
      rintro _ ⟨⟩
      exact hfree id rfl
    · rintro error e' ⟨hsame, -⟩
      exact ⟨hsame, fun _ _ h => (by cases h)⟩
  · refine .stay ⟨.refl e, ?_⟩
    rintro _ _ ⟨⟩
    exact ⟨fun _ h => (by cases h), fun h => absurd h hqos, (if_neg hqos).symm, command.packetId,
      rfl, fun _ => rfl⟩

theorem ledger_enqueuePublication (priority : UInt8) (packet : MqttPacket)
    (hbelow : e.priorityQueue.size < e.priorityQueue.capacity) :
    (e.enqueuePublication priority packet).ledger = e.ledger.enqueue priority packet 0 := by
  simp only [enqueuePublication, ledger, ledgerWith, record, PriorityQueue.items_enqueue hbelow,
    PriorityQueue.enqueue_capacity, ge_iff_le, Nat.not_le.mpr hbelow, decide_false]
  rfl

theorem ledger_admitPublication (id : Option UInt16)
    (priority : UInt8) (packet : MqttPacket) (size : Nat)
    (hbelow : e.priorityQueue.size < e.priorityQueue.capacity) :
    (e.admitPublication id none priority packet size).ledger =
      (id.elim e.ledger (e.ledger.reserve · size)).enqueue priority packet size := by
  cases id <;> exact ledger_enqueuePublication priority packet hbelow

/-- Nothing is claimed of an engine whose queue is smaller than the limit on its packets. -/
theorem evicted_sim {l : Ledger T} {o : Outcome (MqttEngine T) ε α}
    (room : l.queue.length < l.limits.maxPackets) (full : l.capacity ≤ l.queue.length) :
    Sim B P l o Any := by
  have hstep (l' : Ledger T) : Step B.strict P l l' := .evict room full
  cases o with
  | done r e => exact ⟨.single (hstep _), trivial⟩
  | panic e => exact ReflTransGen.single (hstep _)

theorem publishCheck_ok {packet : MqttPacket} {bytes : Bytes}
    (h : e.publishCheck B packet = .ok bytes) : packet.toBytes B.strict = .ok bytes ∧
      ∀ limit ∈ e.ledger.limits.maxOutgoing,
        e.ledger.queuedBytes + e.ledger.unsent + (bytes.length + e.ledger.spare) ≤ limit := by
  simp only [publishCheck, bind_eq_ok] at h
  obtain ⟨b, hb, _, -, _, hroom, heq⟩ := h
  cases heq
  exact ⟨encoded_eq_ok.mp hb, checkOutputCapacity_eq_ok.mp hroom⟩

/-- The encoding of a publication is at hand if it is alone in the queue. -/
theorem ahead_admitPublication {id : Option UInt16} {priority : UInt8} {packet : MqttPacket} {bytes : Bytes}
    (hbelow : e.priorityQueue.size < e.priorityQueue.capacity)
    (hbytes : packet.toBytes B.strict = .ok bytes) :
    (e.admitPublication id none priority packet bytes.length).Ahead B.strict
      (if e.priorityQueue.size = 0 then some bytes else none) := by
  intro b hb first item rest hitems
  by_cases hempty : e.priorityQueue.size = 0
  · rw [if_pos hempty] at hb
    cases hb
    have hnil : e.ledger.queue = [] := List.length_eq_zero_iff.mp
      ((PriorityQueue.items_length e.priorityQueue).trans hempty)
    have hqueue := congrArg Ledger.queue
      (ledger_admitPublication id priority packet bytes.length hbelow)
    have hone : (e.admitPublication id none priority packet bytes.length).ledger.queue =
        (first, item) :: rest := hitems
    rw [hone] at hqueue
    cases id <;> (
      simp only [Option.elim, Ledger.enqueue, Ledger.reserve, Ledger.accept, hnil,
        List.orderedInsert_nil] at hqueue
      cases hqueue
      exact hbytes)
  · rw [if_neg hempty] at hb
    cases hb

/-- What a caller has to respect when it publishes. -/
structure MayPublish (B : Build) (P : Permit) (e : MqttEngine T) (command : PublishCommand) :
    Prop where
  publishes : P.publishes
  tagged : P.tagged ∨ command.qos > 0 ∨ command.packetId = none
  small : P.huge ∨ Small B.strict command
  covered : P.need ≤ e.state.controlReserve

theorem requireFullParser_sim (e : MqttEngine T) :
    Sim B P e.ledger (requireFullParser e) (fun _ e' => e' = e) := .stay rfl

/-- A publication that registers no alias joins the queue. -/
theorem admitPlain_step {command : PublishCommand} {id : Option UInt16} {bytes : Bytes}
    {version : UInt8} (priority : UInt8)
    (hpublishes : Publishes B.strict P (publishPacket version command) id)
    (hfree : ∀ i ∈ id, e.ledger.Free i) (hcovered : P.need ≤ e.state.controlReserve)
    (hcount : e.priorityQueue.size < e.options.maxOutgoingPacketCount)
    (hcheck : e.publishCheck B (publishPacket version command) = .ok bytes)
    (hbelow : e.priorityQueue.size < e.priorityQueue.capacity) :
    Step B.strict P e.ledger
      (e.admitPublication id none priority (publishPacket version command) bytes.length).ledger := by
  obtain ⟨hbytes, hspace⟩ := publishCheck_ok hcheck
  have hlength := PriorityQueue.items_length e.priorityQueue
  have hstep : Step B.strict P e.ledger _ := .accept id priority _ hpublishes hfree
    ⟨hlength ▸ hcount, by rw [MqttPacket.size_eq hbytes]; exact hspace⟩ hcovered (hlength ▸ hbelow)
  rw [MqttPacket.size_eq hbytes] at hstep
  exact ledger_admitPublication id priority _ _ hbelow ▸ hstep

/-- A publication that registers no alias is queued. -/
theorem admitPlain_sim {command : PublishCommand} {id : Option UInt16} {bytes : Bytes}
    {priority : UInt8} {version : UInt8}
    (hpublishes : Publishes B.strict P (publishPacket version command) id)
    (hfree : ∀ i ∈ id, e.ledger.Free i) (hcovered : P.need ≤ e.state.controlReserve)
    (hcount : e.priorityQueue.size < e.options.maxOutgoingPacketCount)
    (hcheck : e.publishCheck B (publishPacket version command) = .ok bytes) :
    Sim B P e.ledger ((processQueueWithEncoding B
        (if e.priorityQueue.size = 0 then some bytes else none) : Eff _ ε _)
      (e.admitPublication id none priority (publishPacket version command) bytes.length))
      Any := by
  have hlength := PriorityQueue.items_length e.priorityQueue
  by_cases hbelow : e.priorityQueue.size < e.priorityQueue.capacity
  · have hstep := admitPlain_step priority hpublishes hfree hcovered hcount hcheck hbelow
    exact Reaches.step_first hstep (processQueueWithEncoding_sim _
      (ahead_admitPublication hbelow (publishCheck_ok hcheck).1)).any
  · exact evicted_sim (hlength ▸ hcount) (hlength ▸ Nat.not_lt.mp hbelow)

theorem admitPublication_sim {command : PublishCommand} {id : Option UInt16} {bytes : Bytes}
    {registration : Option (UInt16 × Topic)} {priority : UInt8} {version : UInt8}
    (hpublishes : Publishes B.strict P (publishPacket version command) id)
    (publishes : P.publishes) (hregisters : e.Registers registration)
    (hfree : ∀ i ∈ id, e.ledger.Free i) (hcovered : P.need ≤ e.state.controlReserve)
    (hcount : e.priorityQueue.size < e.options.maxOutgoingPacketCount)
    (hcheck : e.publishCheck B (publishPacket version command) = .ok bytes) :
    Sim B P e.ledger ((processQueueWithEncoding B
        (if e.priorityQueue.size = 0 then some bytes else none) : Eff _ ε _)
      (e.admitPublication id registration priority (publishPacket version command) bytes.length))
      Any := by
  cases registration with
  | none => exact admitPlain_sim hpublishes hfree hcovered hcount hcheck
  | some registration =>
    -- The alias is registered first: that changes nothing the checks have looked at.
    have hsame : e.admitPublication id (some registration) priority (publishPacket version command)
        bytes.length = (e.registerAlias (some registration)).admitPublication id none priority
          (publishPacket version command) bytes.length := by
      cases id <;> rfl
    rw [hsame]
    exact Reaches.after (registerAlias_steps publishes hregisters)
      (admitPlain_sim (e := e.registerAlias (some registration)) hpublishes hfree hcovered hcount
        hcheck)

theorem publishInner_sim {command : PublishCommand} (may : MayPublish B P e command) :
    Sim B P e.ledger (publishInner B command e)
      (fun r _ => ∀ id, r = .ok (some id) → e.ledger.Free id) := by
  unfold publishInner
  refine .bind (Q := fun _ e' => e' = e) (.onlyWhen (fun _ => requireFullParser_sim e)
    fun _ => .stay rfl) ?_ fun _ _ _ _ h => (by cases h)
  rintro _ e rfl
  refine .ask_bind ?_ fun _ _ => .stay fun _ h => (by cases h)
  rintro ⟨checked, registration⟩ hchecked
  obtain ⟨⟨topic, rfl⟩, htitle, hregisters⟩ := validatePublish_ok hchecked
  refine .ask_bind ?_ fun _ _ => .stay fun _ h => (by cases h)
  intro _ hroom
  have hcount : e.priorityQueue.size < e.options.maxOutgoingPacketCount :=
    Nat.not_le.mp (rejectIf_eq_ok.mp hroom)
  refine .bind (assignId_sim _ e) ?_ fun _ _ _ _ h => (by cases h)
  rintro ⟨named, id⟩ e₁ ⟨hsame, hassigned⟩
  obtain ⟨hfree, hidentified, hid, pid, rfl, hkept⟩ := hassigned _ _ rfl
  rw [← hsame.ledger] at hfree
  have hledger := hsame.ledger
  obtain ⟨session, -, rfl⟩ := hsame
  refine Reaches.read_bind (.lift_bind ?_ fun _ _ => .stay fun _ h => (by cases h))
  intro bytes hcheck
  have htagged : P.tagged ∨ command.qos > 0 ∨ pid = none := by
    rcases may.tagged with htagged | hqos | hnone
    · exact .inl htagged
    · exact .inr (.inl hqos)
    · by_cases hqos : command.qos > 0
      · exact .inr (.inl hqos)
      · exact .inr (.inr ((hkept hqos).trans hnone))
  have hbytes := (publishCheck_ok hcheck).1
  have hpublishes : Publishes B.strict P _ id := publishes_publishPacket hbytes htitle hid
    hidentified htagged (may.small.imp_right fun h => h _ _ _ _ hbytes)
  refine Reaches.update_bind (.bind
    (admitPublication_sim hpublishes may.publishes hregisters hfree may.covered hcount hcheck)
    (fun _ _ _ => .stay ?_) fun _ _ _ _ h => (by cases h))
  rintro i ⟨⟩
  exact hledger ▸ hfree i rfl

/-! ## Streams -/

/-- Track a packet that was sent, if the clock and the quota allow it. -/
theorem trackEncoded_run (id : UInt16) (packet : MqttPacket) (qos : UInt8) (stream : Option Nat)
    (e : MqttEngine T) :
    (¬ e.ledger.Admits id packet ∧
      ∃ error, trackEncoded id packet qos stream e = .done (.error error) e) ∨
    ∃ inflight, e.ledger.Admits id packet ∧
      ({ e with inflightQueue := inflight } : MqttEngine T).ledger =
        e.ledger.trackOn stream id packet ∧
      trackEncoded id packet qos stream e = .done (.ok ()) { e with inflightQueue := inflight } := by
  unfold trackEncoded
  rcases pushWithStreamAt_track id packet qos stream e with
    ⟨hrefused, error, hpush, -⟩ | ⟨hadmits, inflight, hpush, hview⟩
  · exact .inl ⟨hrefused, error, Eff.bind_of_error (by rw [Eff.ask_run, hpush])⟩
  · refine .inr ⟨inflight, hadmits, hview e rfl rfl, ?_⟩
    rw [Eff.bind_of_ok (show Eff.ask _ e = .done (.ok inflight) e by rw [Eff.ask_run, hpush])]
    rfl

theorem publishEncodedInner_sim (streams : P.streams) (publishes : P.publishes) (command : PublishCommand)
    (stream : Option Nat) (e : MqttEngine T) :
    Sim B P e.ledger (publishEncodedInner B command stream e) Any := by
  unfold publishEncodedInner
  refine .ask_bind (fun _ _ => ?_) fun _ _ => .stay trivial
  refine .bind (Q := fun _ e' => e' = e) (.onlyWhen (fun _ => requireFullParser_sim e)
    fun _ => .stay rfl) ?_ fun _ _ _ => trivial
  rintro _ e rfl
  refine .ask_bind ?_ fun _ _ => .stay trivial
  rintro ⟨checked, registration⟩ hchecked
  obtain ⟨-, -, hregisters⟩ := validatePublish_ok hchecked
  refine .bind (assignId_sim _ e) ?_ fun _ _ _ => trivial
  rintro ⟨named, id⟩ e₁ ⟨hsame, hassigned⟩
  obtain ⟨hfree, hidentified, hid, pid, rfl, -⟩ := hassigned _ _ rfl
  rw [← hsame.ledger] at hfree
  have hregisters₁ : e₁.Registers registration := by
    obtain ⟨session, -, rfl⟩ := hsame
    exact hregisters
  refine Reaches.read_bind (.lift_bind ?_ fun _ _ => .stay trivial)
  intro bytes hcheck
  refine .bind (Q := fun _ e₂ => e₂.Registers registration) ?_ (fun _ e₂ hregisters₂ => ?_)
    fun _ _ _ => trivial
  · cases id with
    | none =>
      refine .ite (fun hqos => ?_) fun _ => .stay hregisters₁
      cases hidentified hqos
    | some id =>
      unfold trackPublication
      dsimp only
      rcases trackEncoded_run id (publishPacket e₁.mqttVersion { checked with packetId := pid })
          checked.qos stream e₁ with ⟨-, error, hrun⟩ | ⟨inflight, hadmits, hview, hrun⟩
      · rw [Eff.bind_of_error hrun]
        exact .stay hregisters₁
      · rw [Eff.bind_of_ok hrun]
        have htracked : (publishPacket e₁.mqttVersion { checked with packetId := pid }).tracked =
            some id := by
          rw [MqttPacket.tracked, qos_publishPacket, publishId_publishPacket, hid]
        have hpublish := isPublish_publishPacket e₁.mqttVersion { checked with packetId := pid }
        refine Reaches.update_bind (Sim.step (.trackStream stream id _ bytes.length streams
          (hfree id rfl) hpublish htracked rfl (hadmits.2.2.2 hpublish)) ?_
          ((startDeadline_sim _ _ _).weaken ?_))
        · rw [← hview]
          rfl
        · rintro _ _ ⟨deadlines, rfl⟩
          exact hregisters₁
  · refine Reaches.update_bind (.done ((registerAlias_steps publishes hregisters₂).tail ?_) trivial)
    cases registration <;> exact .sent

/-! ## SUBSCRIBE and UNSUBSCRIBE -/

/-- A request of the application: it is tracked, but neither counts against the quota nor
opens, authenticates or closes a connection. -/
structure Request (packet : MqttPacket) : Prop where
  isPublish : packet.isPublish = false
  isBoundary : packet.isBoundary = false
  onQuota : packet.onQuota = false

theorem request_subscribePacket (version : UInt8) (id : UInt16) (command : SubscribeCommand) :
    Request (subscribePacket version id command) := by
  unfold subscribePacket
  split <;> exact ⟨rfl, rfl, rfl⟩

theorem request_unsubscribePacket (version : UInt8) (id : UInt16) (command : UnsubscribeCommand) :
    Request (unsubscribePacket version id command) := by
  unfold unsubscribePacket
  split <;> exact ⟨rfl, rfl, rfl⟩

/-- The application may send a packet of its own. -/
def MaySend (P : Permit) (e : MqttEngine T) : Prop :=
  P.idle ∨ e.isConnected = true ∨ e.state.connecting = true ∨ e.state.reauthenticating = true

theorem Allocates.maySend {e' : MqttEngine T} (h : e.Allocates e') (may : MaySend P e) :
    MaySend P e' := by
  obtain ⟨session, -, rfl⟩ := h
  exact may

theorem operate_sim {kind : OperationKind} {id : UInt16} {packet : MqttPacket} (may : MaySend P e)
    (request : Request packet) (hfree : e.ledger.Free id) :
    Sim B P e.ledger (operate B kind id packet e)
      (fun r e' => (∀ i, r = .ok i → i = id) ∧ (e.isConnected = true → e'.isConnected = true)) := by
  have hsends : e.ledger.Sends P packet .command := ⟨request.isPublish, .inl request.isBoundary, may⟩
  refine .bind (enqueuePacketInner_sim hsends) ?_ ?_
  · rintro _ e₁ ⟨hok, -⟩
    obtain ⟨bytes, rfl⟩ := hok rfl
    rcases trackEncoded_run id packet 1 none (e.appendOutgoing .command packet bytes) with
      ⟨-, error, hrun⟩ | ⟨inflight, -, hview, hrun⟩
    · rw [Eff.bind_of_error hrun]
      exact .stay ⟨fun _ h => (by cases h), fun h => h⟩
    · rw [Eff.bind_of_ok hrun]
      refine Reaches.update_bind (Sim.run (.operate none id packet hfree request.onQuota
        request.isBoundary rfl) ?_ ?_)
      · rw [← hview]
        rfl
      · refine .bind (startDeadline_sim _ _ _) ?_ ?_
        · rintro _ _ ⟨deadlines, rfl⟩
          refine .stay ⟨?_, fun h => h⟩
          rintro _ ⟨⟩
          rfl
        · rintro _ _ ⟨deadlines, rfl⟩
          exact ⟨fun _ h => (by cases h), fun h => h⟩
  · rintro error e' ⟨-, herror⟩
    rw [herror error rfl]
    exact ⟨fun _ h => (by cases h), fun h => h⟩

/-- The part that both requests share: an identifier, then the packet that carries it. -/
theorem request_sim {requested : Option UInt16} {kind : OperationKind}
    (packet : UInt8 → UInt16 → MqttPacket) (may : MaySend P e)
    (request : ∀ version id, Request (packet version id)) :
    Sim B P e.ledger ((do
        let pid ← candidateId requested
        let e ← Eff.read
        operate B kind pid (packet e.mqttVersion pid)) e)
      (fun r e' => (∀ i, r = .ok i → e.ledger.Free i) ∧
        (e.isConnected = true → e'.isConnected = true)) := by
  refine .bind (candidateId_sim requested e) ?_ ?_
  · rintro id e₁ ⟨hsame, hfree⟩
    refine Reaches.read_bind ((operate_sim (hsame.maySend may) (request _ _)
      (hsame.ledger ▸ hfree id rfl)).weaken ?_)
    rintro r e' ⟨hid, hconnected⟩
    exact ⟨fun i hi => hid i hi ▸ hfree id rfl, fun h => hconnected (hsame.isConnected.trans h)⟩
  · rintro error e₁ ⟨hsame, -⟩
    exact ⟨fun _ h => (by cases h), fun h => hsame.isConnected.trans h⟩

theorem subscribeInner_sim (command : SubscribeCommand) (may : MaySend P e) :
    Sim B P e.ledger (subscribeInner B command e) (fun r e' =>
      (∀ i, r = .ok i → e.ledger.Free i) ∧ (e.isConnected = true → e'.isConnected = true)) := by
  unfold subscribeInner
  refine .ask_bind (fun _ _ => ?_) fun _ _ => .stay ⟨fun _ h => (by cases h), fun h => h⟩
  refine .bind (requireFullParser_sim e) ?_ ?_
  · rintro _ e rfl
    refine .ask_bind (fun _ _ => ?_) fun _ _ => .stay ⟨fun _ h => (by cases h), fun h => h⟩
    exact request_sim (subscribePacket · · command) may fun version id =>
      request_subscribePacket version id command
  · rintro error e rfl
    exact ⟨fun _ h => (by cases h), fun h => h⟩

theorem unsubscribeInner_sim (command : UnsubscribeCommand) (may : MaySend P e) :
    Sim B P e.ledger (unsubscribeInner B command e) (fun r e' =>
      (∀ i, r = .ok i → e.ledger.Free i) ∧ (e.isConnected = true → e'.isConnected = true)) := by
  unfold unsubscribeInner
  refine .ask_bind (fun _ _ => ?_) fun _ _ => .stay ⟨fun _ h => (by cases h), fun h => h⟩
  refine .bind (requireFullParser_sim e) ?_ ?_
  · rintro _ e rfl
    exact request_sim (unsubscribePacket · · command) may fun version id =>
      request_unsubscribePacket version id command
  · rintro error e rfl
    exact ⟨fun _ h => (by cases h), fun h => h⟩

theorem operateEncoded_sim {kind : OperationKind} {id : UInt16} {packet : MqttPacket}
    {stream : Option Nat} (request : Request packet) (hfree : e.ledger.Free id) :
    Sim B P e.ledger (operateEncoded B kind id packet stream e) Any := by
  unfold operateEncoded
  refine .ask_bind (fun bytes _ => ?_) fun _ _ => .stay trivial
  rcases trackEncoded_run id packet 1 stream e with ⟨-, error, hrun⟩ | ⟨inflight, -, hview, hrun⟩
  · rw [Eff.bind_of_error hrun]
    exact .stay trivial
  · rw [Eff.bind_of_ok hrun]
    refine Reaches.update_bind (Sim.run (.operate stream id packet hfree request.onQuota
      request.isBoundary rfl) ?_ ?_)
    · rw [← hview]
      rfl
    · refine .bind (startDeadline_sim _ _ _) (fun _ _ _ => ?_) fun _ _ _ => trivial
      exact Reaches.update_bind (.done (.single .sent) trivial)

theorem requestEncoded_sim {requested : Option UInt16} {kind : OperationKind} {stream : Option Nat}
    (packet : UInt8 → UInt16 → MqttPacket) (request : ∀ version id, Request (packet version id))
    (e : MqttEngine T) :
    Sim B P e.ledger ((do
        let pid ← candidateId requested
        let e ← Eff.read
        operateEncoded B kind pid (packet e.mqttVersion pid) stream) e) Any := by
  refine .bind (candidateId_sim requested e) ?_ fun _ _ _ => trivial
  rintro id e₁ ⟨hsame, hfree⟩
  exact Reaches.read_bind (operateEncoded_sim (request _ _) (hsame.ledger ▸ hfree id rfl))

theorem subscribeEncodedInner_sim (command : SubscribeCommand) (stream : Option Nat)
    (e : MqttEngine T) : Sim B P e.ledger (subscribeEncodedInner B command stream e) Any := by
  unfold subscribeEncodedInner
  refine .ask_bind (fun _ _ => ?_) fun _ _ => .stay trivial
  refine .bind (requireFullParser_sim e) ?_ fun _ _ _ => trivial
  rintro _ e rfl
  refine .ask_bind (fun _ _ => ?_) fun _ _ => .stay trivial
  exact requestEncoded_sim (subscribePacket · · command) (fun version id =>
    request_subscribePacket version id command) e

theorem unsubscribeEncodedInner_sim (command : UnsubscribeCommand) (stream : Option Nat)
    (e : MqttEngine T) : Sim B P e.ledger (unsubscribeEncodedInner B command stream e) Any := by
  unfold unsubscribeEncodedInner
  refine .ask_bind (fun _ _ => ?_) fun _ _ => .stay trivial
  refine .bind (requireFullParser_sim e) ?_ fun _ _ _ => trivial
  rintro _ e rfl
  exact requestEncoded_sim (unsubscribePacket · · command) (fun version id =>
    request_unsubscribePacket version id command) e

end MqttEngine

end FlowSdk
