/-
  FlowSdk.Refine.Basic — how the engine's building blocks change the ledger.

  `Sim B P e o Q` says that an outcome `o` of code that ran in `e` is explained by steps of
  the ledger, and that its result satisfies `Q`. The functions that neither fail nor panic
  have an equation or a step instead; the lemmas here are what the specifications of the
  larger functions are put together from.
-/
import FlowSdk.Client.Step

set_option linter.unusedSectionVars false

namespace FlowSdk

open Machine Wire Ledger
open Relation (ReflTransGen)

variable {T : Type} [TimePoint T] {ε α : Type} {B : Build} {P : Permit}

/-- An outcome of the engine is explained by steps of the ledger. -/
abbrev Sim (B : Build) (P : Permit) (start : Ledger T) (o : Outcome (MqttEngine T) ε α)
    (Q : Except ε α → MqttEngine T → Prop) : Prop :=
  Reaches (Step B.strict P) MqttEngine.ledger start o Q

theorem Sim.panic {e : MqttEngine T} {site : PanicSite} {Q : Except ε α → MqttEngine T → Prop}
    (h : Possible B.strict e.ledger site) : Sim B P e.ledger (panicAt site e) Q :=
  ReflTransGen.single (.halt site h)

/-- One step leads to the ledger of the engine that the rest runs in. -/
theorem Sim.step {l l' : Ledger T} {e : MqttEngine T} {o : Outcome (MqttEngine T) ε α}
    {Q : Except ε α → MqttEngine T → Prop} (h : Step B.strict P l l') (hview : e.ledger = l')
    (ho : Sim B P e.ledger o Q) : Sim B P l o Q :=
  Reaches.step_first (hview ▸ h) ho

/-- One step leads to the engine that the rest runs in. -/
theorem Sim.run {l l' : Ledger T} {e : MqttEngine T} {m : Eff (MqttEngine T) ε α}
    {Q : Except ε α → MqttEngine T → Prop} (h : Step B.strict P l l') (hview : e.ledger = l')
    (hm : Sim B P e.ledger (m e) Q) : Sim B P l (m e) Q :=
  Sim.step h hview hm

/-! ## Plain changes -/

/-- Nothing that the engine reports by itself. -/
theorem MqttEvent.plain_error (error : MqttClientError) : (MqttEvent.error error).plain :=
  ⟨rfl, rfl, rfl, rfl, rfl⟩

namespace MqttEngine

variable (restoring : List (Exchange × Bool)) (e : MqttEngine T)

theorem ledger_acknowledged (id : UInt16) :
    (e.acknowledged id).ledgerWith restoring = (e.ledgerWith restoring).remove id := by
  have hlimits := e.inflightQueue.acknowledge_limits id
  have hquota : (e.inflightQueue.acknowledge id).2.publishQuotaUsed =
      if e.inflightQueue.snapshotForReconnect.any (fun x => x.1 = id && x.2.onQuota)
        then e.inflightQueue.publishQuotaUsed - 1 else e.inflightQueue.publishQuotaUsed := by
    obtain ⟨hnew, hack⟩ | ⟨entry, hget, -, hquota⟩ := e.inflightQueue.acknowledge_cases id
    · rw [hack, if_neg]
      simp only [List.any_eq_true, Bool.and_eq_true, decide_eq_true_eq]
      rintro ⟨x, hx, rfl, -⟩
      exact hnew (List.mem_map_of_mem hx)
    · rw [hquota]
      refine if_congr ?_ rfl rfl
      simp only [List.any_eq_true, Bool.and_eq_true, decide_eq_true_eq]
      constructor
      · intro h
        exact ⟨(id, entry.packet), InflightQueue.mem_snapshot.mpr ⟨entry, hget, rfl⟩, rfl, h⟩
      · rintro ⟨⟨_, packet⟩, hx, rfl, h⟩
        obtain ⟨entry', hget', rfl⟩ := InflightQueue.mem_snapshot.mp hx
        cases hget.symm.trans hget'
        exact h
  simp only [ledgerWith, acknowledged, Ledger.remove, hlimits.1.receiveMaximum, hlimits.1.mqttVersion,
    hlimits.1.retransmissionTimeout, hlimits.2, hquota, InflightQueue.acknowledge_snapshot, InflightQueue.acknowledge_tags]
  rfl

theorem ledger_failOperation (id : UInt16) (packet : MqttPacket) (error : MqttClientError) :
    (e.failOperation id packet error).ledgerWith restoring =
      (e.ledgerWith restoring).finish id (.operationFailed packet.operation (some id) error) := by
  rw [Ledger.finish, ← ledger_acknowledged]
  rfl

theorem ledger_appendOutgoing (origin : Origin) (packet : MqttPacket) (bytes : Bytes) :
    (e.appendOutgoing origin packet bytes).ledger = e.ledger.append origin packet bytes := rfl

theorem pushWithStreamAt_track (id : UInt16) (packet : MqttPacket) (qos : UInt8)
    (stream : Option Nat) (e : MqttEngine T) :
    (¬ e.ledger.Admits id packet ∧ ∃ error,
      e.inflightQueue.pushWithStreamAt id packet qos stream e.now = .error error ∧
        error.isOperationTimeout = false) ∨
    (e.ledger.Admits id packet ∧ ∃ inflight,
      e.inflightQueue.pushWithStreamAt id packet qos stream e.now = .ok inflight ∧
        ∀ e' : MqttEngine T, e'.inflightQueue = e.inflightQueue → e'.now = e.now →
          ({ e' with inflightQueue := inflight } : MqttEngine T).ledger =
            e'.ledger.trackOn stream id packet) := by
  have hadmits : e.inflightQueue.Admits id packet e.now ↔ e.ledger.Admits id packet := by
    refine and_congr_right' (and_congr_right' (and_congr_right' (imp_congr_right fun _ => ?_)))
    exact decide_eq_true_iff
  rcases e.inflightQueue.pushWithStreamAt_cases id packet qos stream e.now with
    ⟨hrefused, herror⟩ | ⟨hok, inflight, hpush, hsnapshot, hquota, htags, hlast, hlimits⟩
  · exact .inl ⟨fun h => hrefused (hadmits.mpr h), herror⟩
  · refine .inr ⟨hadmits.mp hok, inflight, hpush, fun e' hqueue hnow => ?_⟩
    simp only [ledger, ledgerWith, Ledger.trackOn, link, retry, hqueue, hnow, hsnapshot, hquota, htags,
      hlast, hlimits.receiveMaximum, hlimits.mqttVersion, hlimits.retransmissionTimeout]

variable {e}

theorem pushEvent_step {ev : MqttEvent} (h : ev.plain) :
    Step B.strict P e.ledger (e.pushEvent ev).ledger := .note (.event ev) h

/-- Code that runs after an event was pushed. -/
theorem after_event {l : Ledger T} {ev : MqttEvent} {m : Eff (MqttEngine T) ε α}
    {Q : Except ε α → MqttEngine T → Prop} (h : ev.plain) (hview : l = e.ledger)
    (hm : Sim B P (e.pushEvent ev).ledger (m (e.pushEvent ev)) Q) :
    Sim B P l (m (e.pushEvent ev)) Q :=
  Reaches.step_first (hview ▸ pushEvent_step h) hm

theorem recordEvents_steps : ∀ {evs : List MqttEvent} {e : MqttEngine T},
    (∀ ev ∈ evs, ev.plain) →
      ReflTransGen (Step B.strict P) e.ledger (e.recordEvents evs).ledger
  | [], _, _ => .refl
  | ev :: evs, e, h => by
    obtain ⟨hev, hevs⟩ := List.forall_mem_cons.mp h
    exact .head (.note (.event ev) hev) (recordEvents_steps (e := e.record (.event ev)) hevs)

@[simp] theorem isConnected_recordEvents : ∀ (evs : List MqttEvent) (e : MqttEngine T),
    (e.recordEvents evs).isConnected = e.isConnected
  | [], _ => rfl
  | _ :: evs, e => isConnected_recordEvents evs (e.record _)

end MqttEngine

theorem noted_run (evs : List MqttEvent) (e : MqttEngine T) :
    (noted evs : Eff (MqttEngine T) ε _) e = .done (.ok evs) (e.recordEvents evs) := rfl

/-- Events that say nothing about operations, deliveries and connections. -/
theorem noted_sim {evs : List MqttEvent} (e : MqttEngine T) (h : ∀ ev ∈ evs, ev.plain) :
    Sim B P e.ledger ((noted evs : Eff (MqttEngine T) ε _) e)
      (fun _ e' => e'.isConnected = e.isConnected) :=
  .done (MqttEngine.recordEvents_steps h) (MqttEngine.isConnected_recordEvents evs e)

theorem takeEvents_sim (e : MqttEngine T) :
    Sim B P e.ledger ((takeEvents : Eff (MqttEngine T) ε _) e)
      (fun _ e' => e' = { e with events := [] }) :=
  Reaches.stay (s := ({ e with events := [] } : MqttEngine T)) rfl

namespace MqttEngine

/-! ## The output buffer -/

/-- A check that never reports a timeout: its errors end an operation. -/
def Permanent (x : Except MqttClientError α) : Prop :=
  ∀ error, x = .error error → error.isOperationTimeout = false

namespace Permanent

variable {β : Type}

theorem ok (a : α) : Permanent (.ok a) := fun _ h => by cases h

theorem bind {x : Except MqttClientError α} {f : α → Except MqttClientError β} (hx : Permanent x)
    (hf : ∀ a, Permanent (f a)) : Permanent (x >>= f) := by
  intro error h
  cases x with
  | error e =>
    cases h
    exact hx _ rfl
  | ok a => exact hf a error h

theorem reject {c : Prop} [Decidable c] {error : MqttClientError}
    (h : error.isOperationTimeout = false) : Permanent (rejectIf c error) := by
  intro e he
  unfold rejectIf at he
  split at he
  · cases he
    exact h
  · cases he

theorem rejectOver (limit : Option Nat) (size : Nat) (bufferType : String) :
    Permanent (rejectOver limit size bufferType) := by
  cases limit with
  | none => exact ok ()
  | some capacity => exact reject rfl

theorem encoded (packet : MqttPacket) : Permanent (encoded B packet) := by
  intro error h
  unfold FlowSdk.encoded at h
  cases hb : packet.toBytes B.strict with
  | error e =>
    rw [hb] at h
    cases h
    rfl
  | ok bytes =>
    rw [hb] at h
    cases h

end Permanent

variable {e : MqttEngine T}

theorem encoded_eq_ok {packet : MqttPacket} {bytes : Bytes} :
    encoded B packet = .ok bytes ↔ packet.toBytes B.strict = .ok bytes := by
  rw [encoded]
  cases packet.toBytes B.strict with
  | error e => simp [Except.mapError]
  | ok b => simp [Except.mapError]

theorem rejectOver_eq_ok {limit : Option Nat} {size : Nat} {bufferType : String} {u : Unit} :
    rejectOver limit size bufferType = .ok u ↔ ∀ l ∈ limit, size ≤ l := by
  cases limit with
  | none => simp [rejectOver]
  | some l => simp [rejectOver, rejectIf_eq_ok]

theorem checkPacketSize_permanent (bytes : Bytes) : Permanent (e.checkPacketSize bytes) :=
  .bind (.rejectOver _ _ _) fun _ => .reject rfl

theorem validatePacketCapabilities_permanent (packet : MqttPacket) :
    Permanent (e.validatePacketCapabilities packet) := by
  unfold validatePacketCapabilities
  split
  · exact .ok ()
  · exact .reject rfl

theorem enqueueCheck_permanent (packet : MqttPacket) : Permanent (e.enqueueCheck B packet) :=
  .bind (.reject rfl) fun _ => .bind (.reject rfl) fun _ =>
    .bind (validatePacketCapabilities_permanent packet) fun _ => .bind (.encoded packet) fun bytes =>
      .bind (checkPacketSize_permanent bytes) fun _ => .bind (.rejectOver _ _ _) fun _ => .ok bytes

theorem emissionCheck_permanent (packet : MqttPacket) (bytes : Bytes) :
    Permanent (e.emissionCheck packet bytes) :=
  .bind (validatePacketCapabilities_permanent packet) fun _ => checkPacketSize_permanent bytes

theorem checkOutputCapacity_eq_ok {additional : Nat} {u : Unit} :
    e.checkOutputCapacity additional = .ok u ↔ ∀ limit ∈ e.ledger.limits.maxOutgoing,
      e.ledger.queuedBytes + e.ledger.unsent + additional ≤ limit :=
  rejectOver_eq_ok

theorem enqueueCheck_room {packet : MqttPacket} {bytes : Bytes}
    (h : e.enqueueCheck B packet = .ok bytes) :
    e.ledger.Room bytes.length ∧ packet.toBytes B.strict = .ok bytes := by
  simp only [enqueueCheck, bind_eq_ok, rejectIf_eq_ok] at h
  obtain ⟨_, -, _, hcount, _, -, b, hb, _, -, _, hbytes, heq⟩ := h
  cases heq
  exact ⟨⟨Nat.lt_of_not_le hcount, checkOutputCapacity_eq_ok.mp hbytes⟩, encoded_eq_ok.mp hb⟩

theorem enqueueCheck_gate {packet : MqttPacket} {bytes : Bytes}
    (h : e.enqueueCheck B packet = .ok bytes) : e.ledger.Gate B.strict packet := by
  intro hstrict hversion hmethod hconnecting
  simp only [enqueueCheck, ensureOutgoingAllowed, bind_eq_ok, rejectIf_eq_ok] at h
  obtain ⟨_, hallowed, -⟩ := h
  by_contra hother
  rw [not_or] at hother
  exact hallowed ⟨hstrict, hversion, hconnecting, hmethod, hother⟩

/-- The packet is appended, or nothing happens. -/
theorem enqueuePacketInner_run (origin : Origin) (packet : MqttPacket) (e : MqttEngine T) :
    (∃ bytes, e.enqueueCheck B packet = .ok bytes ∧
      enqueuePacketInner B origin packet e =
        .done (.ok ()) (e.appendOutgoing origin packet bytes)) ∨
    ∃ error, e.enqueueCheck B packet = .error error ∧
      enqueuePacketInner B origin packet e = .done (.error error) e := by
  unfold enqueuePacketInner
  cases h : e.enqueueCheck B packet with
  | error error =>
    exact .inr ⟨error, rfl, Eff.bind_of_error (by rw [Eff.ask_run, h])⟩
  | ok bytes =>
    refine .inl ⟨bytes, rfl, ?_⟩
    rw [Eff.bind_of_ok (show Eff.ask _ e = .done (.ok bytes) e by rw [Eff.ask_run, h])]
    rfl

theorem enqueuePacketInner_sim {origin : Origin} {packet : MqttPacket}
    (h : e.ledger.Sends P packet origin) :
    Sim B P e.ledger (enqueuePacketInner B origin packet e) (fun r e' =>
      (r = .ok () → ∃ bytes, e' = e.appendOutgoing origin packet bytes) ∧
      ∀ error, r = .error error → e' = e) := by
  obtain ⟨bytes, hcheck, hrun⟩ | ⟨error, -, hrun⟩ := enqueuePacketInner_run origin packet e
  · rw [hrun]
    refine .done ?_ ⟨fun _ => ⟨bytes, rfl⟩, fun _ h => (by cases h)⟩
    rw [ledger_appendOutgoing]
    obtain ⟨hroom, hencodes⟩ := enqueueCheck_room hcheck
    exact .single (.append origin packet bytes hencodes hroom h (enqueueCheck_gate hcheck))
  · rw [hrun]
    exact .stay ⟨fun h => (by cases h), fun _ _ => rfl⟩

/-! ## Deadlines -/

theorem deadlineFrom_ends (start : T) (duration : Nat) (e : MqttEngine T) :
    Ends ((deadlineFrom start duration : Eff (MqttEngine T) ε T) e) (fun _ e' => e' = e) := by
  unfold deadlineFrom
  cases TimePoint.checkedAdd start duration with
  | some deadline => exact .stay rfl
  | none => exact .refl

/-- A deadline is computed from the time of the call and a duration that was checked. -/
theorem deadlineFrom_sim {duration longest : Nat} {e : MqttEngine T}
    (hmem : longest ∈ e.reconnectMaxDelay :: horizon e.options) (hle : duration ≤ longest) :
    Sim B P e.ledger ((deadlineFrom e.now duration : Eff (MqttEngine T) ε T) e)
      (fun _ e' => e' = e) := by
  unfold deadlineFrom
  cases hadd : TimePoint.checkedAdd e.now duration with
  | some deadline => exact .stay rfl
  | none => exact Sim.panic ⟨longest, hmem, duration, hle, hadd⟩

/-- Every timeout of an operation is in the range that is checked. -/
theorem timeoutOf_mem {options : MqttClientOptions} {operation : OperationKind} {duration : Nat}
    (h : timeoutOf options.operationTimeouts operation = some duration) :
    duration ∈ horizon options := by
  refine List.mem_append_right _ (List.mem_filterMap.mpr ⟨_, ?_, h⟩)
  cases operation <;> simp

/-- A deadline leaves everything but the deadlines as it is. -/
theorem startDeadline_sim (operation : OperationKind) (id : Option UInt16) (e : MqttEngine T) :
    Sim B P e.ledger ((startDeadline operation id : Eff (MqttEngine T) ε Unit) e)
      (fun _ e' => ∃ deadlines, e' = { e with state.deadlines := deadlines }) := by
  unfold startDeadline
  refine Reaches.read_bind ?_
  cases htimeout : timeoutOf e.options.operationTimeouts operation with
  | none => exact .stay ⟨e.state.deadlines, rfl⟩
  | some duration =>
    have hmem := List.mem_cons_of_mem e.reconnectMaxDelay (timeoutOf_mem htimeout)
    refine .bind (deadlineFrom_sim hmem (le_refl _)) ?_ ?_
    · rintro deadline e' rfl
      exact .done .refl ⟨_, rfl⟩
    · rintro error e' rfl
      exact ⟨_, rfl⟩

end MqttEngine

end FlowSdk
