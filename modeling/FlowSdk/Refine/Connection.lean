/-
  FlowSdk.Refine.Connection — losing a connection, and sending what waits, as steps.

  A reset is one step and, without a session, a loop of failed operations. The replay and the
  queue are loops whose turns are steps of their own; the drain of the queue knows that it is
  connected, that nothing waits for its replay, and what the encoding it was handed belongs to.
-/
import FlowSdk.Refine.Basic

set_option linter.unusedSectionVars false

namespace FlowSdk

open Machine Wire Ledger
open Relation (ReflTransGen)

variable {T : Type} [TimePoint T] {ε α : Type} {B : Build} {P : Permit}

namespace MqttEngine

/-! ## Resetting -/

theorem queueBytes_cases : ∀ queue : List (UInt8 × Queued),
    queueBytes B queue = .ok (queueSize B.strict queue) ∨
    (∃ error, queueBytes B queue = .error error) ∧
      ∃ item ∈ queue, ¬ item.2.packet.Encodable B.strict
  | [] => .inl rfl
  | (priority, item) :: rest => by
    rw [queueBytes]
    cases hb : item.packet.toBytes B.strict with
    | error error =>
      refine .inr ⟨⟨error, rfl⟩, (priority, item), List.mem_cons_self, ?_⟩
      rintro ⟨bytes, hbytes⟩
      cases hb.symm.trans hbytes
    | ok bytes =>
      rcases queueBytes_cases rest with hrest | ⟨⟨error, hrest⟩, i, hi, hbad⟩
      · refine .inl ?_
        rw [hrest]
        show Except.ok (bytes.length + _) = .ok (item.packet.size B.strict + _)
        rw [MqttPacket.size_eq hb]
        rfl
      · exact .inr ⟨⟨error, by rw [hrest]; rfl⟩, i, List.mem_cons_of_mem _ hi, hbad⟩

theorem ledger_resetTransport (e : MqttEngine T) :
    (e.resetTransport (queueSize B.strict (stripped e.priorityQueue.items))).ledger =
      e.ledger.reset B.strict := by
  have hitems : (e.priorityQueue.modify Queued.withoutAlias).items =
      stripped e.priorityQueue.items := PriorityQueue.items_modify _ _
  by_cases hmax : e.options.receiveMaximum > 0
  · have hqueue : e.inflightQueue.updateReceiveMaximum e.options.receiveMaximum =
        { e.inflightQueue with receiveMaximum := e.options.receiveMaximum } := if_pos hmax
    have hlimit : (e.ledger.reset B.strict).receiveMaximum = e.options.receiveMaximum :=
      if_pos hmax
    simp only [ledger, ledgerWith, resetTransport, closeInput, record, hqueue, hitems]
    rw [← hlimit]
    rfl
  · have hqueue : e.inflightQueue.updateReceiveMaximum e.options.receiveMaximum =
        e.inflightQueue := if_neg hmax
    have hlimit : (e.ledger.reset B.strict).receiveMaximum = e.inflightQueue.receiveMaximum :=
      if_neg hmax
    have hreset : ({ e.ledger.reset B.strict with
        receiveMaximum := e.inflightQueue.receiveMaximum } : Ledger T) =
          e.ledger.reset B.strict := by rw [← hlimit]
    rw [← hreset]
    simp only [ledger, ledgerWith, resetTransport, closeInput, record, hqueue, hitems]
    rfl

/-- Failing exchanges one after the other, each of which is still there when it fails. -/
theorem failInflight_steps : ∀ (entries : List Exchange) (e : MqttEngine T),
    e.options.sessionless = true → e.isConnected = false → e.state.connecting = false →
    (ids entries).Nodup → (∀ entry ∈ entries, entry ∈ e.inflightQueue.snapshotForReconnect) →
    ReflTransGen (Step B.strict P) e.ledger (e.failOperations .sessionExpired entries).ledger
  | [], _, _, _, _, _, _ => .refl
  | (id, packet) :: rest, e, hs, hc, hh, hnodup, hmem => by
    obtain ⟨hfresh, hnodup⟩ := List.nodup_cons.mp hnodup
    obtain ⟨hsent, hrest⟩ := List.forall_mem_cons.mp hmem
    refine .head (.abandonInflight id packet hsent hs rfl ⟨hc, hh⟩) ?_
    rw [ledger, ← ledger_failOperation]
    refine failInflight_steps rest _ hs hc hh hnodup fun entry hentry => ?_
    have hne : entry.1 ≠ id := fun heq => by
      have hmem : entry.1 ∈ ids rest := List.mem_map_of_mem hentry
      exact hfresh (heq ▸ hmem)
    show entry ∈ (e.inflightQueue.acknowledge id).2.snapshotForReconnect
    rw [InflightQueue.acknowledge_snapshot]
    exact List.mem_filter.mpr ⟨hrest entry hentry, decide_eq_true hne⟩

theorem failReplay_steps : ∀ (entries : List Exchange) (e : MqttEngine T),
    ReflTransGen (Step B.strict P) (e.ledgerWith (entries.map (fun entry => (entry, false))))
      (e.failOperations .sessionExpired entries).ledger
  | [], _ => .refl
  | (id, packet) :: rest, e => by
    refine .head (.expire id packet _ rfl) ?_
    have hview : ({ e.ledgerWith (((id, packet), false) :: rest.map (fun entry => (entry, false)))
        with restoring := rest.map (fun entry => (entry, false)) } : Ledger T).finish id
          (.operationFailed packet.operation (some id) .sessionExpired) =
        (e.failOperation id packet .sessionExpired).ledgerWith
          (rest.map (fun entry => (entry, false))) := (ledger_failOperation _ e _ _ _).symm
    rw [List.map_cons, hview]
    exact failReplay_steps rest _

@[simp] theorem options_failOperations (error : MqttClientError) :
    ∀ (entries : List Exchange) (e : MqttEngine T),
      (e.failOperations error entries).options = e.options
  | [], _ => rfl
  | (id, packet) :: rest, e => options_failOperations error rest (e.failOperation id packet error)

@[simp] theorem isConnected_failOperations (error : MqttClientError) :
    ∀ (entries : List Exchange) (e : MqttEngine T),
      (e.failOperations error entries).isConnected = e.isConnected
  | [], _ => rfl
  | (id, packet) :: rest, e => isConnected_failOperations error rest (e.failOperation id packet error)

@[simp] theorem connecting_failOperations (error : MqttClientError) :
    ∀ (entries : List Exchange) (e : MqttEngine T),
      (e.failOperations error entries).state.connecting = e.state.connecting
  | [], _ => rfl
  | (id, packet) :: rest, e => connecting_failOperations error rest (e.failOperation id packet error)

theorem dropSession_steps {e : MqttEngine T} (hs : e.options.sessionless = true)
    (hc : e.isConnected = false) (hh : e.state.connecting = false) :
    ReflTransGen (Step B.strict P) e.ledger e.dropSession.ledger := by
  let e₀ : MqttEngine T := { e with state.hasSession := false }
  let e₁ := e₀.failOperations .sessionExpired e₀.inflightQueue.snapshotForReconnect
  let e₂ : MqttEngine T := { e₁ with sessionReplay := [] }
  have hinflight : ReflTransGen (Step B.strict P) e.ledger e₁.ledger :=
    failInflight_steps _ e₀ hs hc hh (InflightQueue.snapshot_nodup _) (fun _ h => h)
  have habandon : Step B.strict P e₁.ledger
      (e₂.ledgerWith (e₁.sessionReplay.map (fun entry => (entry, false)))) := by
    refine .abandonReplay ?_ rfl ⟨?_, ?_⟩
    · show (e₀.failOperations _ _).options.sessionless = true
      rw [options_failOperations]
      exact hs
    · exact (isConnected_failOperations _ _ e₀).trans hc
    · exact (connecting_failOperations _ _ e₀).trans hh
  exact (hinflight.tail habandon).trans ((failReplay_steps _ e₂).tail .discard)

/-- Neither connected nor about to be. -/
def Closed (e : MqttEngine T) : Prop := e.isConnected = false ∧ e.state.connecting = false

theorem closed_dropSession {e : MqttEngine T} (h : e.Closed) : e.dropSession.Closed := by
  refine ⟨?_, ?_⟩
  · show MqttEngine.isConnected (failOperations _ _ _) = false
    rw [isConnected_failOperations]
    exact (isConnected_failOperations _ _ _).trans h.1
  · show ProtocolState.connecting (MqttEngine.state (failOperations _ _ _)) = false
    rw [connecting_failOperations]
    exact (connecting_failOperations _ _ _).trans h.2

theorem retry_dropSession (e : MqttEngine T) : e.dropSession.nextReconnectAt = e.nextReconnectAt := by
  have hfail : ∀ (error : MqttClientError) (entries : List Exchange) (e : MqttEngine T),
      (e.failOperations error entries).nextReconnectAt = e.nextReconnectAt := by
    intro error entries
    induction entries with
    | nil => exact fun _ => rfl
    | cons entry rest ih => exact fun e => ih (e.failOperation entry.1 entry.2 error)
  exact (hfail _ _ _).trans (hfail _ _ _)

/-- The engine with another reconnect timer. -/
def dueAt (e : MqttEngine T) (due : Option T) : MqttEngine T := { e with nextReconnectAt := due }

/-- A new parser has read nothing. The reconnect timer is left to the caller. -/
theorem renewTransport_steps (e : MqttEngine T) :
    ReflTransGen (Step B.strict P) e.ledger (e.renewTransport.dueAt e.nextReconnectAt).ledger :=
  .tail (.tail (.tail (.tail (.single (.input 0 (.inl (Nat.zero_le _)))) (.level .full (.inl rfl)))
    .renew) .sent) .pong

/-- What follows the reset of the transport. -/
theorem resetSession_steps {e : MqttEngine T} (h : e.Closed) :
    ReflTransGen (Step B.strict P) e.ledger
        ((if e.options.sessionless then e.dropSession else e).renewTransport.dueAt
          e.nextReconnectAt).ledger ∧
      (if e.options.sessionless then e.dropSession else e).renewTransport.Closed := by
  by_cases hs : e.options.sessionless
  · rw [if_pos hs, ← retry_dropSession e]
    exact ⟨(dropSession_steps hs h.1 h.2).trans (renewTransport_steps _), closed_dropSession h⟩
  · rw [if_neg hs]
    exact ⟨renewTransport_steps e, h⟩

/-- The steps that reset the engine begin at a ledger that the engine may have left already. -/
structure Resets (B : Build) (P : Permit) (l : Ledger T) (e : MqttEngine T) : Prop where
  reset : Step B.strict P l (e.ledger.reset B.strict)
  halts : Possible B.strict e.ledger .queuedPacket →
    Step B.strict P l { e.ledger with stopped := some .queuedPacket }

theorem Resets.self (e : MqttEngine T) : Resets B P e.ledger e := ⟨.reset rfl, .halt _⟩

/-- The reset ends with a closed engine, or with the assertion about queued packets. Apart from
the reconnect timer, which it stops, steps lead to what it leaves behind. -/
theorem resetForNewTransportInner_run {l : Ledger T} {e : MqttEngine T} (h : Resets B P l e) :
    (∃ e', (resetForNewTransportInner B : Eff _ ε _) e = .done (.ok ()) e' ∧ e'.Closed ∧
      e'.nextReconnectAt = none ∧
      ReflTransGen (Step B.strict P) l (e'.dueAt e.nextReconnectAt).ledger) ∨
    ∃ e', (resetForNewTransportInner B : Eff _ ε _) e = .panic e' ∧
      ReflTransGen (Step B.strict P) l e'.ledger := by
  unfold resetForNewTransportInner
  rw [Eff.read_bind]
  have hitems : (e.priorityQueue.modify Queued.withoutAlias).items =
      stripped e.priorityQueue.items := PriorityQueue.items_modify _ _
  rw [hitems]
  rcases queueBytes_cases (B := B) (stripped e.priorityQueue.items) with
    hbytes | ⟨⟨error, hbytes⟩, item, hitem, hbad⟩
  · rw [hbytes]
    obtain ⟨hsteps, hclosed⟩ := resetSession_steps (B := B) (P := P)
      (e := e.resetTransport (queueSize B.strict (stripped e.priorityQueue.items))) ⟨rfl, rfl⟩
    refine .inl ⟨_, rfl, hclosed, rfl, .head ?_ hsteps⟩
    rw [ledger_resetTransport]
    exact h.reset
  · rw [hbytes]
    obtain ⟨⟨priority, queued⟩, hqueued, rfl⟩ := List.mem_map.mp hitem
    exact .inr ⟨_, rfl, .single (h.halts ⟨(priority, queued), hqueued, hbad⟩)⟩

/-- A reset that the application asks for stops the reconnect timer. -/
theorem resetForNewTransportInner_sim (cancels : P.cancels) (e : MqttEngine T) :
    Sim B P e.ledger ((resetForNewTransportInner B : Eff _ ε _) e) (fun _ e' => e'.Closed) := by
  rcases resetForNewTransportInner_run (B := B) (P := P) (ε := ε) (.self e) with
    ⟨e', hrun, hclosed, hdue, hsteps⟩ | ⟨e', hrun, hsteps⟩
  · rw [hrun]
    refine .done (hsteps.tail ?_) hclosed
    have hview : e'.ledger = { (e'.dueAt e.nextReconnectAt).ledger with
        retry := (e'.dueAt e.nextReconnectAt).ledger.retry.cancel } := by
      cases e'
      cases hdue
      rfl
    rw [hview]
    exact .cancel cancels
  · rw [hrun]
    exact hsteps

/-! ### The clock -/

/-- Code leaves the clock alone. -/
abbrev Timeless (m : Eff (MqttEngine T) ε α) : Prop := Eff.Keeps MqttEngine.now m

theorem now_failOperations (error : MqttClientError) : ∀ (entries : List (UInt16 × MqttPacket))
    (e : MqttEngine T), (e.failOperations error entries).now = e.now
  | [], _ => rfl
  | _ :: entries, _ => now_failOperations error entries _

theorem now_dropSession (e : MqttEngine T) : e.dropSession.now = e.now :=
  (now_failOperations _ _ _).trans (now_failOperations _ _ _)

theorem timeless_deadlineFrom (start : T) (duration : Nat) :
    Timeless (deadlineFrom start duration : Eff (MqttEngine T) ε T) := by
  unfold deadlineFrom
  split
  · exact .pure _
  · exact .halt fun _ => rfl

theorem timeless_startDeadline (operation : OperationKind) (id : Option UInt16) :
    Timeless (startDeadline operation id : Eff (MqttEngine T) ε Unit) := by
  refine .bind .read fun e => ?_
  cases timeoutOf e.options.operationTimeouts operation with
  | none => exact .pure ()
  | some duration => exact .bind (timeless_deadlineFrom _ _) fun _ => .update fun _ => rfl

theorem timeless_resetForNewTransportInner :
    Timeless (resetForNewTransportInner B : Eff (MqttEngine T) ε Unit) := by
  refine .bind .read fun e => ?_
  cases queueBytes B (e.priorityQueue.modify Queued.withoutAlias).items with
  | error error => exact .halt fun _ => rfl
  | ok bytes =>
    refine .update fun e => ?_
    dsimp only
    split
    · exact now_dropSession _
    · rfl

theorem timeless_scheduleReconnectInner (now : T) :
    Timeless (scheduleReconnectInner now : Eff (MqttEngine T) ε Unit) := by
  refine .bind .read fun e => .ite (.pure ()) (.ite (.update fun _ => rfl) ?_)
  exact .bind (timeless_deadlineFrom _ _) fun _ => .bind (.update fun _ => rfl) fun _ =>
    .update fun _ => rfl

theorem timeless_connectionLostAt (now : T) :
    Timeless (connectionLostAt B now : Eff (MqttEngine T) ε Unit) :=
  .bind .read fun _ => .bind timeless_resetForNewTransportInner fun _ =>
    .bind (.update fun _ => rfl) fun _ => .onlyWhen (timeless_scheduleReconnectInner now)

theorem timeless_failConnection (error : MqttClientError) :
    Timeless (failConnection B error : Eff (MqttEngine T) ε Unit) :=
  .bind (.bind .read fun e => timeless_connectionLostAt e.now) fun _ => .update fun _ => rfl

/-! ## Reconnecting -/

theorem dueAt_self {e : MqttEngine T} {due : Option T} (h : e.nextReconnectAt = due) :
    e.dueAt due = e := by
  subst h
  rfl

/-- The delay of a reconnect is cut off at the largest one. -/
theorem reconnectDelay_le (e : MqttEngine T) : e.reconnectDelay ≤ e.reconnectMaxDelay := by
  unfold reconnectDelay fromMillis
  calc min _ (e.reconnectMaxDelay / 1000000) * 1000000
      ≤ e.reconnectMaxDelay / 1000000 * 1000000 := Nat.mul_le_mul_right _ (Nat.min_le_right _ _)
    _ ≤ e.reconnectMaxDelay := Nat.div_mul_le_self _ _

/-- The next attempt is scheduled, unless one is pending or no more are allowed. -/
theorem scheduleReconnectInner_sim (e : MqttEngine T) :
    Sim B P e.ledger ((scheduleReconnectInner e.now : Eff _ ε _) e) (fun _ e' =>
      e'.isConnected = e.isConnected ∧ e'.state.connecting = e.state.connecting) := by
  unfold scheduleReconnectInner
  refine Reaches.read_bind (.ite (fun _ => .stay ⟨rfl, rfl⟩) fun hidle => ?_)
  have hnone : e.nextReconnectAt = none := Option.not_isSome_iff_eq_none.mp hidle
  refine .ite (fun _ => ?_) fun hmore => ?_
  · show Sim B P e.ledger (.done (.ok ()) (e.dueAt none)) _
    rw [dueAt_self hnone]
    exact .stay ⟨rfl, rfl⟩
  · refine .bind (deadlineFrom_sim List.mem_cons_self e.reconnectDelay_le) ?_ ?_
    · rintro deadline e' rfl
      refine .done (.single (.schedule deadline hnone ?_)) ⟨rfl, rfl⟩
      rcases Nat.eq_zero_or_pos e'.maxReconnectAttempts with hzero | hpos
      · exact .inl hzero
      · exact .inr (Nat.lt_of_not_le fun hle => hmore ⟨hpos, hle⟩)
    · rintro error e' rfl
      exact ⟨rfl, rfl⟩

theorem connectionLostAt_sim {l : Ledger T} {e : MqttEngine T} (h : Resets B P l e) :
    Sim B P l ((connectionLostAt B e.now : Eff _ ε _) e) (fun _ e' => e'.Closed) := by
  unfold connectionLostAt
  rw [Eff.read_bind]
  rcases resetForNewTransportInner_run (ε := ε) h with
    ⟨e₁, hrun, hclosed, -, hsteps⟩ | ⟨e₁, hrun, hsteps⟩
  · rw [Eff.bind_of_ok hrun]
    refine .after hsteps (Reaches.update_bind (.onlyWhen (fun _ => ?_) fun _ => .done .refl hclosed))
    have hnow : e₁.now = e.now := by
      have hkept := timeless_resetForNewTransportInner (B := B) (ε := ε) e
      rwa [hrun] at hkept
    rw [← hnow]
    exact (scheduleReconnectInner_sim (e₁.dueAt e.nextReconnectAt)).weaken
      fun _ _ h => ⟨h.1.trans hclosed.1, h.2.trans hclosed.2⟩
  · rw [Eff.bind_of_panic hrun]
    exact hsteps

theorem handleConnectionLostInner_sim {l : Ledger T} {e : MqttEngine T} (h : Resets B P l e) :
    Sim B P l ((handleConnectionLostInner B : Eff _ ε _) e) (fun _ e' => e'.Closed) :=
  Reaches.read_bind (connectionLostAt_sim h)

theorem failConnection_sim {l : Ledger T} {e : MqttEngine T} (error : MqttClientError)
    (h : Resets B P l e) :
    Sim B P l ((failConnection B error : Eff _ ε _) e) (fun _ e' => e'.Closed) := by
  refine Reaches.bind (handleConnectionLostInner_sim h) (fun _ e₁ hclosed => ?_) fun _ _ h => h
  have herror : Step B.strict P e₁.ledger (e₁.pushEvent (.error error)).ledger :=
    pushEvent_step (MqttEvent.plain_error error)
  exact .done ((ReflTransGen.single herror).tail (pushEvent_step ⟨rfl, rfl, rfl, rfl, rfl⟩)) hclosed

variable {e : MqttEngine T}

/-! ## Responses -/

/-- The connection failed, or it is as before and so is the queue. -/
def Same (e e' : MqttEngine T) : Prop :=
  e'.Closed ∨ e'.isConnected = e.isConnected ∧ e'.priorityQueue = e.priorityQueue

/-- The response in front waits for room in the output buffer. -/
def Waits (B : Build) (e : MqttEngine T) : Prop :=
  ∀ packet rest, e.state.responses = packet :: rest → e.oversized B packet = none ∧
    ∃ error, e.enqueueCheck B packet = .error error ∧ error.isBufferFull = true

theorem flushResponses_waits (h : e.Waits B) :
    (flushResponses B : Eff _ ε _) e = .done (.ok ()) e := by
  unfold flushResponses
  rw [Eff.read_bind]
  cases hresponses : e.state.responses with
  | nil => rfl
  | cons packet rest =>
    obtain ⟨hsmall, error, hcheck, hfull⟩ := h packet rest hresponses
    have hrun : enqueuePacketInner B .response packet.val e = .done (.error error) e := by
      rcases enqueuePacketInner_run (B := B) .response packet.val e with ⟨bytes, hok, -⟩ | ⟨_, herror, hrun⟩
      · cases hok.symm.trans hcheck
      · cases herror.symm.trans hcheck
        exact hrun
    rw [List.length_cons, flushLoop, Eff.read_bind, hresponses]
    dsimp only
    rw [hsmall]
    dsimp only
    rw [Eff.bind_of_ok (Eff.attempt_of_done hrun)]
    dsimp only
    rw [if_pos hfull]
    rfl

/-- The loop ends with the connection, or with no response that could be sent. -/
def Flushes (B : Build) (e e' : MqttEngine T) : Prop :=
  e'.Closed ∨ e'.isConnected = e.isConnected ∧ e'.priorityQueue = e.priorityQueue ∧ e'.Waits B

theorem Flushes.same {e' : MqttEngine T} (h : e.Flushes B e') : e.Same e' :=
  h.imp_right fun h => ⟨h.1, h.2.1⟩

theorem waits_nil (h : e.state.responses = []) : e.Waits B := fun _ _ hresponses => by
  cases h.symm.trans hresponses

theorem flushLoop_sim : ∀ (fuel : Nat) (e : MqttEngine T), e.state.responses.length ≤ fuel →
    Sim B P e.ledger ((flushLoop B fuel : Eff _ ε _) e) (fun _ e' => e.Flushes B e')
  | 0, _, hfuel =>
    .stay (.inr ⟨rfl, rfl, waits_nil (List.eq_nil_of_length_eq_zero (Nat.le_zero.mp hfuel))⟩)
  | fuel + 1, e, hfuel => by
    unfold flushLoop
    refine Reaches.read_bind ?_
    cases hresponses : e.state.responses with
    | nil => exact .stay (.inr ⟨rfl, rfl, waits_nil hresponses⟩)
    | cons packet rest =>
      dsimp only
      cases hsmall : e.oversized B packet with
      | some capacity => exact (failConnection_sim _ (.self e)).weaken fun _ _ h => .inl h
      | none =>
        have hfront : e.ledger.responses = packet.val :: rest.map Subtype.val := by
          show e.state.responses.map Subtype.val = _
          rw [hresponses]
          rfl
        have hsends : e.ledger.Sends P packet .response := by
          show e.ledger.responses.head? = some packet.val
          rw [hfront]
          rfl
        have hrest : rest.length ≤ fuel := by
          rw [hresponses, List.length_cons] at hfuel
          exact Nat.le_of_succ_le_succ hfuel
        dsimp only
        rcases enqueuePacketInner_run (B := B) .response packet.val e with
          ⟨bytes, hcheck, hrun⟩ | ⟨error, hcheck, hrun⟩
        · rw [Eff.bind_of_ok (Eff.attempt_of_done hrun)]
          obtain ⟨hroom, hencodes⟩ := enqueueCheck_room hcheck
          refine Reaches.update_bind
            (.step_first (.append .response packet.val bytes hencodes hroom hsends
              (enqueueCheck_gate hcheck)) ?_)
          refine .step_first (.answered packet.val _ hfront) ?_
          exact flushLoop_sim fuel { e.appendOutgoing .response packet bytes with
            state.responses := rest } hrest
        · rw [Eff.bind_of_ok (Eff.attempt_of_done hrun)]
          refine .ite (fun hfull => .stay (.inr ⟨rfl, rfl, ?_⟩)) fun _ => ?_
          · intro packet' rest' h
            cases hresponses.symm.trans h
            exact ⟨hsmall, error, hcheck, hfull⟩
          · exact (failConnection_sim error (.self e)).weaken fun _ _ h => .inl h

theorem flushResponses_sim (e : MqttEngine T) :
    Sim B P e.ledger ((flushResponses B : Eff _ ε _) e) (fun _ e' => e.Flushes B e') :=
  Reaches.read_bind (flushLoop_sim _ e (Nat.le_refl _))

/-! ## Deadlines of operations -/

theorem timeless_expireDeadline (now : T) (entry : (OperationKind × Option UInt16) × Nat) :
    Timeless (expireDeadline B now entry : Eff (MqttEngine T) ε Unit) := by
  obtain ⟨⟨operation, id⟩, duration⟩ := entry
  exact .bind (.update fun _ => rfl) fun _ => .bind (.update fun _ => rfl) fun _ =>
    .onlyWhen (timeless_connectionLostAt now)

theorem expireDeadline_sim (entry : (OperationKind × Option UInt16) × Nat) (e : MqttEngine T) :
    Sim B P e.ledger ((expireDeadline B e.now entry : Eff _ ε _) e) (fun _ e' => e'.now = e.now) := by
  refine (Reaches.keeps (Q := Any) ?_ (timeless_expireDeadline e.now entry)).weaken fun _ _ h => h.2
  obtain ⟨⟨operation, id⟩, duration⟩ := entry
  refine Reaches.update_bind (Reaches.update_bind ?_)
  refine after_event ⟨rfl, rfl, rfl, rfl, rfl⟩ rfl ?_
  exact .onlyWhen (fun _ => (connectionLostAt_sim (.self _)).any) fun _ => .stay trivial

theorem checkDeadlines_sim (e : MqttEngine T) :
    Sim B P e.ledger ((checkDeadlines B e.now : Eff _ ε _) e) Any := by
  refine Reaches.read_bind (Reaches.forEach (I := fun e' => e'.now = e.now) _ e rfl ?_).any
  intro entry _ e' hnow
  rw [← hnow]
  exact expireDeadline_sim entry e'

/-! ## The replay of a session -/

theorem trackReplayed_run (id : UInt16) (packet : MqttPacket) (e : MqttEngine T) :
    (¬ e.ledger.Admits id packet ∧ ∃ error, error.isOperationTimeout = false ∧
      (trackReplayed id packet : Eff _ ε _) e = .done (.ok ()) (e.failOperation id packet error)) ∨
    (e.ledger.Admits id packet ∧ ∃ inflight,
      ({ e with inflightQueue := inflight } : MqttEngine T).ledger = e.ledger.track id packet ∧
      (trackReplayed id packet : Eff _ ε _) e =
        startDeadline .publish (some id) { e with inflightQueue := inflight }) := by
  unfold trackReplayed InflightQueue.pushAt
  rw [Eff.read_bind]
  rcases pushWithStreamAt_track id packet (replayQos packet) none e with
    ⟨hrefused, error, hpush, hpermanent⟩ | ⟨hadmits, inflight, hpush, hview⟩
  · rw [hpush]
    exact .inl ⟨hrefused, error, hpermanent, rfl⟩
  · rw [hpush]
    exact .inr ⟨hadmits, inflight, hview e rfl rfl, rfl⟩

theorem trackReplayed_sim {id : UInt16} {packet : MqttPacket} {rest : List Exchange} {bytes : Bytes}
    (hfront : e.sessionReplay = (id, packet) :: rest) (hc : e.isConnected = true)
    (hcheck : e.enqueueCheck B packet = .ok bytes)
    (hquota : packet.isPublish → e.inflightQueue.canPushPublish) :
    Sim B P e.ledger ((trackReplayed id packet : Eff _ ε _)
        { e.appendOutgoing .replay packet bytes with sessionReplay := rest })
      (fun _ e' => e'.isConnected = true ∧ e'.priorityQueue = e.priorityQueue) := by
  obtain ⟨hroom, hencodes⟩ := enqueueCheck_room hcheck
  let sent : MqttEngine T := { e.appendOutgoing .replay packet bytes with sessionReplay := rest }
  rcases trackReplayed_run id packet sent with
    ⟨hrefused, error, hpermanent, hrun⟩ | ⟨hadmits, inflight, hview, hrun⟩
  · rw [hrun]
    refine Sim.step (.untracked id packet rest bytes error hfront hc rfl hencodes hroom
      (fun h => of_decide_eq_true (hquota h)) hrefused hpermanent) ?_ (.stay ⟨hc, rfl⟩)
    exact ledger_failOperation [] sent id packet error
  · rw [hrun]
    refine Sim.step (.resend id packet rest bytes hfront hc rfl hencodes hroom hadmits) hview ?_
    refine (startDeadline_sim _ _ _).weaken ?_
    rintro _ e' ⟨deadlines, rfl⟩
    exact ⟨hc, rfl⟩

theorem replayLoop_sim : ∀ (fuel : Nat) (e : MqttEngine T), e.isConnected = true →
    Sim B P e.ledger ((replayLoop B fuel : Eff _ ε _) e)
      (fun _ e' => e'.isConnected = true ∧ e'.priorityQueue = e.priorityQueue)
  | 0, _, hc => .stay ⟨hc, rfl⟩
  | fuel + 1, e, hc => by
    unfold replayLoop
    refine Reaches.read_bind ?_
    cases hreplay : e.sessionReplay with
    | nil => exact .stay ⟨hc, rfl⟩
    | cons entry rest =>
      obtain ⟨id, packet⟩ := entry
      refine .ite (fun _ => .stay ⟨hc, rfl⟩) fun hgo => ?_
      have hquota : packet.isPublish → e.inflightQueue.canPushPublish := fun h =>
        Decidable.not_not.mp fun hfull => hgo ⟨h, hfull⟩
      rcases enqueuePacketInner_run (B := B) .replay packet e with
        ⟨bytes, hcheck, hrun⟩ | ⟨error, hcheck, hrun⟩
      · rw [Eff.bind_of_ok (Eff.attempt_of_done hrun)]
        refine Reaches.update_bind ?_
        refine .bind (trackReplayed_sim hreplay hc hcheck hquota) ?_ fun _ _ h => h
        rintro _ e' ⟨hc', hqueue⟩
        exact (replayLoop_sim fuel e' hc').weaken fun _ _ h => ⟨h.1, h.2.trans hqueue⟩
      · rw [Eff.bind_of_ok (Eff.attempt_of_done hrun)]
        refine .ite (fun _ => .stay ⟨hc, rfl⟩) fun _ => ?_
        refine Reaches.update_bind ?_
        refine Sim.step (.abort id packet rest error hreplay hc rfl
          (enqueueCheck_permanent packet error hcheck)) ?_ (replayLoop_sim fuel _ hc)
        exact ledger_failOperation [] { e with sessionReplay := rest } id packet error

theorem processReplay_sim (e : MqttEngine T) (hc : e.isConnected = true) :
    Sim B P e.ledger ((processReplay B : Eff _ ε _) e)
      (fun _ e' => e'.isConnected = true ∧ e'.priorityQueue = e.priorityQueue) :=
  Reaches.read_bind (.ite (fun _ => .stay ⟨hc, rfl⟩) fun _ => replayLoop_sim _ e hc)

/-! ## The publication queue -/

/-- An encoding that was made ahead belongs to the publication in front. -/
def Ahead (strict : Bool) (first : Option Bytes) (e : MqttEngine T) : Prop :=
  ∀ bytes ∈ first, ∀ priority item rest, e.priorityQueue.items = (priority, item) :: rest →
    item.packet.toBytes strict = .ok bytes

theorem ledger_dequeued {entry : UInt8 × Queued} {rest : List (UInt8 × Queued)}
    (h : e.priorityQueue.items = entry :: rest) (n : Nat) :
    (e.dequeued n).ledger = e.ledger.dequeue rest n := by
  have hitems : e.priorityQueue.rest.items = rest := by rw [PriorityQueue.items_rest, h]; rfl
  simp only [ledger, ledgerWith, dequeued, Ledger.dequeue, hitems]
  rfl

section Drain

variable {priority : UInt8} {item : Queued} {rest : List (UInt8 × Queued)} {bytes : Bytes}
  (hfront : e.priorityQueue.items = (priority, item) :: rest)
  (hbytes : item.packet.toBytes B.strict = .ok bytes) (hdrains : e.ledger.Drains)
include hfront hbytes hdrains

theorem rejectQueued_step {error : MqttClientError} (hpermanent : error.isOperationTimeout = false) :
    Step B.strict P e.ledger ((e.dequeued bytes.length).rejectQueued item.packet error).ledger := by
  rw [← MqttPacket.size_eq hbytes]
  have hview := ledger_dequeued hfront (item.packet.size B.strict)
  cases hid : item.packet.publishId with
  | some id =>
    have hfail : ((e.dequeued (item.packet.size B.strict)).rejectQueued item.packet error).ledger =
        (e.ledger.dequeue rest (item.packet.size B.strict)).finish id
          (.operationFailed item.packet.operation (some id) error) := by
      rw [rejectQueued, hid, ← hview]
      exact ledger_failOperation [] _ id item.packet error
    rw [hfail]
    exact .reject priority item rest id error hfront hdrains hid hpermanent
  | none =>
    have hdrop : ((e.dequeued (item.packet.size B.strict)).rejectQueued item.packet error).ledger =
        (e.ledger.dequeue rest (item.packet.size B.strict)).record (.event (.error error)) := by
      rw [rejectQueued, hid, ← hview]
      rfl
    rw [hdrop]
    exact .drop priority item rest error hfront hid

omit hbytes in
/-- Both assertions of the drain, and what a publication becomes otherwise. -/
theorem trackQueued_cases (hquota : item.packet.qos > 0 → e.inflightQueue.canPushPublish) :
    (∃ site, e.trackQueued item.packet = .error site ∧ Possible B.strict e.ledger site) ∨
    ∃ inflight, e.trackQueued item.packet = .ok inflight ∧
      (item.packet.qos > 0 → item.packet.publishId.isSome) ∧
      (∀ id ∈ item.packet.tracked, e.ledger.Admits id item.packet) ∧
      ∀ n, ({ e.dequeued n with inflightQueue := inflight } : MqttEngine T).ledger =
        item.packet.tracked.elim (e.ledger.dequeue rest n)
          (fun id => (e.ledger.dequeue rest n).track id item.packet) := by
  unfold trackQueued MqttPacket.tracked
  by_cases hqos : item.packet.qos > 0
  · rw [if_pos hqos, if_pos hqos]
    cases hid : item.packet.publishId with
    | none => exact .inl ⟨_, rfl, priority, item, rest, hfront, hqos, hid⟩
    | some id =>
      rcases pushWithStreamAt_track id item.packet item.packet.qos none e with
        ⟨hrefused, error, hpush, -⟩ | ⟨hadmits, inflight, hpush, hview⟩
      · refine .inl ⟨.reservedPacketId, ?_, priority, item, rest, id, hfront, hdrains.connected, ?_,
          fun _ => of_decide_eq_true (hquota hqos), hrefused⟩
        · show Except.mapError _ (InflightQueue.pushWithStreamAt ..) = _
          rw [hpush]
          rfl
        · rw [MqttPacket.tracked, if_pos hqos, hid]
      · refine .inr ⟨inflight, ?_, fun _ => rfl, ?_, fun n => ?_⟩
        · show Except.mapError _ (InflightQueue.pushWithStreamAt ..) = _
          rw [hpush]
          rfl
        · rintro _ ⟨⟩
          exact hadmits
        · rw [hview (e.dequeued n) rfl rfl, ledger_dequeued hfront]
          rfl
  · rw [if_neg hqos, if_neg hqos]
    exact .inr ⟨_, rfl, fun h => absurd h hqos, fun _ h => (by cases h), fun n => ledger_dequeued hfront n⟩

/-- One publication leaves the queue, in a drain that goes on. -/
theorem emitQueued_sim (hquota : item.packet.qos > 0 → e.inflightQueue.canPushPublish)
    (hcount : e.outgoingBuffer.length < e.options.maxOutgoingPacketCount) :
    Sim B P e.ledger ((emitQueued priority item bytes : Eff _ ε _) e)
      (fun _ e' => e'.ledger.Drains) := by
  unfold emitQueued
  refine Reaches.read_bind ?_
  cases hcheck : e.emissionCheck item.packet bytes with
  | error error =>
    refine .done (.single (rejectQueued_step hfront hbytes hdrains
      (emissionCheck_permanent item.packet bytes error hcheck))) ?_
    unfold rejectQueued
    cases item.packet.publishId with
    | some id => exact ⟨hdrains.connected, hdrains.replayed, rfl, hdrains.draining⟩
    | none => exact ⟨hdrains.connected, hdrains.replayed, rfl, hdrains.draining⟩
  | ok _ =>
    dsimp only
    rcases trackQueued_cases (B := B) hfront hdrains hquota with
      ⟨site, htrack, hpossible⟩ | ⟨inflight, htrack, hidentified, hadmits, hview⟩
    · rw [htrack]
      exact Sim.panic hpossible
    · rw [htrack]
      let e₁ : MqttEngine T := { e.dequeued bytes.length with inflightQueue := inflight }
      let e₂ := e₁.appendOutgoing (.queue priority item.ticket) item.packet bytes
      have hdrains₂ : e₂.ledger.Drains :=
        ⟨hdrains.connected, hdrains.replayed, rfl, hdrains.draining⟩
      have hview₂ : e₂.ledger = ((item.packet.tracked.elim
          (e.ledger.dequeue rest (item.packet.size B.strict)) (fun id =>
            (e.ledger.dequeue rest (item.packet.size B.strict)).track id item.packet)).append
              (.queue priority item.ticket) item.packet bytes) := by
        rw [MqttPacket.size_eq hbytes, ← hview]
        rfl
      refine Reaches.update_bind (Sim.step (.send priority item rest bytes hfront hdrains hbytes hcount
        hidentified hadmits) hview₂ (.onlyWhen (fun _ => ?_) fun _ => .stay hdrains₂))
      refine (startDeadline_sim _ _ e₂).weaken ?_
      rintro _ e' ⟨deadlines, rfl⟩
      exact hdrains₂

end Drain

theorem drainLoop_sim : ∀ (fuel : Nat) (first : Option Bytes) (e : MqttEngine T),
    e.ledger.Drains → e.Ahead B.strict first →
    Sim B P e.ledger ((drainLoop B fuel first : Eff _ ε _) e) (fun _ e' => e'.isConnected = true)
  | 0, _, _, hdrains, _ => .stay hdrains.connected
  | fuel + 1, first, e, hdrains, hahead => by
    unfold drainLoop
    refine Reaches.read_bind (.ite (fun hcount => ?_) fun _ => .stay hdrains.connected)
    cases hitems : e.priorityQueue.items with
    | nil =>
      rw [PriorityQueue.peek_eq, hitems]
      exact .stay hdrains.connected
    | cons entry rest =>
      obtain ⟨priority, item⟩ := entry
      rw [PriorityQueue.peek_eq, hitems]
      refine .ite (fun _ => .stay hdrains.connected) fun hgo => ?_
      have hquota : item.packet.qos > 0 → e.inflightQueue.canPushPublish := fun h =>
        Decidable.not_not.mp fun hfull => hgo ⟨h, hfull⟩
      cases hbytes : item.packet.toBytes B.strict with
      | error error =>
        have hbad : ¬ item.packet.Encodable B.strict := by
          rintro ⟨bytes, h⟩
          cases hbytes.symm.trans h
        have hfirst : first = none := by
          cases first with
          | none => rfl
          | some b => cases hbytes.symm.trans (hahead b rfl priority item rest hitems)
        subst hfirst
        unfold sendQueued
        rw [Option.elim_none, hbytes]
        -- nothing is claimed of a queue that holds a packet without an encoding
        refine Reaches.update_bind (.step_first (.broken priority item rest hitems hbad)
          (drainLoop_sim fuel none _ ?_ fun _ h => (by cases h)))
        exact ⟨hdrains.connected, hdrains.replayed, rfl, hdrains.draining⟩
      | ok bytes =>
        have hfirst : first.elim (item.packet.toBytes B.strict) Except.ok = .ok bytes := by
          cases first with
          | none => exact hbytes
          | some b => exact (hahead b rfl priority item rest hitems).symm.trans hbytes
        unfold sendQueued
        rw [hfirst]
        refine .bind (emitQueued_sim hitems hbytes hdrains hquota hcount) ?_
          fun _ _ h => h.connected
        intro _ e' hdrains'
        exact drainLoop_sim fuel none e' hdrains' fun _ h => (by cases h)

theorem processQueueWithEncoding_sim (first : Option Bytes) (hahead : e.Ahead B.strict first) :
    Sim B P e.ledger ((processQueueWithEncoding B first : Eff _ ε _) e)
      (fun _ e' => e.isConnected = true → e.Waits B → e'.isConnected = true) := by
  unfold processQueueWithEncoding
  refine Reaches.read_bind (.ite (fun _ => .stay fun h _ => h) fun _ => ?_)
  have hflush : Sim B P e.ledger ((flushResponses B : Eff _ ε _) e)
      (fun _ e' => e.Same e' ∧ (e.Waits B → e' = e)) := by
    by_cases hwaits : e.Waits B
    · rw [flushResponses_waits hwaits]
      exact .stay ⟨.inr ⟨rfl, rfl⟩, fun _ => rfl⟩
    · exact (flushResponses_sim e).weaken fun _ _ h => ⟨h.same, fun h' => absurd h' hwaits⟩
  refine .bind hflush ?_ fun _ _ h hc hwaits => (by rw [h.2 hwaits, hc])
  rintro _ e₁ ⟨hsame, hstays⟩
  refine Reaches.read_bind (.ite (fun _ => .stay fun hc hwaits => ?_) fun hlive => ?_)
  · rw [hstays hwaits, hc]
  have hc : e₁.isConnected = true := Decidable.not_not.mp hlive
  have hqueue : e₁.priorityQueue = e.priorityQueue := by
    rcases hsame with hclosed | ⟨-, hqueue⟩
    · exact absurd hc (by rw [hclosed.1]; exact Bool.false_ne_true)
    · exact hqueue
  refine .bind (processReplay_sim e₁ hc) ?_ fun _ _ h _ _ => h.1
  rintro _ e₂ ⟨hc₂, hqueue₂⟩
  refine Reaches.read_bind (.ite (fun _ => .stay fun _ _ => hc₂) fun hready => ?_)
  have hreplay : e₂.sessionReplay = [] := by
    by_contra h
    exact hready (.inr (.inr h))
  refine Reaches.update_bind (Sim.step (e := e₂.record .drain) (.drain hc₂ hreplay) rfl ?_)
  have hahead' : (e₂.record .drain).Ahead B.strict first := by
    intro bytes hbytes priority item rest hitems
    refine hahead bytes hbytes priority item rest ?_
    rw [← hqueue, ← hqueue₂]
    exact hitems
  have hdrained := drainLoop_sim (ε := ε) (P := P) e₂.priorityQueue.size first (e₂.record .drain)
    ⟨hc₂, hreplay, rfl, rfl⟩ hahead'
  exact hdrained.weaken fun _ _ h _ _ => h

theorem processQueue_sim (e : MqttEngine T) :
    Sim B P e.ledger ((processQueue B : Eff _ ε _) e)
      (fun _ e' => e.isConnected = true → e.Waits B → e'.isConnected = true) :=
  processQueueWithEncoding_sim none fun _ h => (by cases h)

end MqttEngine

end FlowSdk
