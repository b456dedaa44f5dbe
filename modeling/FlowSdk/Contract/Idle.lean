/-
  FlowSdk.Contract.Idle — every call sends what can be sent.

  When a call returns, the response, the exchange and the publication that could go out next
  wait for room, for a place in flight or for a connection. A call that only adds output leaves
  them waiting; the others process the queue last.

  Main results:
    1. `processQueue_idle`   the queue is processed once; doing it again changes nothing
    2. `perform_ends`        what a timed call leaves behind
    3. `Run.atRest`          the engine is idle before every call
    4. `work_conserving`     what each packet that waits is waiting for
-/
import FlowSdk.Contract.Clock

set_option linter.unusedSectionVars false

namespace FlowSdk

open Machine Wire Ledger
open Relation (ReflTransGen)

variable {T : Type} [TimePoint T] {ε : Type} {B : Build} {P : Permit}

namespace MqttEngine

/-! ## Waiting -/

/-- The exchange in front of the replay waits for its transport, for a place in flight or for
room. -/
def ReplayWaits (B : Build) (e : MqttEngine T) (packet : MqttPacket) : Prop :=
  e.transportManagesSession = true ∨
    (packet.isPublish = true ∧ e.inflightQueue.canPushPublish = false) ∨
    ∃ error, e.enqueueCheck B packet = .error error ∧ error.isBufferFull = true

/-- The publication in front of the queue waits for room or for a place in flight. -/
def QueueWaits (e : MqttEngine T) : Prop :=
  e.options.maxOutgoingPacketCount ≤ e.outgoingBuffer.length ∨
    ∀ priority item, e.priorityQueue.peek = some (priority, item) →
      item.packet.qos > 0 ∧ e.inflightQueue.canPushPublish = false

/-- Nothing can go out. -/
structure Idle (B : Build) (e : MqttEngine T) : Prop where
  waits : e.Waits B
  replay : e.isConnected = true → ∀ id packet rest, e.sessionReplay = (id, packet) :: rest →
    e.ReplayWaits B packet
  queue : e.isConnected = true → e.state.responses = [] → e.sessionReplay = [] → e.QueueWaits

/-- The second state has the same responses to send and no more room for them. -/
structure Fills (B : Build) (e e' : MqttEngine T) : Prop extends Fuller B e e' where
  responses : e'.state.responses = e.state.responses
  connected : e'.isConnected = e.isConnected
  connecting : e'.state.connecting = e.state.connecting

/-- The second state has the same output to send and no more room for it. -/
structure Stays (B : Build) (e e' : MqttEngine T) : Prop extends Fills B e e' where
  replay : e'.sessionReplay = e.sessionReplay
  queue : e'.priorityQueue = e.priorityQueue
  managed : e'.transportManagesSession = e.transportManagesSession
  quota : e'.inflightQueue.canPushPublish = true → e.inflightQueue.canPushPublish = true

variable {e e' e'' : MqttEngine T}

theorem Fills.refl (e : MqttEngine T) : e.Fills B e :=
  ⟨⟨rfl, rfl, rfl, rfl, rfl, le_refl _, le_refl _⟩, rfl, rfl, rfl⟩

theorem Fills.trans (h : e.Fills B e') (h' : e'.Fills B e'') : e.Fills B e'' where
  allowed := h'.allowed.trans h.allowed
  capable := h'.capable.trans h.capable
  sized := h'.sized.trans h.sized
  count := h'.count.trans h.count
  capacity := h'.capacity.trans h.capacity
  packets := le_trans h.packets h'.packets
  bytes := le_trans h.bytes h'.bytes
  responses := h'.responses.trans h.responses
  connected := h'.connected.trans h.connected
  connecting := h'.connecting.trans h.connecting

theorem Stays.refl (e : MqttEngine T) : e.Stays B e := ⟨.refl e, rfl, rfl, rfl, id⟩

theorem Stays.trans (h : e.Stays B e') (h' : e'.Stays B e'') : e.Stays B e'' where
  toFills := h.toFills.trans h'.toFills
  replay := h'.replay.trans h.replay
  queue := h'.queue.trans h.queue
  managed := h'.managed.trans h.managed
  quota hpush := h.quota (h'.quota hpush)

theorem Fills.waits (h : e.Fills B e') (hwaits : e.Waits B) : e'.Waits B := by
  intro packet rest hfront
  obtain ⟨hsmall, error, hcheck, hfull⟩ := hwaits packet rest (h.responses ▸ hfront)
  refine ⟨?_, h.enqueueCheck hcheck hfull⟩
  unfold oversized at hsmall ⊢
  rw [h.capacity]
  exact hsmall

theorem Stays.full (h : e.Stays B e') (hfull : e.inflightQueue.canPushPublish = false) :
    e'.inflightQueue.canPushPublish = false := by
  cases hpush : e'.inflightQueue.canPushPublish with
  | false => rfl
  | true => cases (h.quota hpush).symm.trans hfull

theorem Stays.idle (h : e.Stays B e') (hidle : e.Idle B) : e'.Idle B where
  waits := h.waits hidle.waits
  replay hc id packet rest hfront := by
    rcases hidle.replay (h.connected ▸ hc) id packet rest (h.replay ▸ hfront) with
      hmanaged | ⟨hpublish, hfull⟩ | ⟨error, hcheck, hfull⟩
    · exact .inl (h.managed.trans hmanaged)
    · exact .inr (.inl ⟨hpublish, h.full hfull⟩)
    · exact .inr (.inr (h.enqueueCheck hcheck hfull))
  queue hc hresponses hreplay := by
    rcases hidle.queue (h.connected ▸ hc) (h.responses ▸ hresponses) (h.replay ▸ hreplay) with
      hcount | hpeek
    · refine .inl ?_
      rw [h.count]
      exact le_trans hcount h.packets
    · refine .inr fun priority item hfront => ?_
      obtain ⟨hqos, hfull⟩ := hpeek priority item (h.queue ▸ hfront)
      exact ⟨hqos, h.full hfull⟩

/-- Without a connection only the responses matter. -/
theorem idle_of_waits (hwaits : e.Waits B) (hc : e.isConnected = false) : e.Idle B :=
  ⟨hwaits, fun h => (by cases hc.symm.trans h), fun h => (by cases hc.symm.trans h)⟩

/-! ## Processing the queue twice -/

theorem enqueuePacketInner_full {origin : Origin} {packet : MqttPacket} {error : MqttClientError}
    (h : e.enqueueCheck B packet = .error error) :
    enqueuePacketInner B origin packet e = .done (.error error) e := by
  rcases enqueuePacketInner_run (B := B) origin packet e with ⟨bytes, hok, -⟩ | ⟨_, herror, hrun⟩
  · cases hok.symm.trans h
  · cases herror.symm.trans h
    exact hrun

theorem processReplay_idle (hidle : e.Idle B) (hc : e.isConnected = true) :
    (processReplay B : Eff _ ε _) e = .done (.ok ()) e := by
  unfold processReplay
  rw [Eff.read_bind]
  split
  · rfl
  next hmanaged =>
    cases hreplay : e.sessionReplay with
    | nil => rfl
    | cons entry rest =>
      obtain ⟨id, packet⟩ := entry
      rw [List.length_cons, replayLoop, Eff.read_bind, hreplay]
      dsimp only
      rcases hidle.replay hc id packet rest hreplay with hmanages | ⟨hpublish, hfull⟩ | ⟨error, hcheck, hfull⟩
      · exact absurd hmanages hmanaged
      · rw [if_pos ⟨hpublish, by rw [hfull]; exact Bool.false_ne_true⟩]
        rfl
      · split
        · rfl
        · rw [Eff.bind_of_ok (Eff.attempt_of_done (enqueuePacketInner_full hcheck))]
          dsimp only
          rw [if_pos hfull]
          rfl

theorem drainLoop_idle (hqueue : e.QueueWaits) (fuel : Nat) :
    (drainLoop B fuel none : Eff _ ε _) e = .done (.ok ()) e := by
  cases fuel with
  | zero => rfl
  | succ fuel =>
    rw [drainLoop, Eff.read_bind]
    rcases hqueue with hcount | hpeek
    · rw [if_neg (Nat.not_lt.mpr hcount)]
      rfl
    · split
      · cases hfront : e.priorityQueue.peek with
        | none => rfl
        | some entry =>
          obtain ⟨priority, item⟩ := entry
          obtain ⟨hqos, hfull⟩ := hpeek priority item hfront
          dsimp only
          rw [if_pos ⟨hqos, by rw [hfull]; exact Bool.false_ne_true⟩]
          rfl
      · rfl

/-- In an idle engine the queue is not processed any further. -/
theorem processQueue_idle (hidle : e.Idle B) :
    (processQueue B : Eff _ ε _) e = .done (.ok ()) e ∨
      (processQueue B : Eff _ ε _) e = .done (.ok ()) (e.record .drain) := by
  cases hc : e.isConnected with
  | false => exact .inl (processQueue_closed hc)
  | true =>
    have hlive : ¬ ¬ e.isConnected = true := fun h => h hc
    unfold processQueue processQueueWithEncoding
    rw [Eff.read_bind, if_neg hlive, Eff.bind_of_ok (flushResponses_waits hidle.waits), Eff.read_bind,
      if_neg hlive, Eff.bind_of_ok (processReplay_idle hidle hc), Eff.read_bind]
    split
    · exact .inl rfl
    next hready =>
      have hresponses : e.state.responses = [] := by
        by_contra h
        exact hready (.inr (.inl h))
      have hreplay : e.sessionReplay = [] := by
        by_contra h
        exact hready (.inr (.inr h))
      have hqueue : (e.record .drain).QueueWaits := hidle.queue hc hresponses hreplay
      exact .inr (drainLoop_idle hqueue _)

/-! ## Processing the queue -/

theorem fills_append (e : MqttEngine T) (origin : Origin) (packet : MqttPacket) (bytes : Bytes) :
    e.Fills B (e.appendOutgoing origin packet bytes) := ⟨fuller_append e origin packet bytes, rfl, rfl, rfl⟩

theorem trackReplayed_ends (id : UInt16) (packet : MqttPacket) (e : MqttEngine T) :
    Ends ((trackReplayed id packet : Eff _ ε _) e)
      (fun _ e' => e.Fills B e' ∧ e'.sessionReplay = e.sessionReplay) := by
  refine Reaches.read_bind ?_
  cases e.inflightQueue.pushAt id packet (replayQos packet) e.now with
  | error error =>
    exact .stay ⟨{ Fills.refl e with }, rfl⟩
  | ok inflight =>
    refine Reaches.update_bind ((startDeadline_sim (B := B) (P := .free) _ _ _).ends.weaken ?_)
    rintro _ _ ⟨deadlines, rfl⟩
    exact ⟨{ Fills.refl e with }, rfl⟩

/-- The exchange in front of the replay, if there is one, waits. -/
def ReplaySettles (B : Build) (e : MqttEngine T) : Prop :=
  ∀ id packet rest, e.sessionReplay = (id, packet) :: rest → e.ReplayWaits B packet

theorem replayLoop_ends : ∀ (fuel : Nat) (e : MqttEngine T), e.sessionReplay.length ≤ fuel →
    Ends ((replayLoop B fuel : Eff _ ε _) e) (fun _ e' => e.Fills B e' ∧ e'.ReplaySettles B)
  | 0, e, hfuel => by
    have hnil : e.sessionReplay = [] := List.eq_nil_of_length_eq_zero (Nat.le_zero.mp hfuel)
    exact .stay ⟨.refl e, fun _ _ _ h => by cases hnil.symm.trans h⟩
  | fuel + 1, e, hfuel => by
    unfold replayLoop
    refine Reaches.read_bind ?_
    cases hreplay : e.sessionReplay with
    | nil => exact .stay ⟨.refl e, fun _ _ _ h => by cases hreplay.symm.trans h⟩
    | cons entry rest =>
      obtain ⟨id, packet⟩ := entry
      have hrest : rest.length ≤ fuel := by
        rw [hreplay, List.length_cons] at hfuel
        exact Nat.le_of_succ_le_succ hfuel
      refine .ite (fun hfull => .stay ⟨.refl e, fun _ _ _ h => ?_⟩) fun _ => ?_
      · cases hreplay.symm.trans h
        exact .inr (.inl ⟨hfull.1, Bool.eq_false_iff.mpr hfull.2⟩)
      rcases enqueuePacketInner_run (B := B) .replay packet e with
        ⟨bytes, -, hrun⟩ | ⟨error, hcheck, hrun⟩
      · rw [Eff.bind_of_ok (Eff.attempt_of_done hrun)]
        let e₁ : MqttEngine T := { e.appendOutgoing .replay packet bytes with sessionReplay := rest }
        have hfills : e.Fills B e₁ := { fills_append e .replay packet bytes with }
        refine Reaches.update_bind (.bind_total (trackReplayed_ends (B := B) id packet e₁)
          (total_trackReplayed id packet) ?_)
        rintro _ e₂ ⟨hfills₂, hreplay₂⟩
        refine (replayLoop_ends fuel e₂ (by rw [hreplay₂]; exact hrest)).weaken ?_
        rintro _ e₃ ⟨hfills₃, hsettles⟩
        exact ⟨(hfills.trans hfills₂).trans hfills₃, hsettles⟩
      · rw [Eff.bind_of_ok (Eff.attempt_of_done hrun)]
        refine .ite (fun hfull => .stay ⟨.refl e, fun _ _ _ h => ?_⟩) fun _ => ?_
        · cases hreplay.symm.trans h
          exact .inr (.inr ⟨error, hcheck, hfull⟩)
        · let e₁ : MqttEngine T := { e with sessionReplay := rest }.failOperation id packet error
          have hfills : e.Fills B e₁ := { Fills.refl e with }
          refine Reaches.update_bind ((replayLoop_ends fuel e₁ hrest).weaken ?_)
          rintro _ e₂ ⟨hfills₂, hsettles⟩
          exact ⟨hfills.trans hfills₂, hsettles⟩

theorem processReplay_ends (e : MqttEngine T) :
    Ends ((processReplay B : Eff _ ε _) e) (fun _ e' => e.Fills B e' ∧ e'.ReplaySettles B) := by
  refine Reaches.read_bind (.ite (fun hmanaged => .stay ⟨.refl e, fun _ _ _ _ => .inl hmanaged⟩)
    fun _ => replayLoop_ends _ e (le_refl _))

/-- What a turn of the drain leaves alone. -/
structure Emits (e e' : MqttEngine T) : Prop where
  queue : e'.priorityQueue = e.priorityQueue.rest
  connected : e'.isConnected = e.isConnected
  responses : e'.state.responses = e.state.responses
  replay : e'.sessionReplay = e.sessionReplay

theorem sendQueued_ends (first : Option Bytes) (priority : UInt8) (item : Queued)
    (e : MqttEngine T) :
    Ends ((sendQueued B first priority item : Eff _ ε _) e) (fun _ e' => e.Emits e') := by
  unfold sendQueued
  cases first.elim (item.packet.toBytes B.strict) Except.ok with
  | error error => exact .stay ⟨rfl, rfl, rfl, rfl⟩
  | ok bytes =>
    refine Reaches.read_bind ?_
    cases e.emissionCheck item.packet bytes with
    | error error =>
      refine .stay ?_
      unfold rejectQueued
      split <;> exact ⟨rfl, rfl, rfl, rfl⟩
    | ok _ =>
      dsimp only
      cases e.trackQueued item.packet with
      | error site => exact .refl
      | ok inflight =>
        refine Reaches.update_bind (.onlyWhen (fun _ => ?_) fun _ => .stay ⟨rfl, rfl, rfl, rfl⟩)
        refine (startDeadline_sim (B := B) (P := .free) _ _ _).ends.weaken ?_
        rintro _ _ ⟨deadlines, rfl⟩
        exact ⟨rfl, rfl, rfl, rfl⟩

/-- The drain of a connected engine, with no response and no exchange ahead of the queue. -/
structure Draining (e : MqttEngine T) : Prop where
  connected : e.isConnected = true
  responses : e.state.responses = []
  replay : e.sessionReplay = []

theorem drainLoop_ends : ∀ (fuel : Nat) (first : Option Bytes) (e : MqttEngine T),
    e.priorityQueue.size ≤ fuel → e.Draining →
    Ends ((drainLoop B fuel first : Eff _ ε _) e) (fun _ e' => e'.Draining ∧ e'.QueueWaits)
  | 0, _, e, hfuel, hdrained => by
    refine .stay ⟨hdrained, .inr fun priority item hpeek => ?_⟩
    have hnil : e.priorityQueue.items = [] := by
      refine List.eq_nil_of_length_eq_zero ?_
      rw [PriorityQueue.items_length]
      exact Nat.le_zero.mp hfuel
    rw [PriorityQueue.peek_eq, hnil] at hpeek
    cases hpeek
  | fuel + 1, first, e, hfuel, hdrained => by
    unfold drainLoop
    refine Reaches.read_bind (.ite (fun _ => ?_) fun hcount => .stay ⟨hdrained, .inl (not_lt.mp hcount)⟩)
    cases hpeek : e.priorityQueue.peek with
    | none => exact .stay ⟨hdrained, .inr fun _ _ h => by cases hpeek.symm.trans h⟩
    | some entry =>
      obtain ⟨priority, item⟩ := entry
      refine .ite (fun hfull => .stay ⟨hdrained, .inr fun _ _ h => ?_⟩) fun _ => ?_
      · cases hpeek.symm.trans h
        exact ⟨hfull.1, Bool.eq_false_iff.mpr hfull.2⟩
      refine .bind_total (sendQueued_ends (B := B) first priority item e)
        (total_sendQueued first priority item) ?_
      intro _ e₁ hemits
      have hsize : e₁.priorityQueue.size ≤ fuel := by
        rw [PriorityQueue.peek_eq] at hpeek
        obtain ⟨rest, hitems⟩ := List.head?_eq_some_iff.mp hpeek
        rw [hemits.queue, ← PriorityQueue.items_length, PriorityQueue.items_rest, hitems]
        rw [← PriorityQueue.items_length, hitems] at hfuel
        exact Nat.le_of_succ_le_succ hfuel
      exact drainLoop_ends fuel none e₁ hsize ⟨hemits.connected.trans hdrained.connected,
        hemits.responses.trans hdrained.responses, hemits.replay.trans hdrained.replay⟩

/-- The connection is over, or nothing can go out. -/
def Rests (B : Build) (e : MqttEngine T) : Prop := e.Closed ∨ e.Idle B

/-- The connection is over, or the response in front waits. -/
def Pauses (B : Build) (e : MqttEngine T) : Prop := e.Closed ∨ e.Waits B

theorem Rests.pauses (h : e.Rests B) : e.Pauses B := h.imp_right Idle.waits

theorem Flushes.pauses (h : e.Flushes B e') : e'.Pauses B := h.imp_right fun h => h.2.2

/-- Whatever could go out has gone out when the queue has been processed. -/
theorem processQueueWithEncoding_ends (first : Option Bytes)
    (hpauses : e.isConnected = false → e.Pauses B) :
    Ends ((processQueueWithEncoding B first : Eff _ ε _) e) (fun _ e' => e'.Rests B) := by
  unfold processQueueWithEncoding
  refine Reaches.read_bind (.ite (fun hclosed => .stay ?_) fun _ => ?_)
  · have hc : e.isConnected = false := Bool.eq_false_iff.mpr hclosed
    exact (hpauses hc).imp_right fun hwaits => idle_of_waits hwaits hc
  refine .bind_total (flushResponses_sim (B := B) (P := .free) e).ends total_flushResponses ?_
  intro _ e₁ hflushes
  refine Reaches.read_bind (.ite (fun hclosed => .stay ?_) fun hlive => ?_)
  · exact hflushes.pauses.imp_right fun hwaits =>
      idle_of_waits hwaits (Bool.eq_false_iff.mpr hclosed)
  have hwaits : e₁.Waits B := by
    rcases hflushes with hclosed | h
    · exact absurd hclosed.1 (by rw [Decidable.not_not.mp hlive]; decide)
    · exact h.2.2
  refine .bind_total (processReplay_ends (B := B) e₁) total_processReplay ?_
  rintro _ e₂ ⟨hfills, hsettles⟩
  refine Reaches.read_bind (.ite (fun hstop => .stay (.inr ?_)) fun hready => ?_)
  · refine ⟨hfills.waits hwaits, fun _ => hsettles, fun hc hresponses hreplay => ?_⟩
    rcases hstop with h | h | h
    · exact absurd hc h
    · exact absurd hresponses h
    · exact absurd hreplay h
  · have hdrained : (e₂.record .drain).Draining := by
      refine ⟨?_, ?_, ?_⟩ <;> by_contra h
      · exact hready (.inl h)
      · exact hready (.inr (.inl h))
      · exact hready (.inr (.inr h))
    refine Reaches.update_bind ((drainLoop_ends _ first (e₂.record .drain) (le_refl _) hdrained).weaken ?_)
    rintro _ e₃ ⟨hdrained₃, hqueue⟩
    refine .inr ⟨waits_nil hdrained₃.responses, fun _ _ _ _ h => ?_, fun _ _ _ => hqueue⟩
    cases hdrained₃.replay.symm.trans h

theorem processQueue_ends (hpauses : e.isConnected = false → e.Pauses B) :
    Ends ((processQueue B : Eff _ ε _) e) (fun _ e' => e'.Rests B) :=
  processQueueWithEncoding_ends none hpauses

/-! ## Calls that only add output -/

/-- Code sends nothing of what waits and makes no room for it. -/
abbrev Still (B : Build) (e₀ : MqttEngine T) {α : Type} (m : Eff (MqttEngine T) ε α) : Prop :=
  Eff.Upholds (Stays B e₀) m

section Still

variable {e₀ : MqttEngine T}

theorem still_panicAt {α : Type} (site : PanicSite) :
    Still B e₀ (panicAt site : Eff _ ε α) :=
  .halt fun s h => h.trans { Stays.refl s with }

theorem still_deadlineFrom (start : T) (duration : Nat) :
    Still B e₀ (deadlineFrom start duration : Eff _ ε _) := by
  unfold deadlineFrom
  split
  · exact .pure _
  · exact still_panicAt _

theorem still_startDeadline (operation : OperationKind) (id : Option UInt16) :
    Still B e₀ (startDeadline operation id : Eff _ ε _) := by
  refine .read_bind fun e _ => ?_
  split
  · exact .pure ()
  · exact .bind (still_deadlineFrom _ _) fun _ => .update fun s h => h.trans { Stays.refl s with }

theorem still_scheduleReconnectInner (now : T) :
    Still B e₀ (scheduleReconnectInner now : Eff _ ε _) :=
  .read_bind fun _ _ => .ite (.pure ()) (.ite (.update fun s h => h.trans { Stays.refl s with })
    (.bind (still_deadlineFrom _ _) fun _ => .bind (.update fun s h => h.trans { Stays.refl s with })
      fun _ => .update fun s h => h.trans { Stays.refl s with }))

theorem still_enqueuePacketInner (origin : Origin) (packet : MqttPacket) :
    Still B e₀ (enqueuePacketInner B origin packet : Eff _ _ _) :=
  .bind (.ask _) fun bytes => .update fun s h =>
    h.trans ⟨fills_append s origin packet bytes, rfl, rfl, rfl, id⟩

theorem still_nextPacketId : Still B e₀ (nextPacketId : Eff _ _ _) := by
  refine .read_bind fun e _ => ?_
  cases e.session with
  | none => exact .fail _
  | some session =>
    refine .bind (.update fun s h => h.trans { Stays.refl s with }) fun _ => ?_
    split
    · exact .pure _
    · exact .fail _

theorem still_candidateId (requested : Option UInt16) :
    Still B e₀ (candidateId requested : Eff _ _ _) := by
  refine .read_bind fun e _ => ?_
  cases requested with
  | none => exact still_nextPacketId
  | some id => exact .ite (.fail _) (.pure _)

theorem still_assignId (command : PublishCommand) :
    Still B e₀ (assignId command : Eff _ _ _) :=
  .ite (.bind (still_candidateId _) fun _ => .pure _) (.pure _)

/-- An exchange in flight takes a place, or none. -/
theorem canPushPublish_pushed {q q' : InflightQueue T} {id : UInt16} {packet : MqttPacket}
    {qos : UInt8} {stream : Option Nat} {now : T}
    (h : q.pushWithStreamAt id packet qos stream now = .ok q') (hpush : q'.canPushPublish = true) :
    q.canPushPublish = true := by
  rcases q.pushWithStreamAt_cases id packet qos stream now with
    ⟨-, error, herror, -⟩ | ⟨-, pushed, hok, -, hused, -, -, hlimits⟩
  · cases herror.symm.trans h
  · cases hok.symm.trans h
    have hroom := of_decide_eq_true hpush
    rw [hlimits.receiveMaximum, hused] at hroom
    refine decide_eq_true ?_
    split at hroom <;> omega

theorem still_trackEncoded (id : UInt16) (packet : MqttPacket) (qos : UInt8) (stream : Option Nat) :
    Still B e₀ (trackEncoded id packet qos stream : Eff _ _ _) :=
  .ask_bind fun _ _ he hpush => .update fun _ h =>
    { h with quota := fun hroom => he.quota (canPushPublish_pushed hpush hroom) }

theorem still_trackPublication (pid : Option UInt16) (packet : MqttPacket) (qos : UInt8)
    (stream : Option Nat) (size : Nat) :
    Still B e₀ (trackPublication pid packet qos stream size : Eff _ _ _) := by
  cases pid with
  | some id =>
    exact .bind (still_trackEncoded _ _ _ _) fun _ =>
      .bind (.update fun s h => h.trans { Stays.refl s with }) fun _ => still_startDeadline _ _
  | none => exact .ite (still_panicAt _) (.pure ())

theorem still_publishEncodedInner (command : PublishCommand) (stream : Option Nat) :
    Still B e₀ (publishEncodedInner B command stream : Eff _ _ _) := by
  refine .bind (.ask _) fun _ => .bind (.onlyWhen (.ask _)) fun _ => .bind (.ask _) fun validated =>
    .bind (still_assignId _) fun _ => .read_bind fun _ _ => .bind (.lift _) fun _ =>
      .bind (still_trackPublication _ _ _ _ _) fun _ => .bind (.update fun s h => ?_) fun _ => .pure _
  cases hregistration : validated.2 with
  | none => exact h.trans { Stays.refl s with }
  | some pair => exact h.trans { Stays.refl s with }

theorem still_operate (kind : OperationKind) (pid : UInt16) (packet : MqttPacket) :
    Still B e₀ (operate B kind pid packet : Eff _ _ _) :=
  .bind (still_enqueuePacketInner _ _) fun _ => .bind (still_trackEncoded _ _ _ _) fun _ =>
    .bind (.update fun s h => h.trans { Stays.refl s with }) fun _ =>
      .bind (still_startDeadline _ _) fun _ => .pure _

theorem still_subscribeInner (command : SubscribeCommand) :
    Still B e₀ (subscribeInner B command : Eff _ _ _) :=
  .bind (.ask _) fun _ => .bind (.ask _) fun _ => .bind (.ask _) fun _ =>
    .bind (still_candidateId _) fun _ => .read_bind fun _ _ => still_operate _ _ _

theorem still_unsubscribeInner (command : UnsubscribeCommand) :
    Still B e₀ (unsubscribeInner B command : Eff _ _ _) :=
  .bind (.ask _) fun _ => .bind (.ask _) fun _ => .bind (still_candidateId _) fun _ =>
    .read_bind fun _ _ => still_operate _ _ _

theorem still_operateEncoded (kind : OperationKind) (pid : UInt16) (packet : MqttPacket)
    (stream : Option Nat) :
    Still B e₀ (operateEncoded B kind pid packet stream : Eff _ _ _) :=
  .bind (.ask _) fun _ => .bind (still_trackEncoded _ _ _ _) fun _ =>
    .bind (.update fun s h => h.trans { Stays.refl s with }) fun _ =>
      .bind (still_startDeadline _ _) fun _ =>
        .bind (.update fun s h => h.trans { Stays.refl s with }) fun _ => .pure _

theorem still_subscribeEncodedInner (command : SubscribeCommand) (stream : Option Nat) :
    Still B e₀ (subscribeEncodedInner B command stream : Eff _ _ _) :=
  .bind (.ask _) fun _ => .bind (.ask _) fun _ => .bind (.ask _) fun _ =>
    .bind (still_candidateId _) fun _ => .read_bind fun _ _ => still_operateEncoded _ _ _ _

theorem still_unsubscribeEncodedInner (command : UnsubscribeCommand) (stream : Option Nat) :
    Still B e₀ (unsubscribeEncodedInner B command stream : Eff _ _ _) :=
  .bind (.ask _) fun _ => .bind (.ask _) fun _ => .bind (still_candidateId _) fun _ =>
    .read_bind fun _ _ => still_operateEncoded _ _ _ _

theorem still_manualAck (id : UInt16) (kind reason : UInt8) (properties : Properties) :
    Still B e₀ (manualAck B id kind reason properties : Eff _ _ _) := by
  refine .bind (.bind (.ask _) fun _ => .read_bind fun e _ => ?_) fun _ =>
    .bind (still_enqueuePacketInner _ _) fun _ => .update fun s h => ?_
  · split
    · exact .pure _
    · exact still_panicAt _
  · unfold recordPubrec commitReceiveAck
    dsimp only
    split <;> split <;> exact h.trans { Stays.refl s with }

theorem still_tryAuthInner (reasonCode : UInt8) (properties : Properties) :
    Still B e₀ (tryAuthInner B reasonCode properties : Eff _ _ _) := by
  refine .bind (.ask _) fun _ => .bind (still_enqueuePacketInner _ _) fun _ => .update fun s h => ?_
  split
  · exact h.trans { Stays.refl s with }
  · exact h

theorem still_sendPingInnerAt (now : T) :
    Still B e₀ (sendPingInnerAt B now : Eff _ _ _) :=
  .read_bind fun _ _ => .bind (still_enqueuePacketInner _ _) fun _ =>
    .update fun s h => h.trans { Stays.refl s with }

theorem still_retransmit (now : T) (entry : MqttPacket × Option Nat) :
    Still B e₀ (retransmit B now entry : Eff _ ε _) := by
  unfold retransmit
  dsimp only
  split
  · exact .pure ()
  · exact .update fun s h => h.trans { Stays.refl s with }
  · refine .bind (.bind (.attempt (still_enqueuePacketInner _ _)) fun result => ?_) fun _ =>
      .update fun s h => h.trans { Stays.refl s with }
    split
    · exact .pure ()
    · refine .update fun s h => ?_
      split
      · exact h
      · exact h.trans { Stays.refl s with }

theorem still_handleRetransmissions (now : T) :
    Still B e₀ (handleRetransmissions B now : Eff _ ε _) := by
  refine .read_bind fun e he => ?_
  rcases e.inflightQueue.getExpiredWithStreamAt_cases now with
    ⟨-, error, herror⟩ | ⟨-, expired, inflight, hok, hsame, -, -⟩
  · rw [herror]
    exact still_panicAt _
  · rw [hok]
    refine .bind (.update fun s h => { h with quota := fun hroom => he.quota ?_ }) fun _ =>
      .forEach (still_retransmit now) _
    unfold InflightQueue.canPushPublish at hroom ⊢
    rw [← hsame.publishQuotaUsed, ← hsame.limits.receiveMaximum]
    exact hroom

end Still

/-! ## Incoming packets -/

theorem connectionFailed_ends (error : MqttClientError) (e : MqttEngine T) :
    Ends ((connectionFailed B error : Eff _ ε _) e) (fun _ e' => e'.Closed) :=
  .bind (failConnection_sim (P := .free) error (.self e)).ends (fun _ _ hclosed => .stay hclosed)
    fun _ _ h => h

/-- A packet that is refused ends the connection or changes nothing. -/
theorem acceptIncoming_refuses (packetType : ControlPacketType) (e : MqttEngine T) :
    Ends ((acceptIncoming B packetType : Eff _ ε _) e) (fun r e' =>
      (e'.Closed ∨ e' = e) ∧ (r = .ok true → e' = e ∧ e.acceptable packetType = true)) := by
  unfold acceptIncoming
  refine Reaches.read_bind (.ite (fun _ => .stay ⟨.inr rfl, nofun⟩) fun _ => ?_)
  refine .ite (fun haccept => .stay ⟨.inr rfl, fun _ => ⟨rfl, haccept⟩⟩) fun _ => ?_
  exact .bind (failConnection_sim (P := .free) _ (.self e)).ends
    (fun _ _ hclosed => .stay ⟨.inl hclosed, nofun⟩) fun _ _ hclosed => ⟨.inl hclosed, nofun⟩

theorem authReceived_ends (reasonCode : UInt8) (properties : Properties) (e : MqttEngine T) :
    Ends ((authReceived B reasonCode properties : Eff _ ε _) e)
      (fun _ e' => e'.Closed ∨ e.Fills B e') := by
  unfold authReceived
  refine Reaches.read_bind (.ite (fun _ => ?_) fun _ => ?_)
  · exact .bind (failConnection_sim (P := .free) _ (.self e)).ends (fun _ _ h => .stay (.inl h))
      fun _ _ h => .inl h
  · refine Reaches.update_bind (.stay (.inr ?_))
    split
    · exact { Fills.refl e with }
    · exact .refl e

/-- A packet of which only the headers were read leaves the responses alone. -/
theorem handleReducedPacket_ends (packet : ParsedPacket) (stream : Option Nat) (e : MqttEngine T) :
    Ends ((handleReducedPacket B packet stream : Eff _ ε _) e)
      (fun _ e' => e'.Closed ∨ e.Fills B e') := by
  have hlost (event : MqttEvent) : Ends ((serverDisconnected B event : Eff _ ε _) e)
      (fun _ e' => e'.Closed ∨ e.Fills B e') :=
    .bind (handleConnectionLostInner_sim (P := .free) (.self e)).ends (fun _ _ h => .stay (.inl h))
      fun _ _ h => .inl h
  have hping : Ends ((pingAnswered : Eff _ ε _) e) (fun _ e' => e'.Closed ∨ e.Fills B e') :=
    .stay (.inr { Fills.refl e with })
  have hstay {r : Except ε (Option MqttEvent × Option Response)} :
      Ends (.done r e) (fun _ e' => e'.Closed ∨ e.Fills B e') := .stay (.inr (.refl e))
  have hkept (e₁ : MqttEngine T) (hsame : e₁.Closed ∨ e₁ = e) : e₁.Closed ∨ e.Fills B e₁ := by
    rcases hsame with hclosed | rfl
    · exact .inl hclosed
    · exact .inr (.refl e₁)
  refine .bind (acceptIncoming_refuses (B := B) packet.packetType e) ?_ ?_
  · rintro accepted e₁ ⟨hsame, haccept⟩
    refine .ite (fun htrue => ?_) fun _ => .stay (hkept e₁ hsame)
    obtain ⟨rfl, -⟩ := haccept (congrArg Except.ok htrue)
    cases packet with
    | typeOnly packet =>
      unfold reducedBody reducedType
      dsimp only
      cases packet.packetType with
      | publish => exact .ite (fun _ => hstay) fun _ => hstay
      | pingresp => exact hping
      | disconnect => exact hlost _
      | _ => exact hstay
    | headersParsed packet =>
      refine Reaches.read_bind ?_
      cases packet.variableHeader with
      | packetIdOnlyV3 messageId => exact .ite (fun _ => hstay) fun _ => hstay
      | empty => exact .ite (fun _ => hping) fun _ => .ite (fun _ => hlost _) fun _ => hstay
      | authV5 reasonCode properties =>
        exact .bind (authReceived_ends reasonCode properties e₁) (fun _ _ h => .stay h) fun _ _ h => h
      | disconnectV5 reasonCode properties => exact hlost _
      | _ => exact hstay
    | rawBody packet => exact hstay
    | full packet => exact .refl
  · rintro _ e₁ ⟨hsame, -⟩
    exact hkept e₁ hsame

theorem respond_ends (responses : List Response) (e : MqttEngine T) :
    Ends ((respond B responses : Eff _ ε _) e) (fun _ e' => e'.Pauses B) :=
  Reaches.update_bind ((flushResponses_sim (P := .free) _).ends.weaken fun _ _ h => h.pauses)

theorem pushEvents_ends (events : List MqttEvent) (e : MqttEngine T) :
    Ends ((Eff.forEach (fun event => Eff.update (fun e => e.pushEvent event)) events : Eff _ ε _) e)
      (fun _ e' => e'.state = e.state ∧ e'.isConnected = e.isConnected) :=
  Reaches.forEach (m := fun event => Eff.update (fun e => e.pushEvent event))
    (I := fun e' => e'.state = e.state ∧ e'.isConnected = e.isConnected) events e
    ⟨rfl, rfl⟩ fun _ _ _ h => ⟨.refl, h⟩

theorem handleParsed_ends (packet : ParsedPacket) (hresponses : e.state.responses = []) :
    Ends ((handleParsed B packet : Eff _ ε _) e) (fun _ e' => e'.Pauses B) := by
  unfold handleParsed
  refine Reaches.update_bind ?_
  have hreduced (packet : ParsedPacket) : Ends
      ((do
        let r ← handleReducedPacket B packet none
        Eff.forEach (fun event => Eff.update (fun e => e.pushEvent event)) r.1.toList
        Eff.onlyWhen (r.2.isSome = true) (respond B r.2.toList) : Eff _ ε Unit)
        ({ e with lastPacketReceived := e.now } : MqttEngine T)) (fun _ e' => e'.Pauses B) := by
    refine .bind_total (handleReducedPacket_ends (B := B) packet none _)
      (total_handleReducedPacket _ _) ?_
    rintro ⟨event, response⟩ e₁ hkept
    refine .bind_total (pushEvents_ends event.toList e₁) (.forEach (fun _ => .update _) _) ?_
    rintro _ e₂ ⟨hstate, hc⟩
    refine .onlyWhen (fun _ => respond_ends _ e₂) fun _ => .stay ?_
    rcases hkept with hclosed | hfills
    · exact .inl ⟨hc.trans hclosed.1, (congrArg ProtocolState.connecting hstate).trans hclosed.2⟩
    · refine .inr (waits_nil ?_)
      rw [hstate]
      exact hfills.responses.trans hresponses
  cases packet with
  | full packet =>
    refine .bind_total (Reaches.ends_any _) (total_handlePacket _ _) fun result e₁ _ => ?_
    exact Reaches.update_bind (respond_ends _ _)
  | headersParsed packet => exact hreduced _
  | rawBody packet => exact hreduced _
  | typeOnly packet => exact hreduced _

theorem parseNext_ends (hresponses : e.state.responses = []) :
    Ends ((parseNext B : Eff _ ε _) e) (fun _ e' => e'.Pauses B) := by
  unfold parseNext
  refine Reaches.read_bind ?_
  obtain ⟨result, parser⟩ := e.parser.nextParsed B.strict
  refine Reaches.update_bind ?_
  cases result with
  | ok found =>
    cases found with
    | none => exact .stay (.inr (waits_nil hresponses))
    | some packet =>
      exact .bind (handleParsed_ends (e := { e with parser := parser }) packet hresponses)
        (fun _ _ h => .stay h) fun _ _ h => h
  | error failure =>
    cases failure with
    | err error =>
      exact .bind (failConnection_sim (P := .free) _ (.self _)).ends (fun _ _ h => .stay (.inl h))
        fun _ _ h => .inl h
    | panic p => exact .refl

theorem incomingLoop_ends : ∀ (fuel : Nat) (e : MqttEngine T), e.Pauses B →
    Ends ((incomingLoop B fuel : Eff _ ε _) e) (fun _ e' => e'.Pauses B)
  | 0, _, hpauses => .stay hpauses
  | fuel + 1, e, hpauses => by
    unfold incomingLoop
    refine Reaches.read_bind (.ite (fun _ => .stay hpauses) fun hready => ?_)
    have hresponses : e.state.responses = [] := by
      by_contra h
      exact hready (.inl h)
    refine .attempt_bind (validateInputBuffer_sim (P := .free) _ e).ends ?_
    rintro (error | ⟨⟩) e₁ rfl
    · exact (failConnection_sim (P := .free) error (.self e₁)).ends.weaken fun _ _ h => .inl h
    · refine .ite (fun _ => .stay hpauses) fun _ => ?_
      refine .bind (parseNext_ends (B := B) hresponses) (fun more e₂ hpauses₂ => ?_) fun _ _ h => h
      exact .ite (fun _ => incomingLoop_ends fuel e₂ hpauses₂) fun _ => .stay hpauses₂

theorem acceptData_ends (data : Bytes) (e : MqttEngine T) :
    Ends ((acceptData B data : Eff _ ε _) e) (fun _ e' => e'.Rests B) := by
  unfold acceptData
  refine Reaches.read_bind ?_
  cases e.overflows data with
  | error error =>
    exact (failConnection_sim (P := .free) error (.self e)).ends.weaken fun _ _ h => .inl h
  | ok _ =>
    refine Reaches.update_bind (.bind_total (flushResponses_sim (P := .free) _).ends
      total_flushResponses ?_)
    intro _ e₁ hflushes
    refine Reaches.read_bind (.bind_total (incomingLoop_ends _ e₁ hflushes.pauses)
      (total_incomingLoop _) ?_)
    exact fun _ e₂ hpauses => processQueue_ends fun _ => hpauses

theorem Rests.taken (h : e.Rests B) : Rests B { e with events := [] } := by
  rcases h with hclosed | hidle
  · exact .inl hclosed
  · have hstays : e.Stays B { e with events := [] } := { Stays.refl e with }
    exact .inr (hstays.idle hidle)

theorem handleIncomingInner_ends (data : Bytes)
    (hclosed : e.state.inputClosed = true → e.Rests B) :
    Ends ((handleIncomingInner B data : Eff _ ε _) e) (fun _ e' => e'.Rests B) := by
  refine Reaches.read_bind (.ite (fun h => .stay (hclosed h).taken) fun _ => ?_)
  exact .bind (acceptData_ends data e) (fun _ e₁ h => .stay h.taken) fun _ _ h => h

/-! ## The timer and the output -/

theorem Stays.rests (h : e.Stays B e') (hrests : e.Rests B) : e'.Rests B := by
  rcases hrests with hclosed | hidle
  · exact .inl ⟨h.connected.trans hclosed.1, h.connecting.trans hclosed.2⟩
  · exact .inr (h.idle hidle)

theorem Still.ends {α : Type} {m : Eff (MqttEngine T) ε α} (hstill : Still B e m)
    (hrests : e.Rests B) : Ends (m e) (fun _ e' => e'.Rests B) :=
  (Eff.Upholds.ends hstill (.refl e)).weaken fun _ _ h => h.rests hrests

theorem Still.idles {α : Type} {m : Eff (MqttEngine T) ε α} (hstill : Still B e m)
    (hidle : e.Idle B) : Ends (m e) (fun _ e' => e'.Idle B) :=
  (Eff.Upholds.ends hstill (.refl e)).weaken fun _ _ h => h.idle hidle

theorem connectedTick_ends (now : T) (hwaits : e.Waits B) :
    Ends ((connectedTick B now : Eff _ ε _) e) (fun _ e' => e'.Rests B) := by
  refine Reaches.read_bind ?_
  have hping : Ends (Eff.onlyWhen (e.pingDue now) (sendPingInnerAt B now) e)
      (fun _ e' => e'.Waits B) := by
    have hstill : Still B e (Eff.onlyWhen (e.pingDue now) (sendPingInnerAt B now)) :=
      .onlyWhen (still_sendPingInnerAt now)
    exact (Eff.Upholds.ends hstill (.refl e)).weaken fun _ _ h => h.waits hwaits
  refine .attempt_bind hping fun _ e₁ hwaits₁ => ?_
  refine .bind (processQueue_ends fun _ => .inr hwaits₁) (fun _ e₂ hrests => ?_) fun _ _ h => h
  exact Still.ends (still_handleRetransmissions now) hrests

theorem connectionLostAt_ends (now : T) (e : MqttEngine T) :
    Ends ((connectionLostAt B now : Eff _ ε _) e) (fun _ e' => e'.Closed) := by
  refine Reaches.read_bind (.bind_total (resetForNewTransportInner_sim (P := .free) trivial e).ends
    total_resetForNewTransport fun _ e₁ hclosed => Reaches.update_bind ?_)
  refine .onlyWhen (fun _ => ?_) fun _ => .stay hclosed
  exact (Eff.Upholds.ends (still_scheduleReconnectInner (B := B) now) (.refl _)).weaken
    fun _ _ h => ⟨h.connected.trans hclosed.1, h.connecting.trans hclosed.2⟩

theorem handleTickInner_ends (now : T) (e : MqttEngine T) :
    Ends ((handleTickInner B now : Eff _ ε _) e) (fun _ e' => e'.Rests B) := by
  unfold handleTickInner
  refine .bind_total (Reaches.ends_any _) (total_checkDeadlines now) fun _ e₁ _ => ?_
  refine .bind_total (flushResponses_sim (P := .free) e₁).ends total_flushResponses
    fun _ e₂ hflushes => ?_
  refine Reaches.read_bind (.ite (fun hdown => ?_) fun hlive => .ite (fun _ => ?_) fun _ => ?_)
  · have hc : e₂.isConnected = false := Bool.eq_false_iff.mpr hdown
    have hrests : e₂.Rests B := hflushes.pauses.imp_right fun hwaits => idle_of_waits hwaits hc
    have hstays : e₂.Stays B { e₂.reconnectTimer now with events := [] } := by
      unfold reconnectTimer
      split <;> exact { Stays.refl e₂ with }
    exact .stay (hstays.rests hrests)
  · exact .bind (connectionLostAt_ends now e₂)
      (fun _ e₃ hclosed => .stay (.inl hclosed)) fun _ _ h => .inl h
  · have hwaits : e₂.Waits B := by
      rcases hflushes.pauses with hclosed | hwaits
      · exact absurd hclosed.1 (by rw [Decidable.not_not.mp hlive]; decide)
      · exact hwaits
    exact .bind (connectedTick_ends now hwaits) (fun _ e₃ h => .stay h.taken) fun _ _ h => h

theorem resumeIncoming_ends (hpauses : e.Pauses B) :
    Ends ((resumeIncoming B : Eff _ ε _) e) (fun _ e' => e'.Pauses B) := by
  refine Reaches.read_bind (.ite (fun _ => .stay hpauses) fun hopen => ?_)
  exact .bind (handleIncomingInner_ends [] fun h => absurd h hopen)
    (fun _ e₁ hrests => .stay hrests.pauses) fun _ _ h => h.pauses

theorem outputLoop_ends : ∀ (fuel : Nat) (bytes : Bytes) (e : MqttEngine T),
    (fuel = 0 → e.Rests B) → Ends ((outputLoop B fuel bytes : Eff _ ε _) e) (fun _ e' => e'.Rests B)
  | 0, _, _, hrests => .stay (hrests rfl)
  | fuel + 1, bytes, e, _ => by
    unfold outputLoop
    refine Reaches.read_bind (Reaches.update_bind ?_)
    refine .bind_total (flushResponses_sim (P := .free) _).ends total_flushResponses
      fun _ e₁ hflushes => ?_
    refine .bind_total (resumeIncoming_ends hflushes.pauses) total_resumeIncoming
      fun _ e₂ hpauses => ?_
    refine .bind (processQueue_ends fun _ => hpauses) (fun _ e₃ hrests => ?_) fun _ _ h => h
    refine Reaches.read_bind (.ite (fun _ => .stay hrests) fun _ => ?_)
    exact outputLoop_ends fuel _ e₃ fun _ => hrests

theorem takeOutgoingInner_ends (e : MqttEngine T) :
    Ends ((takeOutgoingInner B : Eff _ ε _) e) (fun _ e' => e'.Rests B) :=
  Reaches.read_bind (outputLoop_ends _ _ e fun h => nomatch h)

/-! ## Packets of other streams -/

theorem unconnecting_finish {l : Ledger T} {id : UInt16} {ev : MqttEvent} (h : l.connecting = false) :
    (l.finish id ev).connecting = false := h

/-- Only a CONNECT begins a handshake. -/
theorem unconnecting_step {strict : Bool} {l l' : Ledger T} (h : Step strict P l l')
    (stored : Stored strict P l) (hopens : ¬ P.opens) (ih : l.connecting = false) :
    l'.connecting = false := by
  cases h with
  | evict room full => exact (stored.not_full room full).elim
  | broken _ _ _ front unencodable => exact (stored.not_broken front unencodable).elim
  | stall => rfl
  | accept id => cases id <;> exact ih
  | requeue id => cases id <;> exact ih
  | send priority item => cases item.packet.tracked <;> exact ih
  | untracked id packet rest bytes =>
    exact unconnecting_finish (l := { l with replay := rest }.append .replay packet bytes) ih
  | complete stream ack => exact unconnecting_finish (l := l.record (.completed ack)) ih
  | connect packet bytes opens => exact absurd opens hopens
  | connack => rfl
  | refuse => rfl
  | reset settled => rfl
  | close settled => rfl
  | disconnect => rfl
  | migrate => rfl
  | _ => exact ih

/-- The handshake ends with its CONNACK. -/
theorem handleConnack_ends (v5 : Bool) (reasonCode : UInt8) (sessionPresent : Bool)
    (properties : Option Properties) (e : MqttEngine T) :
    Ends ((handleConnack B v5 reasonCode sessionPresent properties : Eff _ ε _) e)
      (fun _ e' => e'.isConnected = true ∨ e'.Closed) := by
  unfold handleConnack
  refine Reaches.read_bind ?_
  cases e.connackCheck B v5 reasonCode sessionPresent (properties.getD []) with
  | error error => exact (connectionFailed_ends error e).weaken fun _ _ h => .inr h
  | ok _ =>
    refine Reaches.update_bind (.attempt_bind (Reaches.ends_any _) ?_)
    rintro (error | ⟨⟩) e₁ _
    · exact (connectionFailed_ends error e₁).weaken fun _ _ h => .inr h
    refine Reaches.update_bind ?_
    rw [Eff.bind_of_ok (noted_run _ _)]
    refine Reaches.update_bind (.ite (fun hzero => ?_) fun _ => ?_)
    · let e₂ := ((e₁.establish reasonCode).recordEvents
        [.connected ⟨reasonCode, sessionPresent, properties⟩]).limitInflight (properties.getD [])
      have hc : e₂.isConnected = true := by
        show (limitInflight _ _).isConnected = true
        unfold limitInflight establish
        rw [hzero]
        split <;> rfl
      exact .bind (restoreSession_sim (P := .free) sessionPresent hc).ends
        (fun _ _ h => .stay (.inl h)) fun _ _ h => .inl h
    · exact .bind (handleConnectionLostInner_sim (P := .free) (.self _)).ends
        (fun _ _ h => .stay (.inr h)) fun _ _ h => .inr h

theorem fills_recordEvents : ∀ (events : List MqttEvent) (e : MqttEngine T),
    e.Fills B (e.recordEvents events)
  | [], e => .refl e
  | ev :: events, e =>
    have hrecord : e.Fills B (e.record (.event ev)) := { Fills.refl e with }
    hrecord.trans (fills_recordEvents events _)

/-- While the engine connects, no packet is answered. -/
theorem handlePacket_connecting (hdown : e.isConnected = false) (hwaits : e.Waits B)
    (packet : MqttPacket) (stream : Option Nat) :
    Ends ((handlePacket B packet stream : Eff _ ε _) e)
      (fun _ e' => e'.isConnected = true ∨ e'.Pauses B) := by
  have hstay {e' : MqttEngine T} (h : e.Fills B e') : e'.isConnected = true ∨ e'.Pauses B :=
    .inr (.inr (h.waits hwaits))
  have hsame {e' : MqttEngine T} (h : e'.Closed ∨ e' = e) : e'.isConnected = true ∨ e'.Pauses B := by
    rcases h with hclosed | rfl
    · exact .inr (.inl hclosed)
    · exact hstay (.refl e')
  have hfailed (error : MqttClientError) : Ends ((connectionFailed B error : Eff _ ε _) e)
      (fun _ e' => e'.isConnected = true ∨ e'.Pauses B) :=
    (connectionFailed_ends error e).weaken fun _ _ h => .inr (.inl h)
  have hnone {r : Except ε (List MqttEvent × List Response)} : Ends (.done r e)
      (fun _ e' => e'.isConnected = true ∨ e'.Pauses B) := .stay (hstay (.refl e))
  unfold handlePacket
  refine .bind (acceptIncoming_refuses (B := B) packet.packetType e) ?_ fun _ _ h => hsame h.1
  rintro accepted e₁ ⟨hkept, haccept⟩
  have hpauses := hsame hkept
  refine .ite (fun htrue => ?_) fun _ => .stay hpauses
  obtain ⟨rfl, hacceptable⟩ := haccept (congrArg Except.ok htrue)
  refine Reaches.read_bind ?_
  cases e₁.validateAck packet stream with
  | error error =>
    refine Reaches.read_bind (.ite (fun _ => hfailed error) fun _ => ?_)
    rw [Eff.bind_of_ok (noted_run _ _)]
    exact .stay (hstay (fills_recordEvents _ e₁))
  | ok _ =>
    have hlive {packetType : ControlPacketType} (h : packet.packetType = packetType)
        (hother : e₁.acceptable packetType = e₁.isConnected) : False := by
      rw [h, hother, hdown] at hacceptable
      cases hacceptable
    cases packet with
    | connAck5 ack =>
      exact (handleConnack_ends _ _ _ _ e₁).weaken fun _ _ h => h.imp_right .inl
    | connAck3 ack =>
      exact (handleConnack_ends _ _ _ _ e₁).weaken fun _ _ h => h.imp_right .inl
    | auth auth =>
      refine .bind (authReceived_ends (B := B) auth.reasonCode auth.properties e₁) ?_ ?_
      · rintro event e₂ h
        rw [Eff.bind_of_ok (noted_run _ _)]
        have hrecorded := fills_recordEvents (B := B) event.toList e₂
        rcases h with hclosed | hfills
        · exact .stay (.inr (.inl ⟨hrecorded.connected.trans hclosed.1,
            hrecorded.connecting.trans hclosed.2⟩))
        · exact .stay (hstay (hfills.trans hrecorded))
      · rintro _ e₂ (hclosed | hfills)
        · exact .inr (.inl hclosed)
        · exact hstay hfills
    | disconnect5 d =>
      refine .bind (handleConnectionLostInner_sim (P := .free) (.self e₁)).ends ?_
        fun _ _ h => .inr (.inl h)
      intro _ e₂ hclosed
      rw [Eff.bind_of_ok (noted_run _ _)]
      exact .stay (.inr (.inl hclosed))
    | disconnect3 => exact hnone
    | _ => exact (hlive rfl rfl).elim

/-- What a packet finds after it: a connection, or no response that could be sent. -/
theorem handlePacket_ends (hstored : Stored B.strict .free e.ledger) (hflags : Flags e.ledger)
    (hwaits : e.Waits B) (packet : MqttPacket) (stream : Nat) :
    Ends ((handlePacket B packet (some stream) : Eff _ ε _) e)
      (fun _ e' => e'.isConnected = false → e'.Pauses B) := by
  cases hconnecting : e.state.connecting with
  | true =>
    have hdown : e.isConnected = false := by
      by_contra hc
      have hnot := (hflags.connected (Bool.not_eq_false _ ▸ hc)).1
      cases hconnecting.symm.trans hnot
    refine (handlePacket_connecting hdown hwaits packet _).weaken fun _ e' h hc => ?_
    exact h.resolve_left fun h => by cases hc.symm.trans h
  | false =>
    have hsim : Sim B .shut e.ledger ((handlePacket B packet (some stream) : Eff _ ε _) e) Replies :=
      handlePacket_sim packet ⟨trivial, nofun⟩ fun _ _ => .inl trivial
    refine hsim.trail.weaken ?_
    rintro _ e' ⟨-, hsteps⟩ hc
    have hstart : Stored B.strict .shut e.ledger ∧ e.ledger.connecting = false :=
      ⟨hstored.under id, hconnecting⟩
    have hend := invariant_steps (I := fun l => Stored B.strict .shut l ∧ l.connecting = false)
      (fun l l' hstep ih => ⟨stored_step hstep ih.1, unconnecting_step hstep ih.1 (fun h => h) ih.2⟩)
      hsteps hstart
    exact .inl ⟨hc, hend.2⟩

theorem finishIngest_ends (responses : List Response) (hpauses : e.isConnected = false → e.Pauses B) :
    Ends ((finishIngest B responses : Eff _ ε _) e) (fun _ e' => e'.Rests B) := by
  unfold finishIngest
  obtain ⟨bytes, failures⟩ := encodeResponses B responses
  dsimp only
  rw [Eff.bind_of_ok (noted_run _ _)]
  refine Reaches.update_bind ?_
  have hfills : e.Fills B (if bytes = [] then e.recordEvents failures
      else { e.recordEvents failures with lastPacketSent := (e.recordEvents failures).now }) := by
    refine (fills_recordEvents failures e).trans ?_
    split
    · exact .refl _
    · exact { Fills.refl (e.recordEvents failures) with }
  refine .bind (processQueue_ends fun hc => ?_) (fun _ e₁ hrests => .stay hrests.taken)
    fun _ _ h => h
  rcases hpauses (hfills.connected.symm.trans hc) with hclosed | hwaits
  · exact .inl ⟨hc, hfills.connecting.trans hclosed.2⟩
  · exact .inr (hfills.waits hwaits)

theorem ingestStreamPacketInner_ends (hstored : Stored B.strict .free e.ledger)
    (hflags : Flags e.ledger) (hwaits : e.Waits B) (packet : MqttPacket) (stream : Nat) :
    Ends ((ingestStreamPacketInner B packet stream : Eff _ ε _) e) (fun _ e' => e'.Rests B) := by
  let e₁ : MqttEngine T := { e with lastPacketReceived := e.now, events := [] }
  have hwaits₁ : e₁.Waits B := Fills.waits { Fills.refl e with } hwaits
  show Ends (((handlePacket B packet (some stream) : Eff (MqttEngine T) ε _) >>= _) e₁) _
  refine .bind_total (handlePacket_ends (e := e₁) hstored hflags hwaits₁ packet stream)
    (total_handlePacket _ _) fun result e₂ hpauses => ?_
  exact .bind (finishIngest_ends result.2 hpauses) (fun _ e₃ hrests => .stay hrests) fun _ _ h => h

/-! ## Commands -/

theorem fills_reserve (e : MqttEngine T) (id : UInt16) (size : Nat) : e.Fills B (e.reserve id size) :=
  { Fills.refl e with }

theorem fills_registerAlias (e : MqttEngine T) (registration : Option (UInt16 × Topic)) :
    e.Fills B (e.registerAlias registration) := by
  unfold registerAlias
  split
  · exact .refl e
  · exact { Fills.refl e with }

theorem fills_enqueuePublication (e : MqttEngine T) (priority : UInt8) (packet : MqttPacket) :
    e.Fills B (e.enqueuePublication priority packet) := { Fills.refl e with }

theorem fills_admitPublication (e : MqttEngine T) (pid : Option UInt16)
    (registration : Option (UInt16 × Topic)) (priority : UInt8) (packet : MqttPacket) (size : Nat) :
    e.Fills B (e.admitPublication pid registration priority packet size) := by
  unfold admitPublication
  dsimp only
  let e₁ : MqttEngine T := { e with state.queuedBytes := e.state.queuedBytes + size }
  have hqueued : e.Fills B e₁ := by
    refine { Fills.refl e with bytes := ?_ }
    exact Nat.add_le_add_right (Nat.le_add_right _ _) _
  have hreserved : e₁.Fills B (pid.elim e₁ (fun id => e₁.reserve id size)) := by
    cases pid with
    | none => exact .refl e₁
    | some id => exact fills_reserve e₁ id size
  exact ((hqueued.trans hreserved).trans (fills_registerAlias _ _)).trans
    (fills_enqueuePublication _ _ _)

theorem publishInner_ends (command : PublishCommand) (hidle : e.Idle B) :
    Ends (publishInner B command e) (fun _ e' => e'.Rests B) := by
  unfold publishInner
  have hparser : Still B e (Eff.onlyWhen (command.qos > 0) requireFullParser) := .onlyWhen (.ask _)
  refine .bind (hparser.idles hidle) (fun _ e₁ hidle₁ => ?_) fun _ _ h => .inr h
  refine .ask_bind (fun validated _ => ?_) fun _ _ => .stay (.inr hidle₁)
  refine .ask_bind (fun _ _ => ?_) fun _ _ => .stay (.inr hidle₁)
  have hassign : Still B e₁ (assignId validated.1) := still_assignId _
  refine .bind (hassign.idles hidle₁) (fun assigned e₂ hidle₂ => ?_) fun _ _ h => .inr h
  refine Reaches.read_bind (.lift_bind (fun bytes _ => ?_) fun _ _ => .stay (.inr hidle₂))
  refine Reaches.update_bind (.bind (processQueueWithEncoding_ends _ fun _ => .inr ?_)
    (fun _ _ h => .stay h) fun _ _ h => h)
  exact (fills_admitPublication e₂ _ _ _ _ _).waits hidle₂.waits

/-- There is no connection, and nothing waits for one. -/
def Unanswered (e : MqttEngine T) : Prop := e.isConnected = false ∧ e.state.responses = []

theorem Unanswered.rests (h : e.Unanswered) : e.Rests B := .inr (idle_of_waits (waits_nil h.2) h.1)

theorem unanswered_of_closed (hflags : Flags e.ledger) (hclosed : e.Closed) : e.Unanswered :=
  ⟨hclosed.1, List.map_eq_nil_iff.mp (hflags.idle hclosed.1 hclosed.2)⟩

theorem announce_responses (properties : Properties) (state : ProtocolState T) :
    (announce state properties).responses = state.responses := by
  fun_induction announce state properties with
  | case1 state => rfl
  | case2 state v rest ih => exact ih
  | case3 state v rest ih => exact ih
  | case4 state v rest ih => exact ih
  | case5 state property rest _ _ _ ih => exact ih

theorem unanswered_announced (packet : MqttPacket) (h : e.Unanswered) :
    Unanswered (e.announced packet).openSession := by
  unfold announced
  split
  · exact ⟨h.1, (announce_responses _ _).trans h.2⟩
  · exact h

theorem connectInner_ends (hflags : Flags e.ledger) (hidle : e.Idle B) :
    Ends (connectInner B e) (fun _ e' => e'.Rests B) := by
  refine .ask_bind (fun _ hallowed => ?_) fun _ _ => .stay (.inr hidle)
  have hunanswered := unanswered_of_closed hflags (connectAllowed_ok hallowed)
  have hdeadline : Eff.Upholds Unanswered
      (startDeadline .connect none : Eff (MqttEngine T) MqttClientError Unit) := by
    refine .read_bind fun e _ => ?_
    split
    · exact .pure ()
    · refine .bind ?_ fun _ => .update fun _ h => h
      unfold deadlineFrom
      split
      · exact .pure _
      · exact .halt fun _ h => h
  have hcode : Eff.Upholds Unanswered (do
      let packet ← Eff.ask (fun e : MqttEngine T => connectPacket e.options)
      Eff.update (fun e => (e.announced packet).openSession)
      let bytes ← Eff.lift (encoded B packet)
      enqueuePacketInner B .command packet
      Eff.update (fun e => e.beginHandshake (max bytes.length 6))
      startDeadline .connect none) :=
    .bind (.ask _) fun packet => .bind (.update fun e h => unanswered_announced packet h) fun _ =>
      .bind (.lift _) fun _ => .bind (.bind (.ask _) fun _ => .update fun _ h => h) fun _ =>
        .bind (.update fun _ h => h) fun _ => hdeadline
  exact (hcode.ends hunanswered).weaken fun _ _ h => h.rests

theorem tryDisconnectWithInner_ends (reasonCode : UInt8) (properties : Properties)
    (hidle : e.Idle B) :
    Ends (tryDisconnectWithInner B reasonCode properties e) (fun _ e' => e'.Rests B) := by
  refine .ask_bind (fun _ _ => Reaches.read_bind ?_) fun _ _ => .stay (.inr hidle)
  let packet := disconnectPacket e.mqttVersion reasonCode properties
  have henqueue : Still B e (Eff.onlyWhen e.isConnected (enqueuePacketInner B .command packet)) :=
    .onlyWhen (still_enqueuePacketInner _ _)
  exact .bind (henqueue.idles hidle) (fun _ _ _ => .stay (.inl ⟨rfl, rfl⟩)) fun _ _ h => .inr h

/-- Whatever could go out has gone out when a call returns. -/
theorem perform_ends (hstored : Stored B.strict .free e.ledger) (hflags : Flags e.ledger)
    (hidle : e.Idle B) (now : T) (action : Action) :
    Ends (perform B now action e) (fun _ e' => e'.Rests B) := by
  have hrests : e.Rests B := .inr hidle
  have hreply {α : Type} {m : Eff (MqttEngine T) MqttClientError α} {reply : α → Reply}
      (h : Ends (m e) (fun _ e' => e'.Rests B)) :
      Ends ((m >>= fun a => pure (reply a)) e) (fun _ e' => e'.Rests B) :=
    .bind h (fun _ _ h => .stay h) fun _ _ h => h
  cases action with
  | connect => exact hreply (connectInner_ends hflags hidle)
  | publish command => exact hreply (publishInner_ends command hidle)
  | subscribe command => exact hreply (Still.ends (still_subscribeInner command) hrests)
  | unsubscribe command => exact hreply (Still.ends (still_unsubscribeInner command) hrests)
  | disconnect reasonCode properties =>
    exact hreply (tryDisconnectWithInner_ends reasonCode properties hidle)
  | auth reasonCode properties => exact hreply (Still.ends (still_tryAuthInner _ _) hrests)
  | sendPing =>
    refine hreply (Still.ends ?_ hrests)
    exact .read_bind fun _ _ => still_sendPingInnerAt _
  | handleConnectionLost =>
    exact hreply ((handleConnectionLostInner_sim (P := .free) (.self e)).ends.weaken
      fun _ _ h => .inl h)
  | resetForNewTransport =>
    exact hreply ((resetForNewTransportInner_sim (P := .free) trivial e).ends.weaken
      fun _ _ h => .inl h)
  | scheduleReconnect => exact hreply (Still.ends (still_scheduleReconnectInner now) hrests)
  | handleIncoming data =>
    refine hreply (handleIncomingInner_ends data fun hclosed => ?_)
    exact .inl ⟨(hflags.of_closed hclosed).1, (hflags.of_closed hclosed).2.1⟩
  | handleTick => exact hreply (handleTickInner_ends now e)
  | takeOutgoing => exact hreply (takeOutgoingInner_ends e)
  | enqueuePacket packet => exact hreply (Still.ends (still_enqueuePacketInner _ _) hrests)
  | acknowledge =>
    exact hreply (Still.ends (still_manualAck _ _ _ _) hrests)
  | publishEncoded command stream =>
    exact hreply (Still.ends (still_publishEncodedInner command stream) hrests)
  | subscribeEncoded command stream =>
    exact hreply (Still.ends (still_subscribeEncodedInner command stream) hrests)
  | unsubscribeEncoded command stream =>
    exact hreply (Still.ends (still_unsubscribeEncodedInner command stream) hrests)
  | ingestStreamPacket packet stream =>
    exact hreply (ingestStreamPacketInner_ends hstored hflags hidle.waits packet stream)

/-! ## Runs -/

/-- The call does not panic. -/
def returns (B : Build) (e : MqttEngine T) (c : Call T) : Bool :=
  match call B c e with
  | .done _ _ => true
  | .panic _ => false

theorem call_of_returns {c : Call T} (h : e.returns B c = true) :
    ∃ r, call B c e = .done r (e.after B c) := by
  unfold returns at h
  unfold after
  rcases hcall : call B c e with ⟨r, e'⟩ | e'
  · exact ⟨r, rfl⟩
  · rw [hcall] at h
    cases h

/-- What every call finds. -/
structure AtRest (B : Build) (e : MqttEngine T) : Prop where
  stored : Stored B.strict .free e.ledger
  flags : Flags e.ledger
  idle : e.Idle B

theorem AtRest.moved (h : e.AtRest B) (now : T) : AtRest B { e with now := now } := by
  have hstays : e.Stays B { e with now := now } := { Stays.refl e with }
  exact ⟨{ h.stored with }, { h.flags with }, hstays.idle h.idle⟩

theorem timedCall_rests (h : e.AtRest B) (now : T) (action : Action) :
    Ends (timedCall B now action e) (fun _ e' => e'.Rests B) := by
  cases hcheck : e.timeCheck now with
  | error error =>
    rw [timedCall_rejected hcheck]
    exact .stay (.inr h.idle)
  | ok _ =>
    have hmoved := h.moved now
    rw [timedCall_accepted hcheck]
    exact perform_ends hmoved.stored hmoved.flags hmoved.idle now action

theorem hostCall_rests (h : e.AtRest B) (now : T) (action : Action) :
    Ends (hostCall B now action e) (fun _ e' => e'.Rests B) := by
  refine Reaches.read_bind (.attempt_bind (timedCall_rests h _ action) fun result e₁ hrests => ?_)
  have hevent (error : MqttClientError) : (e₁.pushEvent (.error error)).Rests B := by
    have hstays : e₁.Stays B (e₁.pushEvent (.error error)) := { Stays.refl e₁ with }
    exact hstays.rests hrests
  cases result with
  | ok reply => exact .stay hrests
  | error error =>
    dsimp only
    unfold hostFallback
    split
    all_goals first
      | exact .stay hrests
      | exact .stay (hevent error)

theorem call_rests (h : e.AtRest B) {c : Call T} (hc : c.isMigrate = false) :
    Ends (call B c e) (fun _ e' => e'.Rests B) := by
  have hrests : e.Rests B := .inr h.idle
  cases c with
  | timed now action => exact timedCall_rests h now action
  | host now action => exact hostCall_rests h now action
  | takeEvents => exact .stay hrests.taken
  | setParseLevel level =>
    have hstays : e.Stays B (e.withParseLevel level) := { Stays.refl e with }
    exact .stay (hstays.rests hrests)
  | trySetParseLevel level =>
    have hstays : e.Stays B (e.withParseLevel level) := { Stays.refl e with }
    exact .ask_bind (fun _ _ => .stay (hstays.rests hrests)) fun _ _ => .stay hrests
  | setReconnect enabled =>
    have hstays : e.Stays B (e.setReconnect enabled) := by
      unfold setReconnect
      dsimp only
      split
      · exact { Stays.refl e with }
      · exact { Stays.refl e with }
    exact .stay (hstays.rests hrests)
  | resetReconnectState =>
    have hstays : e.Stays B e.resetReconnectState := { Stays.refl e with }
    exact .stay (hstays.rests hrests)
  | nextPacketId =>
    exact .bind (Still.ends still_nextPacketId hrests) (fun _ _ h => .stay h) fun _ _ h => h
  | takeStreamRetransmissions =>
    have hstays : e.Stays B { e with streamRetransmissions := [] } := { Stays.refl e with }
    exact .stay (hstays.rests hrests)
  | restoreSessionState saved =>
    have hrestored : Ends (restoreSessionState B saved e) (fun _ e' => e'.Rests B) :=
      .ask_bind (fun loaded hload => .stay (.inl (loadSession_loads hload).closed))
        fun _ _ => .stay hrests
    exact .bind hrestored (fun _ _ h => .stay h) fun _ _ h => h
  | migrate => cases hc

theorem Rests.idle (h : e.Rests B) (hflags : Flags e.ledger) : e.Idle B := by
  rcases h with hclosed | hidle
  · have hunanswered := unanswered_of_closed hflags hclosed
    exact idle_of_waits (waits_nil hunanswered.2) hunanswered.1
  · exact hidle

/-- Every call leaves the engine idle. -/
theorem Run.atRest {options : MqttClientOptions} {created : T} {start : MqttEngine T}
    (hnew : tryNewAt options created = .ok start)
    (run : Run B (fun e c => c.isMigrate = false ∧ e.returns B c = true) start e) :
    e.AtRest B := by
  induction run with
  | start =>
    obtain ⟨rfl, -⟩ := tryNewAt_ok hnew
    exact ⟨stored_blank _ _ _ _ _, flags_closed ⟨rfl, rfl⟩ rfl rfl,
      idle_of_waits (waits_nil rfl) rfl⟩
  | @call e c _ _ permitted ih =>
    obtain ⟨hc, hreturns⟩ := permitted
    obtain ⟨r, hcall⟩ := call_of_returns hreturns
    have hends := call_rests ih hc
    have hinvariant := invariant_steps (I := fun l => Stored B.strict .free l ∧ Flags l)
      (fun l l' hstep ih => ⟨stored_step hstep ih.1, flags_step hstep ih.1 ih.2⟩)
      (call_sim (B := B) (e := e) (allowed_free c)).steps ⟨ih.stored, ih.flags⟩
    rw [hcall] at hends hinvariant
    exact ⟨hinvariant.1, hinvariant.2, hends.2.idle hinvariant.2⟩

/-- Between two calls every packet that is left waits for something, and processing the queue
again does nothing. -/
theorem work_conserving {options : MqttClientOptions} {created : T} {start : MqttEngine T}
    (hnew : tryNewAt options created = .ok start)
    (run : Run B (fun e c => c.isMigrate = false ∧ e.returns B c = true) start e) :
    e.Idle B ∧ ((processQueue B : Eff _ MqttClientError _) e = .done (.ok ()) e ∨
      (processQueue B : Eff _ MqttClientError _) e = .done (.ok ()) (e.record .drain)) := by
  have hidle := (run.atRest hnew).idle
  exact ⟨hidle, processQueue_idle hidle⟩

/-- A publication of QoS 1 that waits for the acknowledgement of the one before it. -/
theorem work_conserving_quota :
    let e := follow (.ordered true) (newAt {} (0 : Timestamp))
      [.timed 0 .connect, .timed 0 (.handleIncoming [0x20, 6, 0, 0, 3, 0x21, 0, 1]),
        .timed 0 (.publish ⟨"t", [1], 1, false, false, none, [], 0⟩),
        .timed 0 (.publish ⟨"t", [2], 1, false, false, none, [], 0⟩)]
    e.priorityQueue.size = 1 ∧ e.QueueWaits := by
  intro e
  have hrun : Run (.ordered true) (fun e c => c.isMigrate = false ∧ e.returns (.ordered true) c = true)
      (newAt {} (0 : Timestamp)) e := Run.start.follow (by decide +kernel)
  exact ⟨by decide +kernel, (work_conserving tryNewAt_default hrun).1.queue (by decide +kernel)
    (by decide +kernel) (by decide +kernel)⟩

end MqttEngine

end FlowSdk
