/-
  FlowSdk.Refine.Run — every call of the engine as steps of the ledger.

  `Allowed` says what a permit asks of a call. A call that is allowed makes only steps of the
  ledger, whatever it answers and even if it panics, and so does a run of such calls. This is
  what connects the ledger to the engine: an invariant of the steps holds in every state that
  a run reaches.

  Main results:
    1. `call_sim`           the steps of one call
    2. `Run.steps`          the steps of a run
    3. `Run.invariant`      an invariant of the steps along a run
    4. `memory_bounded`     the limits on the memory of the engine
-/
import FlowSdk.Client.Memory
import FlowSdk.Refine.Load

set_option linter.unusedSectionVars false

namespace FlowSdk

open Machine Wire Ledger
open Relation (ReflTransGen)

variable {T : Type} [TimePoint T] {ε α : Type} {B : Build} {P : Permit} {e : MqttEngine T}

/-! ## What a permit asks of a call -/

/-- The bytes that the next CONNECT needs are those that publications leave free. -/
def Covers (B : Build) (P : Permit) (options : MqttClientOptions) : Prop :=
  ∀ reserve, MqttEngine.connectReserve B options = .ok reserve → P.need ≤ reserve

def Action.Allowed (B : Build) (P : Permit) (e : MqttEngine T) : Action → Prop
  | .connect => MqttEngine.MayConnect P e
  | .publish command => MqttEngine.MayPublish B P e command
  | .subscribe _ | .unsubscribe _ | .sendPing => MqttEngine.MaySend P e
  | .disconnect _ _ | .resetForNewTransport => P.cancels
  | .auth _ _ => P.auths
  | .handleConnectionLost | .scheduleReconnect | .handleTick => True
  | .handleIncoming _ => P.on none
  | .takeOutgoing => P.takes ∧ P.on none
  | .enqueuePacket packet =>
    P.foreign ∧ (packet.isPublish → P.raw) ∧ (packet.packetType = .auth → P.auths)
  | .acknowledge _ _ _ _ => MqttEngine.MaySend P e ∧ P.on none
  | .publishEncoded _ _ => P.streams ∧ P.publishes
  | .subscribeEncoded _ _ | .unsubscribeEncoded _ _ => True
  | .ingestStreamPacket packet stream => P.on (some stream) ∧ (packet.isConnAck3 → P.legacy)

/-- The parser may change to a level. -/
def MayLevel (P : Permit) (e : MqttEngine T) (level : ParseLevel) : Prop :=
  level = .full ∨ P.starts ∧
    (P.levels ∨ e.isConnected = true ∧ ∀ key, e.state.received.lookup key = none)

def Call.Allowed (B : Build) (P : Permit) (e : MqttEngine T) : Call T → Prop
  | .timed _ action | .host _ action => P.starts ∧ action.Allowed B P e
  | .setParseLevel level => MayLevel P e level
  | .trySetParseLevel level => e.parseLevelCheck level = .ok () → MayLevel P e level
  | .restoreSessionState _ => P.starts ∧ Covers B P e.options
  | .migrate options _ => P.migrate ∧ Covers B P options
  | .setReconnect enabled => enabled ∨ P.cancels
  | .resetReconnectState => P.restarts
  | .takeEvents | .nextPacketId | .takeStreamRetransmissions => True

/-- Everything is allowed. -/
def Permit.free : Permit where
  publishes := True
  streams := True
  raw := True
  tagged := True
  stale := True
  uncounted := True
  migrate := True
  huge := True
  foreign := True
  auths := True
  legacy := True
  idle := True
  reopen := True
  takes := True
  opens := True
  starts := True
  levels := True
  cancels := True
  restarts := True
  on _ := True
  need := 0

/-- A permit under which most commands are free. -/
structure Permit.Lenient (P : Permit) : Prop where
  publishes : P.publishes
  streams : P.streams
  huge : P.huge
  foreign : P.foreign
  auths : P.auths
  legacy : P.legacy
  idle : P.idle
  takes : P.takes
  cancels : P.cancels
  on : ∀ stream, P.on stream
  need : P.need = 0

theorem Permit.Lenient.free : Permit.free.Lenient :=
  ⟨trivial, trivial, trivial, trivial, trivial, trivial, trivial, trivial, trivial, fun _ => trivial,
    rfl⟩

theorem allowed_action (h : P.Lenient) (action : Action)
    (hconnect : action = .connect → MqttEngine.MayConnect P e)
    (hpublish : ∀ command, action = .publish command →
      P.tagged ∨ command.qos > 0 ∨ command.packetId = none)
    (hraw : ∀ packet, action = .enqueuePacket packet → packet.isPublish → P.raw) :
    action.Allowed B P e := by
  cases action with
  | connect => exact hconnect rfl
  | publish command =>
    exact ⟨h.publishes, hpublish command rfl, .inl h.huge, h.need ▸ Nat.zero_le _⟩
  | publishEncoded command stream => exact ⟨h.streams, h.publishes⟩
  | acknowledge => exact ⟨.inl h.idle, h.on none⟩
  | handleIncoming data => exact h.on none
  | takeOutgoing => exact ⟨h.takes, h.on none⟩
  | enqueuePacket packet => exact ⟨h.foreign, hraw packet rfl, fun _ => h.auths⟩
  | subscribe command => exact .inl h.idle
  | unsubscribe command => exact .inl h.idle
  | sendPing => exact .inl h.idle
  | ingestStreamPacket packet stream => exact ⟨h.on (some stream), fun _ => h.legacy⟩
  | auth => exact h.auths
  | disconnect => exact h.cancels
  | resetForNewTransport => exact h.cancels
  | _ => trivial

theorem allowed_free (c : Call T) : c.Allowed B .free e := by
  have haction (action : Action) : action.Allowed B .free e :=
    allowed_action .free action (fun _ => ⟨trivial, .inl trivial, .inl trivial, .inl trivial⟩) (fun _ _ => .inl trivial)
      fun _ _ _ => trivial
  cases c with
  | timed now action => exact ⟨trivial, haction action⟩
  | host now action => exact ⟨trivial, haction action⟩
  | setParseLevel level => exact .inr ⟨trivial, .inl trivial⟩
  | trySetParseLevel level => exact fun _ => .inr ⟨trivial, .inl trivial⟩
  | restoreSessionState saved => exact ⟨trivial, fun _ _ => Nat.zero_le _⟩
  | migrate => exact ⟨trivial, fun _ _ => Nat.zero_le _⟩
  | setReconnect enabled => exact .inr trivial
  | _ => trivial

namespace MqttEngine

/-! ## One call -/

theorem code_cases (kind : AckKind) : kind.code = 4 ∨ kind.code = 5 ∨ kind.code = 7 := by
  cases kind
  · exact .inl rfl
  · exact .inr (.inl rfl)
  · exact .inr (.inr rfl)

/-- A call answers once its work is done. -/
theorem reply_sim {m : Eff (MqttEngine T) MqttClientError α} {f : α → Reply}
    {Q : Except MqttClientError α → MqttEngine T → Prop} (h : Sim B P e.ledger (m e) Q) :
    Sim B P e.ledger ((do return f (← m)) e) Any :=
  .bind h (fun _ _ _ => .stay trivial) fun _ _ _ => trivial

theorem perform_sim {action : Action} (h : action.Allowed B P e) :
    Sim B P e.ledger (perform B e.now action e) Any := by
  cases action with
  | connect => exact reply_sim (connectInner_sim h)
  | publish command => exact reply_sim (publishInner_sim h)
  | subscribe command => exact reply_sim (subscribeInner_sim command h)
  | unsubscribe command => exact reply_sim (unsubscribeInner_sim command h)
  | disconnect => exact reply_sim (tryDisconnectWithInner_sim h _ _ e)
  | auth reasonCode properties => exact reply_sim (tryAuthInner_sim h _ _ e)
  | sendPing => exact reply_sim (sendPingInner_sim h)
  | handleConnectionLost => exact reply_sim (handleConnectionLostInner_sim (.self e))
  | resetForNewTransport => exact reply_sim (resetForNewTransportInner_sim h e)
  | scheduleReconnect => exact reply_sim (scheduleReconnectInner_sim e)
  | handleIncoming data => exact reply_sim (handleIncomingInner_sim h data e)
  | handleTick => exact reply_sim (handleTickInner_sim e)
  | takeOutgoing => exact reply_sim (takeOutgoingInner_sim h.2 h.1 e)
  | enqueuePacket packet =>
    have hsends : e.ledger.Sends P packet .raw := h
    exact reply_sim (enqueuePacketInner_sim hsends)
  | acknowledge kind id reason properties =>
    exact reply_sim (manualAck_sim (code_cases kind) id reason properties h.1 h.2)
  | publishEncoded command stream => exact reply_sim (publishEncodedInner_sim h.1 h.2 command stream e)
  | subscribeEncoded command stream => exact reply_sim (subscribeEncodedInner_sim command stream e)
  | unsubscribeEncoded command stream =>
    exact reply_sim (unsubscribeEncodedInner_sim command stream e)
  | ingestStreamPacket packet stream => exact reply_sim (ingestStreamPacketInner_sim h.1 h.2 e)

theorem timeCheck_ok {now : T} {u : Unit} (h : e.timeCheck now = .ok u) :
    ¬ now < e.now ∧ ∀ d ∈ horizon e.options, (TimePoint.checkedAdd now d).isSome = true := by
  obtain ⟨hback, hrange⟩ := check_bind_eq_ok.mp h
  rw [rejectIf_eq_ok] at hback
  rw [checkTimeRange, rejectIf_eq_ok, List.any_eq_true] at hrange
  refine ⟨hback, fun d hd => ?_⟩
  by_contra hnone
  exact hrange ⟨d, hd, by simpa using hnone⟩

/-- What a permit asks of an action does not depend on the time. -/
theorem allowed_at {action : Action} (now : T) (h : action.Allowed B P e) :
    action.Allowed B P ({ e with now := now } : MqttEngine T) := by
  cases action with
  | connect => exact ⟨h.opens, h.stale, h.first, h.counted⟩
  | publish command => exact ⟨h.publishes, h.tagged, h.small, h.covered⟩
  | _ => exact h

theorem timedCall_sim {action : Action} (now : T) (starts : P.starts) (h : action.Allowed B P e) :
    Sim B P e.ledger (timedCall B now action e) Any := by
  refine Reaches.bind (Q := fun r e' => ∀ u, r = .ok u → e' = { e with now := now }) ?_ ?_
    fun _ _ _ => trivial
  · refine .ask_bind (fun _ hcheck => ?_) fun _ _ => .stay fun _ h => (by cases h)
    obtain ⟨hback, hrange⟩ := timeCheck_ok hcheck
    exact .done (.single (.clock now starts hback hrange)) fun _ _ => rfl
  · intro u e' he'
    rw [he' u rfl]
    exact perform_sim (allowed_at now h)

theorem hostFallback_sim (error : MqttClientError) (action : Action) (e : MqttEngine T) :
    Sim B P e.ledger (hostFallback error action e) Any := by
  have hpush (reply : Reply) : Sim B P e.ledger
      (.done (.ok reply) (e.pushEvent (.error error)) : Outcome _ MqttClientError _) Any :=
    .done (.single (pushEvent_step (MqttEvent.plain_error error))) trivial
  cases action with
  | handleConnectionLost => exact hpush .unit
  | resetForNewTransport => exact hpush .unit
  | scheduleReconnect => exact hpush .unit
  | takeOutgoing => exact hpush (.bytes [])
  | _ => exact .stay trivial

theorem hostCall_sim {action : Action} (now : T) (starts : P.starts) (h : action.Allowed B P e) :
    Sim B P e.ledger (hostCall B now action e) Any := by
  refine Reaches.read_bind (.attempt_bind (timedCall_sim (max now e.now) starts h) ?_)
  rintro (error | reply) e' -
  · exact hostFallback_sim error action e'
  · exact .stay trivial

theorem level_step {level : ParseLevel} (h : MayLevel P e level) :
    Step B.strict P e.ledger (e.withParseLevel level).ledger := .level level h

theorem setReconnect_steps {enabled : Bool} (h : enabled ∨ P.cancels) :
    ReflTransGen (Step B.strict P) e.ledger (e.setReconnect enabled).ledger := by
  cases enabled with
  | true => exact .refl
  | false => exact .single (.cancel (h.resolve_left Bool.false_ne_true))

/-- A call that the permit allows makes only steps of the ledger. -/
theorem call_sim {c : Call T} (h : c.Allowed B P e) : Sim B P e.ledger (call B c e) Any := by
  cases c with
  | timed now action => exact timedCall_sim now h.1 h.2
  | host now action => exact hostCall_sim now h.1 h.2
  | takeEvents => exact reply_sim (takeEvents_sim e)
  | setParseLevel level => exact .done (.single (level_step h)) trivial
  | trySetParseLevel level =>
    refine .ask_bind (fun _ hcheck => ?_) fun _ _ => .stay trivial
    exact .done (.single (level_step (h hcheck))) trivial
  | setReconnect enabled => exact .done (setReconnect_steps h) trivial
  | resetReconnectState => exact .done (.single (.restart h)) trivial
  | nextPacketId => exact reply_sim (nextPacketId_sim e)
  | takeStreamRetransmissions => exact .done .refl trivial
  | restoreSessionState saved => exact reply_sim (restoreSessionState_sim saved h.1 h.2)
  | migrate => exact reply_sim (migrateInner_sim h.1 h.2)

/-! ## Runs -/

variable {allowed : MqttEngine T → Call T → Prop} {start : MqttEngine T}

theorem after_eq (e : MqttEngine T) (c : Call T) : e.after B c = (call B c e).state := by
  unfold after
  cases call B c e <;> rfl

theorem Run.steps (h : ∀ e c, allowed e c → c.Allowed B P e) (run : Run B allowed start e) :
    ReflTransGen (Step B.strict P) start.ledger e.ledger := by
  induction run with
  | start => exact .refl
  | call run alive permitted ih =>
    rw [after_eq]
    exact ih.trans (call_sim (h _ _ permitted)).steps

/-- An invariant of the steps holds in every state that a run reaches. -/
theorem Run.invariant {I : Ledger T → Prop} (h : ∀ e c, allowed e c → c.Allowed B P e)
    (hstep : ∀ l l', Step B.strict P l l' → I l → I l') (hstart : I start.ledger)
    (run : Run B allowed start e) : I e.ledger :=
  invariant_steps hstep (run.steps h) hstart

/-- The queue, the output and the input keep to the limits of the options, unless a command
publishes what outgrows the lengths of the encoder. -/
theorem memory_bounded {options : MqttClientOptions} {created : T}
    (hnew : tryNewAt options created = .ok start)
    (run : Run B (fun e c => c.Allowed B { Permit.free with huge := False } e) start e) :
    e.state.queuedBytes = queueSize B.strict e.priorityQueue.items ∧
    e.priorityQueue.items.length ≤ e.options.maxOutgoingPacketCount ∧
    e.outgoingBuffer.length ≤ e.options.maxOutgoingPacketCount ∧
    (∀ limit ∈ e.options.maxIncomingBufferBytes, e.parser.buffer.length ≤ limit) ∧
    ∀ limit ∈ e.options.maxOutgoingBufferBytes,
      e.state.queuedBytes + (e.outgoingBuffer.map List.length).sum ≤ limit := by
  obtain ⟨rfl, -⟩ := tryNewAt_ok hnew
  have hstored : Stored B.strict { Permit.free with huge := False } e.ledger :=
    run.invariant (fun _ _ => id) (fun _ _ => stored_step) (stored_blank _ _ _ _ _)
  exact ⟨hstored.queuedBytes, hstored.queued, hstored.outgoing, hstored.buffered,
    hstored.bytes.resolve_left id⟩

/-- CONNECT waits in an output of 40 bytes. -/
theorem memory_bounded_connect :
    let options : MqttClientOptions := { maxOutgoingBufferBytes := some 40 }
    let e := follow (.ordered true) (newAt options (0 : Timestamp)) [.timed 0 .connect]
    e.outgoingBuffer.length = 1 ∧ (e.outgoingBuffer.map List.length).sum ≤ 40 := by
  intro options e
  have hnew := tryNewAt_of_isOk (show (tryNewAt options (0 : Timestamp)).isOk by decide +kernel)
  obtain ⟨-, -, -, -, hbytes⟩ := memory_bounded (B := .ordered true) (e := e) hnew
    (Run.start.follow ⟨rfl, ⟨trivial, trivial, .inl trivial, .inl trivial, .inl trivial⟩, trivial⟩)
  exact ⟨by decide +kernel, le_trans (Nat.le_add_left _ _) (hbytes 40 (by decide +kernel))⟩

end MqttEngine

end FlowSdk
