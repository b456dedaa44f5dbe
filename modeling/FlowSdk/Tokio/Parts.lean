/-
  FlowSdk.Tokio.Parts — invariants of the worker.

  Most of the worker's code answers callers, tells the application and calls the engine; what
  it does to the connection is done in a few places. An invariant that these places respect is
  respected by all the code around them: callers are answered (`Settling`), events are
  dispatched (`Turning`), callbacks run and publish (`Emitting`), output is written
  (`Draining`).

  Main results:
    1. `Settling.dispatchLoop`   the events of the engine
    2. `Emitting.emitBatch`      the callbacks
    3. `Draining.finishTurn`     the end of a turn of the loop
-/
import FlowSdk.Contract.Lifecycle
import FlowSdk.Refine.Total
import FlowSdk.Tokio.Worker

set_option linter.unusedSectionVars false

namespace FlowSdk

open Machine Tokio

variable {T : Type} [TimePoint T] {ε : Type} {B : Build} {env : Environment T}

/-- Events after which the worker gives a connection or an attempt up, or takes it for made. -/
def MqttEvent.turning : MqttEvent → Bool
  | .connected _ | .disconnected _ | .disconnectReceived _ _ => true
  | .operationFailed operation _ _ => operation = .connect
  | _ => false

namespace Tokio

/-- The first callers are among the second. -/
structure Pending.Within (p q : Pending) : Prop where
  connect : p.connect ⊆ q.connect
  ping : p.ping ⊆ q.ping
  publish : p.publish.entries ⊆ q.publish.entries
  subscribe : p.subscribe.entries ⊆ q.subscribe.entries
  unsubscribe : p.unsubscribe.entries ⊆ q.unsubscribe.entries

theorem Pending.Within.refl (p : Pending) : p.Within p :=
  ⟨List.Subset.refl _, List.Subset.refl _, List.Subset.refl _, List.Subset.refl _, List.Subset.refl _⟩

theorem Pending.within_default {p : Pending} (h : p.Within .default) : p = .default := by
  have hnil {α : Type} {list : List α} (h : list ⊆ []) : list = [] := List.eq_nil_of_subset_nil h
  have hempty {m : AList (fun _ : UInt16 => Ticket)} (h : m.entries ⊆ []) : m = ∅ :=
    AList.ext (hnil h)
  obtain ⟨connect, publish, subscribe, unsubscribe, ping⟩ := p
  have hconnect : connect = [] := hnil h.connect
  have hping : ping = [] := hnil h.ping
  have hpublish : publish = ∅ := hempty h.publish
  have hsubscribe : subscribe = ∅ := hempty h.subscribe
  have hunsubscribe : unsubscribe = ∅ := hempty h.unsubscribe
  subst hconnect hping hpublish hsubscribe hunsubscribe
  rfl

theorem entries_erase_subset (m : AList (fun _ : UInt16 => Ticket)) (id : UInt16) :
    (m.erase id).entries ⊆ m.entries := (List.kerase_sublist id m.entries).subset

theorem entries_retain_subset (keep : UInt16 → Ticket → Bool) (m : AList (fun _ : UInt16 => Ticket)) :
    (retain keep m).entries ⊆ m.entries := List.filter_subset_self _

end Tokio

namespace TokioClientWorker

/-- The two states differ only in what the application is told and in how local publications
arrive. -/
structure Aside (w w' : TokioClientWorker T) : Prop where
  engine : w'.engine = w.engine := by rfl
  stream : w'.stream = w.stream := by rfl
  state : w'.state = w.state := by rfl
  connecting : w'.connecting = w.connecting := by rfl
  intentionalStop : w'.intentionalStop = w.intentionalStop := by rfl
  pending : w'.pending = w.pending := by rfl
  admissionTransportFailed : w'.admissionTransportFailed = w.admissionTransportFailed := by rfl
  config : w'.config = w.config := by rfl

variable {w w' : TokioClientWorker T}

/-! ## Answering -/

@[simp] theorem answerAll_pending (cause : Cause) (reply : Except MqttClientError Answer)
    (tickets : List Ticket) (w : TokioClientWorker T) :
    (w.answerAll cause reply tickets).pending = w.pending := by
  induction tickets generalizing w with
  | nil => rfl
  | cons ticket tickets ih => exact ih (w.answer cause reply ticket)

theorem failAll_pending (error : MqttClientError) (w : TokioClientWorker T) :
    (w.failAll error).pending = .default := by
  simp only [failAll, failPing, failConnect, answerAll_pending]
  rfl

/-! ## Calls of the engine -/

/-- The engine and the number of questions to the environment do not matter. -/
def Inert (I : TokioClientWorker T → Prop) : Prop :=
  ∀ (w : TokioClientWorker T) (e : MqttEngine T) (turn : Nat), I w → I { w with engine := e, turn := turn }

namespace Inert

variable {I : TokioClientWorker T → Prop} (h : Inert I)

include h

theorem ask : Eff.Respects I (ask env : Eff (TokioClientWorker T) ε _) :=
  .read_bind fun _ _ => .bind (.update fun w hw => h w w.engine _ hw) fun _ => .pure _

theorem onEngine {α : Type} (m : Eff (MqttEngine T) ε α) : Eff.Respects I (onEngine m) :=
  .zoom fun w e hw => h w e w.turn hw

theorem engineCall (action : Action) : Eff.Respects I (engineCall B env action) :=
  .bind h.ask fun _ => h.onEngine _

theorem publishCommand (command : PublishCommand) :
    Eff.Respects I (publishCommand B env command) :=
  .bind (.ask _) fun _ => .bind (.ask _) fun _ => .read_bind fun _ _ =>
    .bind (h.engineCall _) fun _ => .pure _

theorem publish (command : PublishCommand) : Eff.Respects I (publish B env command) :=
  .bind (.ask _) fun _ => h.publishCommand command

theorem subscribe (command : SubscribeCommand) : Eff.Respects I (subscribe B env command) :=
  .bind (h.engineCall _) fun _ => .pure _

theorem unsubscribe (command : UnsubscribeCommand) : Eff.Respects I (unsubscribe B env command) :=
  .bind (h.engineCall _) fun _ => .pure _

theorem ping : Eff.Respects I (ping B env) := .bind (.ask _) fun _ => .bind (h.engineCall _) fun _ => .pure _

theorem acknowledge (kind : AckKind) (id : UInt16) (reason : UInt8) (properties : Properties) :
    Eff.Respects I (acknowledge B env kind id reason properties) :=
  .bind (h.engineCall _) fun _ => .pure _

theorem auth (reasonCode : UInt8) (properties : Properties) :
    Eff.Respects I (auth B env reasonCode properties) := .bind (h.engineCall _) fun _ => .pure _

theorem writeOutput : Eff.Respects I (writeOutput B env) :=
  .bind (h.engineCall _) fun _ => .onlyWhen (.bind (.ask _) fun _ => .read_bind fun _ _ =>
    .bind h.ask fun _ => .lift _)

end Inert

theorem total_ask : Eff.Total (ask env : Eff (TokioClientWorker T) ε _) :=
  .bind .read fun _ => .bind (.update _) fun _ => .pure _

/-- A call of the host that reports its errors as events. -/
theorem total_engineCall {action : Action}
    (h : ∀ error, Eff.Total (MqttEngine.hostFallback error action : Eff (MqttEngine T) _ _)) :
    Eff.Total (engineCall B env action : Eff (TokioClientWorker T) _ _) := by
  refine .bind total_ask fun m => .zoom (.bind .read fun e => .bind (.attempt _) fun result => ?_)
  cases result with
  | ok reply => exact .pure _
  | error error => exact h error

/-- The engine is told that its connection is lost, whatever its clock says. -/
theorem total_connectionLost :
    Eff.Total (engineCall B env .handleConnectionLost : Eff (TokioClientWorker T) _ _) :=
  total_engineCall fun _ => .bind (.update _) fun _ => .pure _

theorem total_setReconnect (enabled : Bool) :
    Eff.Total (onEngine (MqttEngine.call B (.setReconnect enabled)) : Eff (TokioClientWorker T) _ _) :=
  .zoom (.bind (.update _) fun _ => .pure _)

theorem total_resetReconnectState :
    Eff.Total (onEngine (MqttEngine.call B .resetReconnectState) : Eff (TokioClientWorker T) _ _) :=
  .zoom (.bind (.update _) fun _ => .pure _)

/-- The time of the next tick is only read. -/
theorem nextTickAt_keeps (e : MqttEngine T) :
    Ends ((MqttEngine.nextTickAt : Eff _ ε _) e) (fun _ e' => e' = e) := by
  have hdeadline (start : T) (duration : Nat) :
      Eff.Respects (fun e' => e' = e) (MqttEngine.deadlineFrom start duration : Eff (MqttEngine T) ε T) := by
    intro e₁ h₁
    unfold MqttEngine.deadlineFrom
    cases TimePoint.checkedAdd start duration with
    | none => exact .refl
    | some deadline => exact .stay h₁
  have hkeep : Eff.Respects (fun e' => e' = e) (e.keepAliveAt : Eff (MqttEngine T) ε _) := by
    refine .ite ?_ (.pure _)
    cases e.pingSentAt with
    | some sentAt => exact .bind (hdeadline _ _) fun _ => .pure _
    | none => exact .ite (.bind (hdeadline _ _) fun _ => .pure _) (.pure _)
  refine Reaches.read_bind (.ite (fun _ => .stay rfl) fun _ => ?_)
  exact .bind (hkeep e rfl) (fun _ _ h => .stay h) fun _ _ h => h

theorem total_nextTickAt : Eff.Total (MqttEngine.nextTickAt : Eff (MqttEngine T) ε _) := by
  refine .bind .read fun e => .ite (.pure _) (.bind (.ite ?_ (.pure _)) fun _ => .pure _)
  cases e.pingSentAt with
  | some sentAt => exact .bind (MqttEngine.total_deadlineFrom _ _) fun _ => .pure _
  | none => exact .ite (.bind (MqttEngine.total_deadlineFrom _ _) fun _ => .pure _) (.pure _)

/-! ## Callers -/

/-- What answering rests on. -/
structure Settling (I : TokioClientWorker T → Prop) : Prop where
  aside : ∀ {w w' : TokioClientWorker T}, I w → w.Aside w' → I w'
  fewer : ∀ {w : TokioClientWorker T} {p : Pending}, I w → p.Within w.pending → I { w with pending := p }

namespace Settling

variable {I : TokioClientWorker T → Prop} (h : Settling I)

include h

theorem ask : Eff.Respects I (ask env : Eff (TokioClientWorker T) ε _) :=
  .read_bind fun _ _ => .bind (.update fun _ hw => h.aside hw {})
    fun _ => .pure _

theorem note (n : Note) (hw : I w) : I (w.note n) :=
  h.aside hw {}

theorem answerAll (cause : Cause) (reply : Except MqttClientError Answer) (tickets : List Ticket)
    (hw : I w) : I (w.answerAll cause reply tickets) := by
  induction tickets generalizing w with
  | nil => exact hw
  | cons ticket tickets ih => exact ih (h.note _ hw)

theorem failConnect (error : MqttClientError) (hw : I w) : I (w.failConnect error) :=
  h.fewer (h.answerAll _ _ _ hw) { Pending.Within.refl _ with connect := List.nil_subset _ }

theorem prune (closed : Ticket → Bool) (hw : I w) : I (w.prune closed) :=
  h.fewer hw ⟨List.filter_subset_self _, List.filter_subset_self _, entries_retain_subset _ _,
    entries_retain_subset _ _, entries_retain_subset _ _⟩

theorem settle {find : Pending → Option Ticket} {remove : Pending → Pending} {ev : MqttEvent}
    {reply : Except MqttClientError Answer} (hremove : ∀ p, (remove p).Within p) (hw : I w) :
    I (w.settle find remove ev reply) := by
  unfold TokioClientWorker.settle
  split
  · exact h.fewer (h.note _ hw) (hremove _)
  · exact hw

theorem settlePublish (id : UInt16) (ev : MqttEvent) (reply : Except MqttClientError Answer)
    (hw : I w) : I (w.settlePublish id ev reply) :=
  h.settle (fun p => { Pending.Within.refl p with publish := entries_erase_subset _ _ }) hw

theorem settleSubscribe (id : UInt16) (ev : MqttEvent) (reply : Except MqttClientError Answer)
    (hw : I w) : I (w.settleSubscribe id ev reply) :=
  h.settle (fun p => { Pending.Within.refl p with subscribe := entries_erase_subset _ _ }) hw

theorem settleUnsubscribe (id : UInt16) (ev : MqttEvent) (reply : Except MqttClientError Answer)
    (hw : I w) : I (w.settleUnsubscribe id ev reply) :=
  h.settle (fun p => { Pending.Within.refl p with unsubscribe := entries_erase_subset _ _ }) hw

theorem settleFailed (kind : OperationKind) (id : Option UInt16) (error : MqttClientError)
    (hw : I w) : I (w.settleFailed kind id error) := by
  unfold TokioClientWorker.settleFailed
  split
  · exact h.failConnect error hw
  · exact h.settlePublish _ _ _ hw
  · exact h.settleSubscribe _ _ _ hw
  · exact h.settleUnsubscribe _ _ _ hw
  · exact hw

theorem pingEvent (hw : I w) : I w.pingEvent :=
  h.fewer (h.answerAll _ _ _ hw) { Pending.Within.refl _ with ping := List.nil_subset _ }

theorem connectedEvent (result : ConnectionResult)
    (greeted : ∀ {w : TokioClientWorker T}, I w → I { w with state := .connected result })
    (hw : I w) : I (w.connectedEvent result) :=
  h.fewer (greeted (h.answerAll _ _ _ hw))
    { Pending.Within.refl _ with connect := List.nil_subset _ }

end Settling

/-! ## Events of the engine -/

/-- What the events that end a connection or make one rest on. -/
structure Turning (B : Build) (env : Environment T) (I : TokioClientWorker T → Prop) : Prop where
  lost : ∀ reason : Option UInt8, Eff.Respects I (recordConnectionLost B env reason)
  greeted : ∀ {w : TokioClientWorker T} {result : ConnectionResult}, I w →
    I { w with state := .connected result }

section Events

variable {I : TokioClientWorker T → Prop} (h : Settling I)
  (reconnects : Eff.Respects I (reconnectEvent B env))

include h reconnects

theorem Settling.dispatchEvent (ev : MqttEvent) (next : Option MqttEvent)
    (turns : ev.turning = true → Turning B env I) : Eff.Respects I (dispatchEvent B env ev next) := by
  have hlost (hturn : ev.turning = true) (reason : Option UInt8)
      (batch : List TokioMqttEvent → List TokioMqttEvent) :
      Eff.Respects I (do return batch (← recordConnectionLost B env reason)) :=
    .bind ((turns hturn).lost reason) fun _ => .pure _
  cases ev with
  | connected result =>
    exact .bind (.update fun _ hw => h.connectedEvent result (turns rfl).greeted hw) fun _ =>
      .ite (.pure _) (hlost rfl _ _)
  | disconnected reason => exact .read_bind fun _ _ => .ite (.pure _) ((turns rfl).lost reason)
  | disconnectReceived reasonCode properties => exact hlost rfl _ _
  | published result =>
    refine .bind (.update fun w hw => ?_) fun _ => .pure _
    cases result.packetId with
    | none => exact hw
    | some id => exact h.settlePublish _ _ _ hw
  | subscribed result => exact .bind (.update fun _ hw => h.settleSubscribe _ _ _ hw) fun _ => .pure _
  | unsubscribed result =>
    exact .bind (.update fun _ hw => h.settleUnsubscribe _ _ _ hw) fun _ => .pure _
  | messageReceived message => exact .pure _
  | pubRelReceived packetId stream => exact .pure _
  | pingResponse => exact .bind (.update fun _ hw => h.pingEvent hw) fun _ => .pure _
  | authReceived result => exact .pure _
  | operationFailed operation packetId error =>
    refine .bind (.update fun _ hw => h.settleFailed _ _ _ hw) fun _ => ?_
    by_cases hconnect : operation = .connect
    · rw [if_pos hconnect]
      exact hlost (decide_eq_true hconnect) _ _
    · rw [if_neg hconnect]
      exact .pure _
  | error error =>
    refine .bind (.update fun w hw => ?_) fun _ => .pure _
    split
    · exact h.failConnect error hw
    · exact hw
  | reconnectNeeded => exact .bind reconnects fun _ => .pure _
  | reconnectScheduled attempt delay => exact .read_bind fun _ _ => .pure _
  | publishReceived packetId stream =>
    unfold TokioClientWorker.dispatchEvent
    dsimp only
    split <;> exact .pure _

theorem Settling.dispatchLoop : ∀ (events : List MqttEvent)
    (_ : ∀ ev ∈ events, ev.turning = true → Turning B env I), Eff.Respects I (dispatchLoop B env events)
  | [], _ => .pure _
  | ev :: events, turns =>
    .bind (h.dispatchEvent reconnects ev _ (turns ev List.mem_cons_self)) fun _ =>
      .bind (dispatchLoop events fun ev hev => turns ev (List.mem_cons_of_mem _ hev)) fun _ => .pure _

end Events

/-! ## Callbacks -/

/-- What telling the application rests on: it may publish meanwhile. -/
structure Emitting (B : Build) (env : Environment T) (I : TokioClientWorker T → Prop) : Prop
    extends Settling I where
  publish : ∀ command : PublishCommand, Eff.Respects I (TokioClientWorker.publish B env command)

namespace Emitting

variable {I : TokioClientWorker T → Prop} (h : Emitting B env I)

include h

theorem admitRequest (request : PublishAdmission) :
    Eff.Respects I (admitRequest B env request : Eff (TokioClientWorker T) ε Unit) :=
  .bind (.attempt (h.publish _)) fun _ => .update fun _ hw => h.note _ hw

theorem deliverBatch (batch : List TokioMqttEvent) :
    Eff.Respects I (deliverBatch B env batch : Eff (TokioClientWorker T) ε Unit) := by
  have hserve (request : PublishAdmission) : Eff.Respects I (do
      Eff.update (fun w => { w with admissionNeedsDrain := true })
      TokioClientWorker.admitRequest B env request : Eff (TokioClientWorker T) ε Unit) :=
    .bind (.update fun _ hw => h.aside hw {}) fun _ =>
      h.admitRequest request
  exact .bind (.update fun _ hw => h.note _ hw) fun _ => .bind h.ask fun m => .read_bind fun _ _ =>
    .onlyWhen (.bind (.forEach hserve _) fun _ =>
      .update fun _ hw => h.aside hw {})

theorem emitBatch (batch : List TokioMqttEvent) :
    Eff.Respects I (emitBatch B env batch : Eff (TokioClientWorker T) ε Unit) :=
  .onlyWhen (h.deliverBatch batch)

theorem emitEvent (ev : TokioMqttEvent) :
    Eff.Respects I (emitEvent B env ev : Eff (TokioClientWorker T) ε Unit) := h.emitBatch [ev]

theorem attach (attached : ∀ {w : TokioClientWorker T} {n : Nat}, I w → I { w with stream := some n })
    (calls : ∀ action, Eff.Respects I (engineCall B env action)) (attempt : Nat)
    (result : Except MqttClientError Unit) : Eff.Respects I (attach B env attempt result) := by
  refine .bind (.lift _) fun _ => .read_bind fun _ _ => .bind (.onlyWhen (.bind h.ask fun m => ?_))
    fun _ => .bind (.update fun _ hw => attached hw) fun _ => .bind (calls _) fun _ =>
      .bind (calls _) fun _ => .pure _
  cases m.io with
  | failed message => exact h.emitEvent _
  | done => exact .pure _
  | stalled => exact .pure _

end Emitting

/-! ## The end of a turn -/

/-- What dispatching and writing rest on. -/
structure Draining (B : Build) (env : Environment T) (I : TokioClientWorker T → Prop) : Prop
    extends Emitting B env I, Turning B env I where
  attempted : ∀ {w : TokioClientWorker T}, w.state = .disconnected → w.stream = none → I w →
    I w.createTransport
  flagged : ∀ {w : TokioClientWorker T} {failed : Bool}, I w →
    I { w with admissionTransportFailed := failed }
  outgoing : ∀ now : T, Eff.Respects I (onEngine (MqttEngine.call B (.host now .takeOutgoing)))
  events : Eff.Respects I (onEngine (MqttEngine.call B .takeEvents))

theorem reconnectEvent_respects {I : TokioClientWorker T → Prop} (turns : Turning B env I)
    (attempted : ∀ {w : TokioClientWorker T}, w.state = .disconnected → w.stream = none → I w →
      I w.createTransport) : Eff.Respects I (reconnectEvent B env) := by
  intro w hw
  refine Reaches.read_bind (.ite (fun _ => .stay hw) fun _ => .ite (fun _ => turns.lost none w hw)
    fun hstream => ?_)
  have hnone : w.stream = none := Option.not_isSome_iff_eq_none.mp hstream
  refine .bind (Q := fun _ => I) (.onlyWhen (fun hdown => ?_) fun _ => ?_) (fun _ _ hw => .stay hw)
    fun _ _ hw => hw
  · exact .stay (attempted hdown hnone hw)
  · exact .stay hw

namespace Draining

variable {I : TokioClientWorker T → Prop} (h : Draining B env I)

include h

theorem dispatchEvents (events : List MqttEvent) : Eff.Respects I (dispatchEvents B env events) :=
  .onlyWhen (.bind (h.dispatchLoop (reconnectEvent_respects h.toTurning h.attempted) events
    fun _ _ _ => h.toTurning) fun _ => h.emitBatch _)

theorem transportFailed (error : MqttClientError) : Eff.Respects I (transportFailed B env error) :=
  .bind (h.lost none) fun _ => .bind (.update fun _ hw => h.flagged hw) fun _ => h.emitBatch _

theorem writeOutput : Eff.Respects I (writeOutput B env) :=
  .bind (.bind h.ask fun _ => h.outgoing _) fun _ => .onlyWhen (.bind (.ask _) fun _ =>
    .read_bind fun _ _ => .bind h.ask fun _ => .lift _)

theorem takeEvents : Eff.Respects I (takeEvents B) := .bind h.events fun _ => .pure _

theorem handleOutgoing : Eff.Respects I (handleOutgoing B env) :=
  .bind (.update fun _ hw => h.aside hw {}) fun _ =>
    .bind (.attempt h.writeOutput) fun _ => .bind (.update fun _ hw => h.flagged hw) fun _ =>
      .bind h.takeEvents fun events => .bind (h.dispatchEvents events) fun _ => .lift _

theorem finishTurn : Eff.Respects I (finishTurn B env) := by
  refine .bind (.attempt h.handleOutgoing) fun result => ?_
  cases result with
  | ok _ => exact .pure _
  | error error => exact h.transportFailed error

end Draining

theorem Settling.reporting {I : TokioClientWorker T → Prop} (h : Settling I)
    {m : Eff (TokioClientWorker T) MqttClientError Unit} (ticket : Option Ticket)
    (hm : Eff.Respects I m) : Eff.Respects I (reporting ticket m) := by
  refine .bind hm.attempt fun result => .bind (.update fun w hw => ?_) fun _ => .lift _
  cases ticket with
  | none => exact hw
  | some ticket => exact h.note _ hw

theorem Settling.closeAdmissions {I : TokioClientWorker T → Prop} (h : Settling I) :
    Eff.Respects I (closeAdmissions env) := by
  refine .bind h.ask fun m => .update fun w hw => ?_
  exact h.answerAll _ _ _ (w := { w with admissionOpen := false })
    (h.aside hw {})

/-- A command that is not handled by the loop itself. -/
theorem handleBranch_command {command : Command} (h : command ≠ .shutdown) :
    handleBranch B env (.command (some command)) = handleCommand B env command := by
  cases command <;> first | rfl | exact absurd rfl h

/-! ## No error leaves a turn -/

theorem total_admitRequest (request : PublishAdmission) :
    Eff.Total (admitRequest B env request : Eff (TokioClientWorker T) ε Unit) :=
  .bind (.attempt _) fun _ => .update _

theorem total_emitBatch (batch : List TokioMqttEvent) :
    Eff.Total (emitBatch B env batch : Eff (TokioClientWorker T) ε Unit) :=
  .onlyWhen (.bind (.update _) fun _ => .bind total_ask fun _ => .bind .read fun _ =>
    .onlyWhen (.bind (.forEach (fun request => .bind (.update _) fun _ => total_admitRequest request) _) fun _ =>
      .update _))

theorem total_emitEvent (ev : TokioMqttEvent) :
    Eff.Total (emitEvent B env ev : Eff (TokioClientWorker T) ε Unit) := total_emitBatch [ev]

theorem total_recordConnectionLost (reason : Option UInt8) :
    Eff.Total (recordConnectionLost B env reason : Eff (TokioClientWorker T) _ _) := by
  have habandon : Eff.Total (abandon : Eff (TokioClientWorker T) MqttClientError Unit) :=
    .bind .read fun _ => .ite (.update _) (.bind (.zoom total_nextTickAt) fun _ => .onlyWhen (.update _))
  exact .bind .read fun _ => .ite (.pure _) (.bind (.update _) fun _ => .bind total_connectionLost fun _ =>
    .bind (.update _) fun _ => .bind habandon fun _ => .pure _)

theorem total_transportFailed (error : MqttClientError) :
    Eff.Total (transportFailed B env error : Eff (TokioClientWorker T) _ _) :=
  .bind (total_recordConnectionLost none) fun _ => .bind (.update _) fun _ => total_emitBatch _

theorem total_dispatchEvent (ev : MqttEvent) (next : Option MqttEvent) :
    Eff.Total (dispatchEvent B env ev next : Eff (TokioClientWorker T) _ _) := by
  have hlost (reason : Option UInt8) (batch : List TokioMqttEvent → List TokioMqttEvent) :
      Eff.Total (do return batch (← recordConnectionLost B env reason) :
        Eff (TokioClientWorker T) MqttClientError _) :=
    .bind (total_recordConnectionLost reason) fun _ => .pure _
  cases ev with
  | connected result => exact .bind (.update _) fun _ => .ite (.pure _) (hlost _ _)
  | disconnected reason =>
    exact .bind .read fun _ => .ite (.pure _) (total_recordConnectionLost reason)
  | disconnectReceived reasonCode properties => exact hlost _ _
  | published result => exact .bind (.update _) fun _ => .pure _
  | subscribed result => exact .bind (.update _) fun _ => .pure _
  | unsubscribed result => exact .bind (.update _) fun _ => .pure _
  | messageReceived message => exact .pure _
  | pubRelReceived packetId stream => exact .pure _
  | pingResponse => exact .bind (.update _) fun _ => .pure _
  | authReceived result => exact .pure _
  | operationFailed operation packetId error =>
    exact .bind (.update _) fun _ => .ite (hlost _ _) (.pure _)
  | error error => exact .bind (.update _) fun _ => .pure _
  | reconnectNeeded =>
    exact .bind (.bind .read fun _ => .ite (.pure _) (.ite (total_recordConnectionLost none)
      (.bind (.onlyWhen (.update _)) fun _ => .pure _))) fun _ => .pure _
  | reconnectScheduled attempt delay => exact .bind .read fun _ => .pure _
  | publishReceived packetId stream =>
    unfold TokioClientWorker.dispatchEvent
    dsimp only
    split <;> exact .pure _

theorem total_dispatchLoop : ∀ events : List MqttEvent,
    Eff.Total (dispatchLoop B env events : Eff (TokioClientWorker T) _ _)
  | [] => .pure _
  | ev :: events =>
    .bind (total_dispatchEvent ev _) fun _ => .bind (total_dispatchLoop events) fun _ => .pure _

theorem total_dispatchEvents (events : List MqttEvent) :
    Eff.Total (dispatchEvents B env events : Eff (TokioClientWorker T) _ _) :=
  .onlyWhen (.bind (total_dispatchLoop events) fun _ => total_emitBatch _)

theorem total_handleCommand (command : Command) :
    Eff.Total (handleCommand B env command : Eff (TokioClientWorker T) _ _) := by
  refine .bind (.attempt _) fun result => ?_
  cases result with
  | ok _ => exact .pure _
  | error error => exact total_emitEvent _

theorem total_shutdown : Eff.Total (shutdown B env : Eff (TokioClientWorker T) _ _) := by
  refine .bind (.bind total_ask fun _ => .update _) fun _ => .bind (.attempt _) fun result => ?_
  cases result with
  | ok _ => exact .update _
  | error error =>
    exact .bind (total_setReconnect _) fun _ => .bind (.update _) fun _ => .bind .read fun _ =>
      .bind (.onlyWhen (total_emitEvent _)) fun _ => .update _

theorem total_handleConnected (result : Except MqttClientError Unit) :
    Eff.Total (handleConnected B env result : Eff (TokioClientWorker T) _ _) := by
  refine .bind .read fun _ => .bind (.update _) fun _ => .bind (.attempt _) fun result => ?_
  cases result with
  | ok _ => exact .pure _
  | error error => exact .bind (.update _) fun _ => total_transportFailed error

theorem total_handleRead (result : Except String Bytes) :
    Eff.Total (handleRead B env result : Eff (TokioClientWorker T) _ _) := by
  rcases result with message | _ | ⟨byte, bytes⟩
  · exact total_transportFailed _
  · exact total_transportFailed _
  · exact .bind (total_engineCall fun _ => .pure _) fun _ => total_dispatchEvents _

/-- Whatever woke the loop, its handling ends without an error. -/
theorem total_handleBranch (branch : Branch) :
    Eff.Total (handleBranch B env branch : Eff (TokioClientWorker T) _ _) := by
  cases branch with
  | command command =>
    cases command with
    | none => exact total_shutdown
    | some command =>
      by_cases hshutdown : command = .shutdown
      · subst hshutdown
        exact total_shutdown
      · rw [handleBranch_command hshutdown]
        exact total_handleCommand command
  | admission request =>
    cases request with
    | none => exact .update _
    | some request => exact total_admitRequest request
  | connected result => exact total_handleConnected result
  | read result => exact total_handleRead result
  | tick => exact .bind (total_engineCall fun _ => .pure _) fun _ => total_dispatchEvents _
  | drain => exact .pure _
  | cancelled => exact .pure _

/-! ## The start of a turn -/

/-- The state in which the loop waits. -/
def prepared (env : Environment T) (w : TokioClientWorker T) : TokioClientWorker T :=
  ({ w with turn := w.turn + 1 } : TokioClientWorker T).prune (env w.turn).closed

theorem Settling.prepared {I : TokioClientWorker T → Prop} (h : Settling I) (hw : I w) :
    I (w.prepared env) :=
  h.prune (w := { w with turn := w.turn + 1 }) _
    (h.aside hw {})

/-- What a turn does once the loop is woken. -/
theorem iterate_ends {branch : Branch} {I J : TokioClientWorker T → Prop}
    (hbranch : Ends (handleBranch B env branch (w.prepared env)) (fun _ => I))
    (hstopped : ∀ w, I w → w.stopped = true → J w) (hfinish : ∀ w, I w → Ends (finishTurn B env w) (fun _ => J)) :
    Ends (iterate B env branch w) (fun _ => J) := by
  have hask : (ask env : Eff _ MqttClientError _) w =
      .done (.ok (env w.turn)) { w with turn := w.turn + 1 } := rfl
  unfold iterate
  rw [Eff.bind_of_ok hask]
  refine Reaches.update_bind ?_
  have htick : Ends (onEngine (MqttEngine.nextTickAt : Eff _ MqttClientError _) (w.prepared env))
      (fun _ w₁ => w₁ = w.prepared env) :=
    Eff.Ends.zoom (nextTickAt_keeps _) fun _ e he => by rw [he]
  refine .bind_total htick (.zoom total_nextTickAt) ?_
  rintro next _ rfl
  refine .bind_total hbranch (total_handleBranch branch) fun _ w₁ h₁ => Reaches.read_bind ?_
  exact .onlyWhen (fun _ => hfinish w₁ h₁) fun hgoing =>
    .stay (hstopped w₁ h₁ (Bool.eq_true_of_not_eq_false hgoing))

end TokioClientWorker

end FlowSdk
