/-
  FlowSdk.Tokio.Waiters — who still waits when no connection will come.

  A worker that is disconnected and does not reconnect can only be helped by another command.
  The reading that nobody waits in that state is false: `subscribe` and `unsubscribe` of the
  engine do not ask for a connection, and a publication may be buffered, so a caller is
  registered in that state as in any other. The SUBSCRIBE is then taken from the engine, there
  is no transport to write it to, and the failure of the write changes nothing because the
  worker is disconnected already (`subscriber_waits`).

  Every way into that state answers all callers, so nobody waits there as long as no operation
  with an answer is started there.

  Main results:
    1. `answered_recordConnectionLost`   the end of a connection
    2. `answered_iterate`                a turn of the loop
    3. `waiters_answered`                runs without such operations leave nobody waiting
-/
import FlowSdk.Tokio.Parts

set_option linter.unusedSectionVars false

namespace FlowSdk

open Machine Tokio

variable {T : Type} [TimePoint T] {ε : Type} {B : Build} {env : Environment T}

namespace TokioClientWorker

/-- The worker is disconnected and will not connect by itself. -/
def Stranded (w : TokioClientWorker T) : Prop := w.state = .disconnected ∧ w.ReconnectOff

instance (w : TokioClientWorker T) : Decidable w.Stranded := inferInstanceAs (Decidable (_ ∧ _))

/-- Nobody waits in a stranded worker. -/
def Answered (w : TokioClientWorker T) : Prop := w.Stranded → w.pending = .default

variable {w w' : TokioClientWorker T}

theorem Aside.stranded (h : w.Aside w') : w'.Stranded ↔ w.Stranded := by
  unfold Stranded ReconnectOff
  rw [h.state, h.config, h.intentionalStop]

theorem answered_of_moving (h : ¬ w.Stranded) : w.Answered := fun hstranded => absurd hstranded h

theorem answered_failAll (error : MqttClientError) (w : TokioClientWorker T) :
    Answered (w.failAll error) := fun _ => failAll_pending error w

theorem answered_fewer {p : Pending} (h : w.Answered) (hwithin : p.Within w.pending) :
    Answered { w with pending := p } := by
  intro hstranded
  have hpending : w.pending = .default := h hstranded
  rw [hpending] at hwithin
  exact Pending.within_default hwithin

theorem settling_answered : Settling (Answered : TokioClientWorker T → Prop) where
  aside h haside hstranded := haside.pending.trans (h (haside.stranded.mp hstranded))
  fewer h hwithin := answered_fewer h hwithin

theorem inert_answered : Inert (Answered : TokioClientWorker T → Prop) := fun _ _ _ h => h

theorem inert_moving : Inert (fun w : TokioClientWorker T => ¬ w.Stranded) := fun _ _ _ h => h

theorem inert_vacant : Inert (fun w : TokioClientWorker T => w.pending = .default) := fun _ _ _ h => h

/-! ## The end of a connection -/

theorem answered_abandon (w : TokioClientWorker T) :
    Ends ((abandon : Eff _ ε _) w) (fun _ => Answered) := by
  refine Reaches.read_bind (.ite (fun _ => .stay (answered_failAll _ w)) fun hon => ?_)
  have hmoving : ¬ w.Stranded := fun h => hon h.2
  refine .bind (inert_moving.onEngine _ w hmoving) (fun next w₁ h₁ => ?_)
    fun _ _ h => answered_of_moving h
  exact .onlyWhen (fun _ => .stay (answered_failAll _ w₁)) fun _ => .stay (answered_of_moving h₁)

/-- Callers that wait for a connection or a ping are told in any case, the others if there is
nothing to come. -/
theorem answered_recordConnectionLost (reason : Option UInt8) :
    Eff.Respects (Answered (T := T)) (recordConnectionLost B env reason) := by
  intro w h
  refine Reaches.read_bind (.ite (fun _ => .stay h) fun _ => Reaches.update_bind ?_)
  refine .bind_total (Reaches.ends_any _) total_connectionLost fun _ w₁ _ => Reaches.update_bind ?_
  exact .bind (answered_abandon _) (fun _ _ h => .stay h) fun _ _ h => h

theorem draining_answered : Draining B env (Answered (T := T)) where
  toSettling := settling_answered
  publish := inert_answered.publish
  lost := answered_recordConnectionLost
  greeted _ := answered_of_moving fun h => nomatch h.1
  attempted _ _ _ := answered_of_moving fun h => nomatch h.1
  flagged h := h
  outgoing _ := inert_answered.onEngine _
  events := inert_answered.onEngine _

/-! ## Commands -/

theorem moving_startConnect (w : TokioClientWorker T) :
    Ends (startConnect B w) (fun _ w' => w'.state ≠ .disconnected) := by
  refine Reaches.read_bind (.onlyWhen (fun _ => Reaches.update_bind ?_) fun hup => .stay hup)
  refine .bind_total (Reaches.ends_any _) (total_setReconnect _) fun _ w₁ _ => ?_
  exact .bind_total (Reaches.ends_any _) total_resetReconnectState fun _ w₂ _ => .stay nofun

theorem answered_connectSync (ticket : Ticket) :
    Eff.Respects (Answered (T := T)) (connectSync B ticket) := by
  intro w h
  have hstart (w : TokioClientWorker T) : Ends (startConnect B w) (fun _ => Answered) :=
    (moving_startConnect w).weaken fun _ _ hup => answered_of_moving fun h => hup h.1
  unfold connectSync
  refine Reaches.read_bind ?_
  cases w.state with
  | connected result => exact .stay (settling_answered.note _ h)
  | disconnected => exact Reaches.update_bind (hstart _)
  | connecting => exact Reaches.update_bind (hstart _)
  | disconnecting => exact Reaches.update_bind (hstart _)

/-- A caller may be registered in a worker that is not stranded. -/
theorem answered_register {kind : OperationKind} {insert : UInt16 → Ticket → Pending → Pending}
    {ticket : Ticket} {none_ : Answer} (result : Except MqttClientError (Option UInt16))
    (h : ¬ w.Stranded) :
    Ends (register B env kind insert ticket none_ result w) (fun _ => Answered) := by
  rcases result with error | _ | id
  · exact Reaches.update_bind (draining_answered.emitEvent _ _ (answered_of_moving h))
  · exact .stay (answered_of_moving h)
  · exact .stay (answered_of_moving h)

theorem answered_pingSync (ticket : Ticket) (h : w.Answered)
    (hclosed : w.Stranded → w.engine.isConnected = false) :
    Ends (pingSync B env ticket w) (fun _ => Answered) := by
  refine Reaches.read_bind (.ite (fun _ => ?_) fun hwaiting => ?_)
  · by_cases hstranded : w.Stranded
    · have hrefused : ping B env w = .done (.error .notConnected) w := by
        refine Eff.bind_of_error ?_
        rw [Eff.ask_run, hclosed hstranded]
        rfl
      rw [Eff.bind_of_ok (Eff.attempt_of_done hrefused)]
      exact Reaches.update_bind (draining_answered.emitEvent _ _ (settling_answered.note _ h))
    · refine .attempt_bind (inert_moving.ping w hstranded) fun result w₁ h₁ => ?_
      cases result with
      | error error => exact Reaches.update_bind (draining_answered.emitEvent _ _ (answered_of_moving h₁))
      | ok _ => exact .stay (answered_of_moving h₁)
  · refine .stay (answered_of_moving fun hstranded => hwaiting ?_)
    have hpending : w.pending = .default := h hstranded
    rw [hpending]
    rfl

theorem answered_setAutoReconnect (enabled : Bool) :
    Eff.Respects (Answered (T := T)) (setAutoReconnect B env enabled) := by
  intro w h
  refine Reaches.update_bind (Reaches.read_bind ?_)
  let w₁ : TokioClientWorker T := { w with config.autoReconnect := enabled }
  by_cases hfail : enabled = false ∧ w₁.state = .disconnected
  · refine .bind_total (Reaches.ends_any _) (total_setReconnect _) fun _ w₂ _ => ?_
    exact .ite (fun _ => .stay (answered_failAll _ w₂)) fun hnot => absurd hfail hnot
  · have h₁ : w₁.Answered := by
      rintro ⟨hdown, hoff⟩
      have henabled : enabled = true := by
        rw [← Bool.not_eq_false]
        exact fun henabled => hfail ⟨henabled, hdown⟩
      refine h ⟨hdown, .inr ?_⟩
      rcases hoff with hoff | hoff
      · exact absurd (henabled.symm.trans hoff) nofun
      · exact hoff
    refine .bind (inert_answered.onEngine _ w₁ h₁) (fun _ w₂ h₂ => ?_) fun _ _ h => h
    refine .ite (fun hnow => absurd hnow hfail) fun _ => ?_
    exact (Eff.Respects.onlyWhen (.bind (inert_answered.engineCall _) fun _ => .pure _)) w₂ h₂

/-- Between the failing of all callers and the end, nobody is registered. -/
theorem answered_disconnect (reason : UInt8) (properties : Properties) :
    Eff.Respects (Answered (T := T)) (disconnect B env reason properties) := by
  let vacant : TokioClientWorker T → Prop := fun w => w.pending = .default
  have hclose : Eff.Respects vacant (closeStream env : Eff (TokioClientWorker T) _ _) :=
    .read_bind fun _ _ => .onlyWhen (.bind (.update fun _ h => h) fun _ =>
      .bind inert_vacant.ask fun _ => .lift _)
  have hanswered {w : TokioClientWorker T} (h : vacant w) : w.Answered := fun _ => h
  intro w h
  refine .bind (inert_answered.engineCall _ w h) (fun _ w₁ _ => ?_) fun _ _ h => h
  refine Reaches.read_bind (Reaches.update_bind ?_)
  refine .bind_total (Reaches.ends_any _) (total_setReconnect _) fun _ w₂ _ => ?_
  have hvacant : vacant ({ w₂ with connecting := none }.failAll (.operationCancelled "disconnect")) :=
    failAll_pending _ _
  refine .bind (Q := fun _ => vacant) (.stay hvacant) (fun _ w₃ h₃ => ?_) fun _ _ h => hanswered h
  refine .bind (inert_vacant.writeOutput.attempt w₃ h₃) (fun write w₄ h₄ => ?_)
    fun _ _ h => hanswered h
  refine .bind (hclose.attempt w₄ h₄) (fun close w₅ h₅ => ?_) fun _ _ h => hanswered h
  refine .bind (inert_vacant.engineCall _ w₅ h₅) (fun _ w₆ h₆ => ?_) fun _ _ h => hanswered h
  refine Reaches.update_bind ?_
  have hend : Eff.Respects (Answered (T := T)) (do
      Eff.onlyWhen (w₁.state ≠ .disconnected) (emitEvent B env (disconnectedBy reason))
      Eff.lift write
      Eff.lift close) :=
    .bind (.onlyWhen (draining_answered.emitEvent _)) fun _ => .bind (.lift _) fun _ => .lift _
  exact hend _ (hanswered h₆)

theorem answered_sendPacket (packet : MqttPacket) :
    Eff.Respects (Answered (T := T)) (sendPacket B env packet) := by
  unfold sendPacket
  split
  iterate 6 · exact inert_answered.acknowledge _ _ _ _
  iterate 2 · exact answered_disconnect _ _
  · exact inert_answered.auth _ _
  · exact .bind (inert_answered.engineCall _) fun _ => .pure _

end TokioClientWorker

namespace Tokio

/-- An operation with an identifier that a caller waits for. -/
def Command.operates : Command → Bool
  | .publishSync _ _ | .subscribeSync _ _ | .unsubscribeSync _ _ => true
  | _ => false

/-- A ping that a caller waits for. -/
def Command.pings : Command → Bool
  | .pingSync _ => true
  | _ => false

end Tokio

namespace TokioClientWorker

variable {w w' : TokioClientWorker T}

/-- No operation with an answer is started in a stranded worker; a ping is refused there, unless
the engine thinks that it is connected. -/
def Unasked (w : TokioClientWorker T) (branch : Branch) : Prop :=
  ∀ command, branch = .command (some command) → w.Stranded →
    command.operates = false ∧ (command.pings = true → w.engine.isConnected = false)

instance (w : TokioClientWorker T) : (branch : Branch) → Decidable (w.Unasked branch)
  | .command (some command) =>
    decidable_of_iff (w.Stranded →
        command.operates = false ∧ (command.pings = true → w.engine.isConnected = false))
      ⟨fun h _ heq => by cases heq; exact h, fun h => h command rfl⟩
  | .command none | .admission _ | .connected _ | .read _ | .tick | .drain | .cancelled =>
    isTrue fun _ heq => nomatch heq

theorem answered_runCommand (command : Command) (h : w.Answered)
    (hunasked : w.Unasked (.command (some command))) :
    Ends (runCommand B env command w) (fun _ => Answered) := by
  have hmoving (hop : command.operates = true) : ¬ w.Stranded := fun hstranded =>
    absurd (hop.symm.trans (hunasked command rfl hstranded).1) nofun
  cases command with
  | connect =>
    refine (moving_startConnect w).weaken fun _ _ hup => answered_of_moving fun h => hup h.1
  | connectSync ticket => exact answered_connectSync ticket w h
  | publish command =>
    exact (Eff.Respects.bind (inert_answered.publish command) fun _ => .pure _) w h
  | publishSync command ticket =>
    refine .attempt_bind (inert_moving.publish command w (hmoving rfl)) fun result w₁ h₁ => ?_
    exact answered_register result h₁
  | subscribe command =>
    exact (Eff.Respects.bind (inert_answered.subscribe command) fun _ => .pure _) w h
  | subscribeSync command ticket =>
    refine .bind (inert_moving.ask w (hmoving rfl)) (fun m w₁ h₁ => ?_) fun _ _ h => answered_of_moving h
    refine .ite (fun _ => .stay (answered_of_moving h₁)) fun _ => ?_
    refine .attempt_bind (inert_moving.subscribe command w₁ h₁) fun result w₂ h₂ => ?_
    exact answered_register result h₂
  | unsubscribe command =>
    exact (Eff.Respects.bind (inert_answered.unsubscribe command) fun _ => .pure _) w h
  | unsubscribeSync command ticket =>
    refine .attempt_bind (inert_moving.unsubscribe command w (hmoving rfl)) fun result w₁ h₁ => ?_
    exact answered_register result h₁
  | ping => exact inert_answered.ping w h
  | pingSync ticket =>
    exact answered_pingSync ticket h fun hstranded => (hunasked _ rfl hstranded).2 rfl
  | disconnect reason properties ticket =>
    exact settling_answered.reporting ticket (answered_disconnect reason properties) w h
  | acknowledge kind id reason properties ticket =>
    exact settling_answered.reporting _ (inert_answered.acknowledge kind id reason properties) w h
  | shutdown => exact .stay h
  | setAutoReconnect enabled => exact answered_setAutoReconnect enabled w h
  | auth reasonCode properties => exact inert_answered.auth reasonCode properties w h
  | sendPacket packet => exact answered_sendPacket packet w h

theorem answered_handleCommand (command : Command) (h : w.Answered)
    (hunasked : w.Unasked (.command (some command))) :
    Ends (handleCommand B env command w) (fun _ => Answered) := by
  refine .attempt_bind (answered_runCommand command h hunasked) fun result w₁ h₁ => ?_
  cases result with
  | ok _ => exact .stay h₁
  | error error => exact draining_answered.emitEvent _ w₁ h₁

/-! ## The loop -/

theorem answered_shutdown : Eff.Respects (Answered (T := T)) (shutdown B env) := by
  refine .bind settling_answered.closeAdmissions fun _ => .bind (answered_disconnect 0 []).attempt fun result => ?_
  cases result with
  | ok _ => exact .update fun _ h => h
  | error error =>
    exact .bind (inert_answered.onEngine _) fun _ => .bind (.update fun w _ => answered_failAll _ _)
      fun _ => .read_bind fun _ _ => .bind (.onlyWhen (draining_answered.emitEvent _)) fun _ =>
        .update fun _ h => h

theorem answered_handleConnected (result : Except MqttClientError Unit) :
    Eff.Respects (Answered (T := T)) (handleConnected B env result) := by
  refine .read_bind fun w _ => .bind (.update fun _ h => h) fun _ => ?_
  refine .bind (draining_answered.attach id inert_answered.engineCall _ result).attempt fun result => ?_
  cases result with
  | ok _ => exact .pure _
  | error error =>
    exact .bind (.update fun _ h => settling_answered.failConnect error h) fun _ =>
      draining_answered.transportFailed error

theorem answered_handleRead (result : Except String Bytes) :
    Eff.Respects (Answered (T := T)) (handleRead B env result) := by
  rcases result with message | _ | ⟨byte, bytes⟩
  · exact draining_answered.transportFailed _
  · exact draining_answered.transportFailed _
  · exact .bind (inert_answered.engineCall _) fun _ => draining_answered.dispatchEvents _

theorem answered_handleBranch (branch : Branch) (h : w.Answered) (hunasked : w.Unasked branch) :
    Ends (handleBranch B env branch w) (fun _ => Answered) := by
  cases branch with
  | command command =>
    cases command with
    | none => exact answered_shutdown w h
    | some command =>
      by_cases hshutdown : command = .shutdown
      · subst hshutdown
        exact answered_shutdown w h
      · rw [handleBranch_command hshutdown]
        exact answered_handleCommand command h hunasked
  | admission request =>
    cases request with
    | none => exact .stay h
    | some request => exact draining_answered.admitRequest request w h
  | connected result => exact answered_handleConnected result w h
  | read result => exact answered_handleRead result w h
  | tick =>
    exact (Eff.Respects.bind (inert_answered.engineCall _) fun _ =>
      draining_answered.dispatchEvents _) w h
  | drain => exact .stay h
  | cancelled => exact .stay h

/-- One turn of the loop leaves nobody waiting in a stranded worker. -/
theorem answered_iterate (branch : Branch) (h : w.Answered) (hunasked : w.Unasked branch) :
    Ends (iterate B env branch w) (fun _ => Answered) := by
  refine iterate_ends (I := Answered) ?_ (fun _ h _ => h) draining_answered.finishTurn
  exact answered_handleBranch branch (settling_answered.prepared h) hunasked

theorem Run.answered {options : MqttClientOptions} {config : TokioAsyncClientConfig} {created : T}
    (run : Run B env Unasked (new options config created) w) : w.Answered := by
  induction run with
  | start => exact fun _ => rfl
  | turn _ _ _ permitted returns ih => exact (answered_iterate _ ih permitted).result returns

/-- In a run in which no operation with an answer is started while the worker is disconnected
and does not reconnect, nobody waits in such a state. -/
theorem waiters_answered {options : MqttClientOptions} {config : TokioAsyncClientConfig} {created : T}
    (run : Run B env Unasked (new options config created) w) (hdown : w.state = .disconnected)
    (hoff : w.config.autoReconnect = false ∨ w.intentionalStop = true) :
    w.pending.connect = [] ∧ w.pending.publish = ∅ ∧ w.pending.subscribe = ∅ ∧
      w.pending.unsubscribe = ∅ ∧ w.pending.ping = [] := by
  have hpending : w.pending = .default := run.answered ⟨hdown, hoff⟩
  rw [hpending]
  exact ⟨rfl, rfl, rfl, rfl, rfl⟩

/-! ## A subscriber that waits for ever -/

/-- An environment in which nothing fails and no time passes. -/
def calm : Environment Timestamp := fun _ => { now := 0 }

def onceConfig : TokioAsyncClientConfig := { autoReconnect := false }

def onceOptions : MqttClientOptions := (resolveOptions {} onceConfig).toOption.getD {}

/-- A connection is made, acknowledged and closed by the server. -/
def connectedOnce : List Branch :=
  [.command (some .connect), .connected (.ok ()), .read (.ok [0x20, 3, 0, 0, 0]), .read (.ok [])]

def subscribeA : SubscribeCommand := ⟨none, [⟨"a", 0, false, false, 0⟩], []⟩

/-- The subscription comes before the connection is lost: its caller is told. -/
theorem waiters_answered_lost :
    ∃ w, Run (.ordered true) calm Unasked (new onceOptions onceConfig 0) w ∧
      w.state = .disconnected ∧ Note.waiting .subscribe 1 7 ∈ w.notes ∧ w.pending.subscribe = ∅ := by
  let w := follow (.ordered true) calm (new onceOptions onceConfig 0)
    [.command (some .connect), .connected (.ok ()), .read (.ok [0x20, 3, 0, 0, 0]),
      .command (some (.subscribeSync subscribeA 7)), .read (.ok [])]
  have run : Run (.ordered true) calm Unasked (new onceOptions onceConfig 0) w :=
    Run.start.follow (by decide +kernel)
  have hdown : w.state = .disconnected := by decide +kernel
  have hoff : w.config.autoReconnect = false := by decide +kernel
  exact ⟨w, run, hdown, by decide +kernel, (waiters_answered run hdown (.inl hoff)).2.2.1⟩

/-- A caller that subscribes after the connection is lost is registered, and then the worker has
nothing to wait for. -/
theorem subscriber_waits :
    resolveOptions {} onceConfig = .ok onceOptions ∧
      ∃ w, Run (.ordered true) calm (fun _ _ => True) (new onceOptions onceConfig 0) w ∧
        w.state = .disconnected ∧ w.config.autoReconnect = false ∧ nextTick w.engine = none ∧
        w.pending.subscribe.lookup 1 = some 7 := by
  refine ⟨by decide +kernel, follow (.ordered true) calm (new onceOptions onceConfig 0)
    (connectedOnce ++ [.command (some (.subscribeSync subscribeA 7))]), ?_, ?_⟩
  · exact Run.start.follow (by decide +kernel)
  · decide +kernel

end TokioClientWorker

end FlowSdk
