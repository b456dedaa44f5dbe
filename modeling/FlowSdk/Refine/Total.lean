/-
  FlowSdk.Refine.Total — the code of the engine that cannot fail.

  Functions of the source that do not return a `Result` handle every error themselves. Here
  they are polymorphic in the error and run errors of other functions through `attempt`; what
  is left to them is to return or to panic.
-/
import FlowSdk.Client.Session

set_option linter.unusedSectionVars false

namespace FlowSdk

open Machine Wire

variable {T : Type} [TimePoint T] {ε : Type} {B : Build}

namespace MqttEngine

variable (T ε) in
/-- Code that returns or panics. -/
abbrev Infallible {α : Type} (m : Eff (MqttEngine T) ε α) : Prop := Eff.Total m

/-! ## Sending -/

theorem total_deadlineFrom (start : T) (duration : Nat) :
    Infallible T ε (deadlineFrom start duration) := by
  unfold deadlineFrom
  split
  · exact .pure _
  · exact .halt _

theorem total_startDeadline (operation : OperationKind) (id : Option UInt16) :
    Infallible T ε (startDeadline operation id) := by
  refine .bind .read fun e => ?_
  cases timeoutOf e.options.operationTimeouts operation with
  | none => exact .pure ()
  | some duration => exact .bind (total_deadlineFrom _ _) fun _ => .update _

theorem total_resetForNewTransport :
    Infallible T ε (resetForNewTransportInner B) := by
  refine .bind .read fun e => ?_
  cases queueBytes B (e.priorityQueue.modify Queued.withoutAlias).items with
  | error error => exact .halt _
  | ok bytes => exact .update _

theorem total_scheduleReconnectInner (now : T) :
    Infallible T ε (scheduleReconnectInner now) :=
  .bind .read fun _ => .ite (.pure ()) (.ite (.update _)
    (.bind (total_deadlineFrom _ _) fun _ => .bind (.update _) fun _ => .update _))

theorem total_connectionLostAt (now : T) :
    Infallible T ε (connectionLostAt B now) :=
  .bind .read fun _ => .bind total_resetForNewTransport fun _ => .bind (.update _) fun _ =>
    .onlyWhen (total_scheduleReconnectInner now)

theorem total_failConnection (error : MqttClientError) :
    Infallible T ε (failConnection B error) :=
  .bind (.bind .read fun e => total_connectionLostAt e.now) fun _ => .update _

theorem total_flushLoop : ∀ fuel : Nat, Infallible T ε (flushLoop B fuel)
  | 0 => .pure ()
  | fuel + 1 => by
    unfold flushLoop
    refine .bind .read fun e => ?_
    split
    · exact .pure ()
    · split
      · exact total_failConnection _
      · refine .bind (.attempt _) fun result => ?_
        split
        · exact .bind (.update _) fun _ => total_flushLoop fuel
        · exact .ite (.pure ()) (total_failConnection _)

theorem total_flushResponses : Infallible T ε (flushResponses B) :=
  .bind .read fun _ => total_flushLoop _

theorem total_trackReplayed (id : UInt16) (packet : MqttPacket) :
    Infallible T ε (trackReplayed id packet) := by
  refine .bind .read fun e => ?_
  split
  · exact .update _
  · exact .bind (.update _) fun _ => total_startDeadline _ _

theorem total_replayLoop : ∀ fuel : Nat, Infallible T ε (replayLoop B fuel)
  | 0 => .pure ()
  | fuel + 1 => by
    unfold replayLoop
    refine .bind .read fun e => ?_
    split
    · exact .pure ()
    · refine .ite (.pure ()) (.bind (.attempt _) fun result => ?_)
      split
      · exact .bind (.update _) fun _ => .bind (total_trackReplayed _ _) fun _ =>
          total_replayLoop fuel
      · exact .ite (.pure ()) (.bind (.update _) fun _ => total_replayLoop fuel)

theorem total_processReplay : Infallible T ε (processReplay B) :=
  .bind .read fun _ => .ite (.pure ()) (total_replayLoop _)

theorem total_sendQueued (first : Option Bytes) (priority : UInt8) (item : Queued) :
    Infallible T ε (sendQueued B first priority item) := by
  unfold sendQueued
  split
  · refine .bind .read fun e => ?_
    split
    · exact .update _
    · split
      · exact .halt _
      · exact .bind (.update _) fun _ => .onlyWhen (total_startDeadline _ _)
  · exact .update _

theorem total_drainLoop : ∀ (fuel : Nat) (first : Option Bytes),
    Infallible T ε (drainLoop B fuel first)
  | 0, _ => .pure ()
  | fuel + 1, first => by
    unfold drainLoop
    refine .bind .read fun e => .ite ?_ (.pure ())
    split
    · exact .pure ()
    · exact .ite (.pure ()) (.bind (total_sendQueued _ _ _) fun _ => total_drainLoop fuel none)

theorem total_processQueueWithEncoding (first : Option Bytes) :
    Infallible T ε (processQueueWithEncoding B first) :=
  .bind .read fun _ => .ite (.pure ()) (.bind total_flushResponses fun _ =>
    .bind .read fun _ => .ite (.pure ()) (.bind total_processReplay fun _ =>
      .bind .read fun _ => .ite (.pure ()) (.bind (.update _) fun _ => total_drainLoop _ _)))

/-! ## Receiving -/

theorem total_takeEvents : Infallible T ε takeEvents :=
  .bind .read fun _ => .bind (.update _) fun _ => .pure _

theorem total_noted (events : List MqttEvent) : Infallible T ε (noted events) :=
  .bind (.update _) fun _ => .pure _

/-- Events are reported, and nothing is answered. -/
theorem total_reported {α : Type} (events : List MqttEvent) (f : List MqttEvent → α) :
    Infallible T ε (do let events ← noted events; return f events) :=
  .bind (total_noted _) fun _ => .pure _

theorem total_handleConnectionLostInner :
    Infallible T ε (handleConnectionLostInner B) :=
  .bind .read fun _ => total_connectionLostAt _

theorem total_connectionFailed (error : MqttClientError) :
    Infallible T ε (connectionFailed B error) :=
  .bind (total_failConnection _) fun _ => .bind total_takeEvents fun _ => .pure _

theorem total_acceptIncoming (packetType : ControlPacketType) :
    Infallible T ε (acceptIncoming B packetType) :=
  .bind .read fun _ => .ite (.pure _) (.ite (.pure _) (.bind (total_failConnection _) fun _ => .pure _))

theorem total_receiveMessage (publish : V5.MqttPublish) (stream : Option Nat) :
    Infallible T ε (receiveMessage B publish stream) := by
  refine .bind (.attempt _) fun resolved => ?_
  split
  · exact total_connectionFailed _
  · refine .bind (.attempt _) fun received => ?_
    split
    · exact total_connectionFailed _
    · refine .bind (total_noted _) fun _ => ?_
      split
      · exact .pure _
      · refine .bind (.bind .read fun _ => .ite (.bind (.attempt _) fun result => ?_) (.pure _))
          fun _ => .pure _
        split
        · exact .bind (.update _) fun _ => .pure _
        · exact total_reported _ _

theorem total_pubrelReceived (id : UInt16) (reason : UInt8) (stream : Option Nat) :
    Infallible T ε (pubrelReceived id reason stream) := by
  refine .bind (total_noted _) fun _ => .bind .read fun _ =>
    .ite (.bind (.attempt _) fun result => ?_) (.pure _)
  split
  · exact .halt _
  · exact .bind (.update _) fun _ => .pure _

theorem total_receivePubrel (id : UInt16) (stream : Option Nat) :
    Infallible T ε (receivePubrel B id stream) := by
  refine .ite (total_connectionFailed _) (.bind .read fun e => ?_)
  dsimp only
  split
  · exact .ite (.bind (.update _) fun _ => total_pubrelReceived _ _ _) (total_reported _ _)
  · exact .ite (total_reported _ _) (.bind (.update _) fun _ => total_pubrelReceived _ _ _)

/-! ## CONNACK, AUTH and acknowledgements -/

theorem total_startSession (resumed : Bool) :
    Infallible T ε (startSession B resumed) := by
  refine .ite (.pure _) (.bind (.update _) fun _ => .bind .read fun _ =>
    .ite (.bind (.update _) fun _ => .pure _) (.ite (.pure _) (.bind (.attempt _) fun result => ?_)))
  split
  · exact .pure _
  · exact total_noted _

theorem total_handleConnack (v5 : Bool) (reasonCode : UInt8) (sessionPresent : Bool)
    (properties : Option Properties) :
    Infallible T ε (handleConnack B v5 reasonCode sessionPresent properties) := by
  have hrestore : Infallible T ε (restoreSession B sessionPresent) :=
    .bind .read fun _ => .bind (.update _) fun _ => .bind (total_startSession _) fun _ =>
      .bind total_processReplay fun _ => .pure _
  refine .bind .read fun e => ?_
  split
  · exact total_connectionFailed _
  · refine .bind (.update _) fun _ => .bind (.attempt _) fun result => ?_
    split
    · exact total_connectionFailed _
    · exact .bind (.update _) fun _ => .bind (total_noted _) fun _ => .bind (.update _) fun _ =>
        .ite (.bind hrestore fun _ => .pure _)
          (.bind total_handleConnectionLostInner fun _ => .pure _)

theorem total_authReceived (reasonCode : UInt8) (properties : Properties) :
    Infallible T ε (authReceived B reasonCode properties) :=
  .bind .read fun _ => .ite (.bind (total_failConnection _) fun _ => .pure _)
    (.bind (.update _) fun _ => .pure _)

theorem total_completePublish (ack : MqttPacket) (id : UInt16) (reasonCode : UInt8)
    (properties : Option Properties) :
    Infallible T ε (completePublish ack id reasonCode properties) := by
  refine .bind .read fun e => ?_
  split
  · exact .pure _
  · exact .bind (.update _) fun _ => total_reported _ _

theorem total_completeRequest (id : UInt16) (event : MqttEvent) :
    Infallible T ε (completeRequest id event) :=
  .bind (.update _) fun _ => total_reported _ _

theorem total_releasePublish (id : UInt16) (rel : Response) :
    Infallible T ε (releasePublish id rel) := by
  refine .bind .read fun e => ?_
  split
  · exact .halt _
  · exact .bind (.update _) fun _ => .pure _

theorem total_dispatch (packet : MqttPacket) (stream : Option Nat) :
    Infallible T ε (dispatch B packet stream) := by
  unfold dispatch
  split
  all_goals first
    | exact total_handleConnack _ _ _ _
    | exact total_completePublish _ _ _ _
    | exact total_receiveMessage _ _
    | exact total_completeRequest _ _
    | exact total_releasePublish _ _
    | exact total_receivePubrel _ _
    | exact .ite (total_completePublish _ _ _ _) (total_releasePublish _ _)
    | exact .bind (.update _) fun _ => total_reported _ _
    | exact .bind (total_authReceived _ _) fun _ => total_reported _ _
    | exact .bind total_handleConnectionLostInner fun _ => total_reported _ _
    | exact .pure _

theorem total_handlePacket (packet : MqttPacket) (stream : Option Nat) :
    Infallible T ε (handlePacket B packet stream) := by
  refine .bind (total_acceptIncoming _) fun accepted =>
    .ite (.bind .read fun e => ?_) (.bind total_takeEvents fun _ => .pure _)
  split
  · exact .bind .read fun _ => .ite (total_connectionFailed _) (total_reported _ _)
  · exact total_dispatch _ _

/-! ## The loops -/

theorem total_handleReducedPacket (packet : ParsedPacket) (stream : Option Nat) :
    Infallible T ε (handleReducedPacket B packet stream) := by
  have hping : Infallible T ε pingAnswered :=
    .bind (.update _) fun _ => .pure _
  have hlost (event : MqttEvent) : Infallible T ε (serverDisconnected B event) :=
    .bind total_handleConnectionLostInner fun _ => .pure _
  refine .bind (total_acceptIncoming _) fun accepted => .ite ?_ (.pure _)
  cases packet with
  | typeOnly packet =>
    unfold reducedBody reducedType
    dsimp only
    cases packet.packetType with
    | publish => exact .ite (.pure _) (.pure _)
    | pingresp => exact hping
    | disconnect => exact hlost _
    | _ => exact .pure _
  | headersParsed packet =>
    refine .bind .read fun e => ?_
    cases packet.variableHeader with
    | packetIdOnlyV3 messageId => exact .ite (.pure _) (.pure _)
    | empty => exact .ite hping (.ite (hlost _) (.pure _))
    | authV5 reasonCode properties => exact .bind (total_authReceived _ _) fun _ => .pure _
    | disconnectV5 reasonCode properties => exact hlost _
    | _ => exact .pure _
  | rawBody packet => exact .pure _
  | full packet => exact .halt _

theorem total_respond (responses : List Response) :
    Infallible T ε (respond B responses) :=
  .bind (.update _) fun _ => total_flushResponses

theorem total_handleParsed (packet : ParsedPacket) :
    Infallible T ε (handleParsed B packet) := by
  refine .bind (.update _) fun _ => ?_
  split
  · exact .bind (total_handlePacket _ _) fun _ => .bind (.update _) fun _ => total_respond _
  · exact .bind (total_handleReducedPacket _ _) fun _ =>
      .bind (.forEach (fun _ => .update _) _) fun _ => .onlyWhen (total_respond _)

theorem total_parseNext : Infallible T ε (parseNext B) := by
  refine .bind .read fun e => .bind (.update _) fun _ => ?_
  split
  · exact .bind (total_handleParsed _) fun _ => .pure _
  · exact .pure _
  · exact .bind (total_failConnection _) fun _ => .pure _
  · exact .halt _

theorem total_incomingLoop : ∀ fuel : Nat, Infallible T ε (incomingLoop B fuel)
  | 0 => .pure ()
  | fuel + 1 => by
    unfold incomingLoop
    refine .bind .read fun e => .ite (.pure ()) (.bind (.attempt _) fun valid => ?_)
    split
    · exact total_failConnection _
    · exact .ite (.pure ()) (.bind total_parseNext fun _ => .ite (total_incomingLoop fuel) (.pure ()))

theorem total_processQueue : Infallible T ε (processQueue B) :=
  total_processQueueWithEncoding none

theorem total_handleIncomingInner (data : Bytes) :
    Infallible T ε (handleIncomingInner B data) := by
  refine .bind .read fun e => .ite total_takeEvents (.bind (.bind .read fun e => ?_) fun _ =>
    total_takeEvents)
  split
  · exact total_failConnection _
  · exact .bind (.update _) fun _ => .bind total_flushResponses fun _ => .bind .read fun _ =>
      .bind (total_incomingLoop _) fun _ => total_processQueue

theorem total_checkDeadlines (now : T) :
    Infallible T ε (checkDeadlines B now) :=
  .bind .read fun _ => .forEach (fun ⟨⟨_, _⟩, _⟩ => .bind (.update _) fun _ =>
    .bind (.update _) fun _ => .onlyWhen (total_connectionLostAt now)) _

theorem total_resumeIncoming : Infallible T ε (resumeIncoming B) :=
  .bind .read fun _ => .ite (.pure ()) (.bind (total_handleIncomingInner _) fun _ => .update _)

end MqttEngine

end FlowSdk
