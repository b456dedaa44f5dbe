/-
  FlowSdk.Contract.Rejected — a command that is rejected has changed nothing.

  A command checks first and changes the engine afterwards, with two exceptions. It may take
  identifiers from the allocator before a later check fails. And SUBSCRIBE and UNSUBSCRIBE are
  appended to the output before they are tracked: that this cannot fail any more is a matter
  of the clock, which `Clocked` keeps along every run.

  Main results:
    1. `perform_declined`, `connectInner_declined`   what a rejection leaves behind
    2. `rejected_call_changes_nothing`               the same of every call of a run
-/
import FlowSdk.Client.Clock
import FlowSdk.Refine.Run
import FlowSdk.Refine.Total

set_option linter.unusedSectionVars false

namespace FlowSdk

open Machine Wire Ledger

variable {T : Type} [TimePoint T] {ε α : Type} {B : Build} {e : MqttEngine T}

/-- The calls that a rejection leaves without effect. -/
def Action.isCommand : Action → Bool
  | .publish _ | .publishEncoded _ _ | .subscribe _ | .subscribeEncoded _ _ | .unsubscribe _
  | .unsubscribeEncoded _ _ | .acknowledge _ _ _ _ | .auth _ _ | .disconnect _ _ => true
  | _ => false

namespace MqttEngine

/-! ## Commands -/

/-- If the result is an error, then the allocator of identifiers is all that was used. -/
def Declined (e : MqttEngine T) (r : Except ε α) (e' : MqttEngine T) : Prop :=
  ∀ error, r = .error error → e.Allocates e'

theorem Declined.of_ok (e e' : MqttEngine T) (a : α) : e.Declined (.ok a : Except ε α) e' :=
  fun _ h => (by cases h)

theorem Declined.same (e : MqttEngine T) (r : Except ε α) : e.Declined r e := fun _ _ => .refl e

/-- What an accepted command still does cannot fail. -/
theorem declined_of_total {m : Eff (MqttEngine T) ε α} (h : Eff.Total m) (e e' : MqttEngine T) :
    Ends (m e') e.Declined := by
  rcases hm : m e' with ⟨_ | a, e''⟩ | e''
  · exact absurd hm (h e' _ e'')
  · exact .done .refl (.of_ok e e'' a)
  · exact .refl

theorem requireFullParser_ends (c : Prop) [Decidable c] (e : MqttEngine T) :
    Ends (Eff.onlyWhen c requireFullParser e) (fun _ e' => e' = e) :=
  .onlyWhen (fun _ => .stay rfl) fun _ => .stay rfl

theorem publishInner_declined (command : PublishCommand) (e : MqttEngine T) :
    Ends (publishInner B command e) e.Declined := by
  unfold publishInner
  refine .bind (requireFullParser_ends _ e) ?_ fun _ _ h => h ▸ .same e _
  rintro _ e rfl
  refine .ask_bind (fun checked _ => ?_) fun _ _ => .stay (.same e _)
  refine .ask_bind (fun _ _ => ?_) fun _ _ => .stay (.same e _)
  refine .bind (assignId_sim (B := B) (P := .free) checked.1 e).ends ?_ fun _ _ h _ _ => h.1
  rintro ⟨named, id⟩ e₁ ⟨hsame, -⟩
  refine Reaches.read_bind (.lift_bind (fun bytes _ => ?_) fun _ _ => .stay fun _ _ => hsame)
  refine Reaches.update_bind (declined_of_total ?_ e _)
  exact .bind (total_processQueueWithEncoding _) fun _ => .pure _

theorem publishEncodedInner_declined (command : PublishCommand) (stream : Option Nat)
    (e : MqttEngine T) : Ends (publishEncodedInner B command stream e) e.Declined := by
  unfold publishEncodedInner
  refine .ask_bind (fun _ _ => ?_) fun _ _ => .stay (.same e _)
  refine .bind (requireFullParser_ends _ e) ?_ fun _ _ h => h ▸ .same e _
  rintro _ e rfl
  refine .ask_bind (fun checked _ => ?_) fun _ _ => .stay (.same e _)
  refine .bind (assignId_sim (B := B) (P := .free) checked.1 e).ends ?_ fun _ _ h _ _ => h.1
  rintro ⟨named, id⟩ e₁ ⟨hsame, -⟩
  refine Reaches.read_bind (.lift_bind (fun bytes _ => ?_) fun _ _ => .stay fun _ _ => hsame)
  refine .bind (Q := e.Declined) ?_ (fun _ e₂ _ => .stay (.of_ok e _ _)) fun _ _ h _ _ => h _ rfl
  cases id with
  | none => exact .ite (fun _ => .refl) fun _ => .stay (.of_ok e _ _)
  | some id =>
    rcases trackEncoded_run id (publishPacket e₁.mqttVersion named) named.qos stream e₁ with
      ⟨-, error, hrun⟩ | ⟨inflight, -, -, hrun⟩
    · refine .bind (Q := fun _ e' => e' = e₁) (hrun ▸ .stay rfl) (fun _ _ _ => ?_) ?_
      · exact Reaches.update_bind (declined_of_total (total_startDeadline _ _) e _)
      · rintro _ _ rfl _ _
        exact hsame
    · exact .bind (Q := fun r _ => r = .ok ()) (hrun ▸ .stay rfl)
        (fun _ _ _ => Reaches.update_bind (declined_of_total (total_startDeadline _ _) e _))
        fun _ _ h => (by cases h)

/-- A request with an identifier that no operation has can be tracked. -/
theorem trackEncoded_accepts {l : Ledger T} (hclock : Clocked l) {id : UInt16}
    {packet : MqttPacket} (hfree : l.Free id) (request : Request packet) : l.Admits id packet := by
  refine ⟨hclock.clockOk, hfree.1, hfree.2.2, fun h => ?_⟩
  rw [request.isPublish] at h
  cases h

theorem operate_declined {kind : OperationKind} {id : UInt16} {packet : MqttPacket}
    {origin : MqttEngine T} (hsame : origin.Allocates e) (hclock : Clocked e.ledger)
    (hfree : e.ledger.Free id) (request : Request packet) :
    Ends (operate B kind id packet e) origin.Declined := by
  unfold operate
  obtain ⟨bytes, -, hrun⟩ | ⟨error, -, hrun⟩ :=
    enqueuePacketInner_run (B := B) .command packet e
  · rw [Eff.bind_of_ok hrun]
    have hadmits : (e.appendOutgoing .command packet bytes).ledger.Admits id packet :=
      trackEncoded_accepts (l := e.ledger) hclock hfree request
    rcases trackEncoded_run id packet 1 none (e.appendOutgoing .command packet bytes) with
      ⟨hrefused, -⟩ | ⟨inflight, -, -, htrack⟩
    · exact absurd hadmits hrefused
    · rw [Eff.bind_of_ok htrack]
      exact Reaches.update_bind (declined_of_total
        (.bind (total_startDeadline _ _) fun _ => .pure _) origin _)
  · rw [Eff.bind_of_error hrun]
    exact .stay fun _ _ => hsame

theorem operateEncoded_declined {kind : OperationKind} {id : UInt16} {packet : MqttPacket}
    {origin : MqttEngine T} (stream : Option Nat) (hsame : origin.Allocates e) :
    Ends (operateEncoded B kind id packet stream e) origin.Declined := by
  unfold operateEncoded
  refine .ask_bind (fun bytes _ => ?_) fun _ _ => .stay fun _ _ => hsame
  rcases trackEncoded_run id packet 1 stream e with ⟨-, error, hrun⟩ | ⟨inflight, -, -, hrun⟩
  · rw [Eff.bind_of_error hrun]
    exact .stay fun _ _ => hsame
  · rw [Eff.bind_of_ok hrun]
    exact Reaches.update_bind (declined_of_total
      (.bind (total_startDeadline _ _) fun _ => .bind (.update _) fun _ => .pure _) origin _)

/-- The end of all four requests: an identifier, then what is done with it. -/
theorem request_declined {m : MqttEngine T → UInt16 → Eff (MqttEngine T) MqttClientError α}
    (B : Build) (requested : Option UInt16)
    (hm : ∀ id e₁, e.Allocates e₁ → e₁.ledger.Free id → Ends (m e₁ id e₁) e.Declined) :
    Ends ((do let pid ← candidateId requested; let e ← Eff.read; m e pid) e) e.Declined := by
  refine .bind (candidateId_sim (B := B) (P := .free) requested e).ends ?_ fun _ _ h _ _ => h.1
  rintro id e₁ ⟨hsame, hfree⟩
  exact Reaches.read_bind (hm id e₁ hsame (hsame.ledger ▸ hfree id rfl))

theorem clocked_allocates {e' : MqttEngine T} (h : e.Allocates e') (hclock : Clocked e.ledger) :
    Clocked e'.ledger := h.ledger ▸ hclock

theorem subscribeInner_declined (command : SubscribeCommand) (hclock : Clocked e.ledger) :
    Ends (subscribeInner B command e) e.Declined := by
  unfold subscribeInner
  refine .ask_bind (fun _ _ => ?_) fun _ _ => .stay (.same e _)
  refine .ask_bind (fun _ _ => ?_) fun _ _ => .stay (.same e _)
  refine .ask_bind (fun _ _ => ?_) fun _ _ => .stay (.same e _)
  exact request_declined B command.packetId fun id e₁ hsame hfree =>
    operate_declined hsame (clocked_allocates hsame hclock) hfree (request_subscribePacket _ _ _)

theorem unsubscribeInner_declined (command : UnsubscribeCommand) (hclock : Clocked e.ledger) :
    Ends (unsubscribeInner B command e) e.Declined := by
  unfold unsubscribeInner
  refine .ask_bind (fun _ _ => ?_) fun _ _ => .stay (.same e _)
  refine .ask_bind (fun _ _ => ?_) fun _ _ => .stay (.same e _)
  exact request_declined B command.packetId fun id e₁ hsame hfree =>
    operate_declined hsame (clocked_allocates hsame hclock) hfree (request_unsubscribePacket _ _ _)

theorem subscribeEncodedInner_declined (command : SubscribeCommand) (stream : Option Nat)
    (e : MqttEngine T) : Ends (subscribeEncodedInner B command stream e) e.Declined := by
  unfold subscribeEncodedInner
  refine .ask_bind (fun _ _ => ?_) fun _ _ => .stay (.same e _)
  refine .ask_bind (fun _ _ => ?_) fun _ _ => .stay (.same e _)
  refine .ask_bind (fun _ _ => ?_) fun _ _ => .stay (.same e _)
  exact request_declined B command.packetId fun id e₁ hsame _ => operateEncoded_declined stream hsame

theorem unsubscribeEncodedInner_declined (command : UnsubscribeCommand) (stream : Option Nat)
    (e : MqttEngine T) : Ends (unsubscribeEncodedInner B command stream e) e.Declined := by
  unfold unsubscribeEncodedInner
  refine .ask_bind (fun _ _ => ?_) fun _ _ => .stay (.same e _)
  refine .ask_bind (fun _ _ => ?_) fun _ _ => .stay (.same e _)
  exact request_declined B command.packetId fun id e₁ hsame _ => operateEncoded_declined stream hsame

/-- A packet that cannot be appended leaves the engine as it was. -/
theorem append_declined {m : Unit → Eff (MqttEngine T) MqttClientError α} (origin : Origin)
    (packet : MqttPacket) (hm : Eff.Total (m ())) (e : MqttEngine T) :
    Ends ((enqueuePacketInner B origin packet >>= m) e) e.Declined := by
  obtain ⟨bytes, -, hrun⟩ | ⟨error, -, hrun⟩ := enqueuePacketInner_run (B := B) origin packet e
  · rw [Eff.bind_of_ok hrun]
    exact declined_of_total hm e _
  · rw [Eff.bind_of_error hrun]
    exact .stay (.same e _)

theorem manualAck_declined (kind : AckKind) (id : UInt16) (reason : UInt8)
    (properties : Properties) (e : MqttEngine T) :
    Ends (manualAck B id kind.code reason properties e) e.Declined := by
  unfold manualAck
  rcases manualAckPacket_run (code_cases kind) id reason properties none e with
    ⟨error, -, hrun⟩ | ⟨-, packet, -, -, -, hrun⟩
  · rw [Eff.bind_of_error hrun]
    exact .stay (.same e _)
  · rw [Eff.bind_of_ok hrun]
    exact append_declined .command packet.val (.update _) e

theorem tryAuthInner_declined (reasonCode : UInt8) (properties : Properties) (e : MqttEngine T) :
    Ends (tryAuthInner B reasonCode properties e) e.Declined :=
  .ask_bind (fun _ _ => append_declined .command _ (.update _) e) fun _ _ => .stay (.same e _)

theorem tryDisconnectWithInner_declined (reasonCode : UInt8) (properties : Properties)
    (e : MqttEngine T) : Ends (tryDisconnectWithInner B reasonCode properties e) e.Declined := by
  unfold tryDisconnectWithInner
  refine .ask_bind (fun _ _ => Reaches.read_bind ?_) fun _ _ => .stay (.same e _)
  unfold Eff.onlyWhen
  split
  · exact append_declined .command _ (.update _) e
  · exact declined_of_total (.bind (.pure ()) fun _ => .update _) e e

/-! ## CONNECT -/

/-- Of the state, only what CONNECT announces was written, and there is an allocator. -/
def Announces (e e' : MqttEngine T) : Prop :=
  ∃ session expiry window aliases, e' = { e with
    session := session
    state := { e.state with
      sessionExpiry := expiry
      incomingReceiveMaximum := window
      incomingAliasMaximum := aliases } }

theorem announces_announced (packet : MqttPacket) (e : MqttEngine T) :
    e.Announces (e.announced packet).openSession := by
  cases packet
  case connect5 connect =>
    obtain ⟨expiry, window, aliases, hstate⟩ := announce_fields connect.properties e.state
    refine ⟨some (e.session.getD ⟨0⟩), expiry, window, aliases, ?_⟩
    rw [announced, hstate]
    rfl
  all_goals exact ⟨some (e.session.getD ⟨0⟩), _, _, _, rfl⟩

theorem connectInner_declined (e : MqttEngine T) :
    Ends (connectInner B e) (fun r e' => ∀ error, r = .error error → e.Announces e') := by
  have hsame : e.Announces e := ⟨_, _, _, _, rfl⟩
  unfold connectInner
  refine .ask_bind (fun _ _ => ?_) fun _ _ => .stay fun _ _ => hsame
  refine .ask_bind (fun packet _ => ?_) fun _ _ => .stay fun _ _ => hsame
  have hannounced := announces_announced packet e
  refine Reaches.update_bind (.lift_bind (fun bytes _ => ?_) fun _ _ => .stay fun _ _ => hannounced)
  have hrest : Eff.Total (do
      Eff.update (fun e : MqttEngine T => e.beginHandshake (max bytes.length 6))
      startDeadline .connect none : Eff (MqttEngine T) MqttClientError Unit) :=
    .bind (.update _) fun _ => total_startDeadline _ _
  refine (append_declined (m := fun _ => _) .command packet hrest _).weaken fun r e' h error hr => ?_
  obtain ⟨session, -, rfl⟩ := h error hr
  obtain ⟨_, expiry, window, aliases, he⟩ := hannounced
  rw [he]
  exact ⟨session, expiry, window, aliases, rfl⟩

/-! ## Calls -/

/-- A call answers once its work is done. -/
theorem reply_declined {m : Eff (MqttEngine T) MqttClientError α} {f : α → Reply}
    (h : Ends (m e) e.Declined) : Ends ((do return f (← m)) e) e.Declined :=
  .bind h (fun _ e' _ => .stay (.of_ok e e' _)) fun _ _ h _ _ => h _ rfl

theorem perform_declined {action : Action} (now : T) (hcommand : action.isCommand = true)
    (hclock : Clocked e.ledger) : Ends (perform B now action e) e.Declined := by
  cases action with
  | publish command => exact reply_declined (publishInner_declined command e)
  | subscribe command => exact reply_declined (subscribeInner_declined command hclock)
  | unsubscribe command => exact reply_declined (unsubscribeInner_declined command hclock)
  | disconnect => exact reply_declined (tryDisconnectWithInner_declined _ _ e)
  | auth reasonCode properties => exact reply_declined (tryAuthInner_declined _ _ e)
  | acknowledge kind id reason properties =>
    exact reply_declined (manualAck_declined kind id reason properties e)
  | publishEncoded command stream =>
    exact reply_declined (publishEncodedInner_declined command stream e)
  | subscribeEncoded command stream =>
    exact reply_declined (subscribeEncodedInner_declined command stream e)
  | unsubscribeEncoded command stream =>
    exact reply_declined (unsubscribeEncodedInner_declined command stream e)
  | _ => cases hcommand

/-- A time point that is refused changes nothing, one that is accepted is all that changes. -/
theorem timedCall_ends {now : T} {action : Action}
    {Q : Except MqttClientError Reply → MqttEngine T → Prop} (hsame : ∀ error, Q (.error error) e)
    (h : e.timeCheck now = .ok () → Ends (perform B now action { e with now := now }) Q) :
    Ends (timedCall B now action e) Q := by
  refine Reaches.bind (Q := fun r e' =>
    (∀ error, r = .error error → e' = e) ∧
      ∀ u, r = .ok u → e' = { e with now := now } ∧ e.timeCheck now = .ok u) ?_ ?_ ?_
  · exact .ask_bind (fun u hcheck => .stay ⟨fun _ h => (by cases h), fun _ _ => ⟨rfl, hcheck⟩⟩)
      fun error _ => .stay ⟨fun _ _ => rfl, fun _ h => (by cases h)⟩
  · rintro u _ ⟨-, hok⟩
    obtain ⟨rfl, hcheck⟩ := hok u rfl
    exact h hcheck
  · rintro error _ ⟨herror, -⟩
    rw [herror error rfl]
    exact hsame error

/-- The host interface hands the error of a command on. -/
theorem hostCall_ends {now : T} {action : Action}
    {Q : Except MqttClientError Reply → MqttEngine T → Prop}
    (hfallback : ∀ error, (hostFallback error action : Eff (MqttEngine T) _ _) = Eff.fail error)
    (h : ∀ now, Ends (timedCall B now action e) Q) : Ends (hostCall B now action e) Q := by
  refine Reaches.read_bind (.attempt_bind (h _) ?_)
  rintro (error | reply) e' hQ
  · dsimp only
    rw [hfallback]
    exact .stay hQ
  · exact .stay hQ

theorem rejected_connect {now : T} {c : Call T} (hc : c = .timed now .connect ∨ c = .host now .connect)
    {error : MqttClientError} {e' : MqttEngine T} (hrejected : call B c e = .done (.error error) e') :
    e' = { e with
      now := e'.now
      session := e'.session
      state := { e.state with
        sessionExpiry := e'.state.sessionExpiry
        incomingReceiveMaximum := e'.state.incomingReceiveMaximum
        incomingAliasMaximum := e'.state.incomingAliasMaximum } } := by
  have htimed (now : T) : Ends (timedCall B now .connect e) (fun r e' => ∀ error,
      r = .error error → e' = { e with
        now := e'.now
        session := e'.session
        state := { e.state with
          sessionExpiry := e'.state.sessionExpiry
          incomingReceiveMaximum := e'.state.incomingReceiveMaximum
          incomingAliasMaximum := e'.state.incomingAliasMaximum } }) := by
    refine timedCall_ends (fun _ _ _ => rfl) fun _ => ?_
    refine .bind (connectInner_declined _) (fun _ _ _ => .stay fun _ h => (by cases h))
      fun error e' h _ _ => ?_
    obtain ⟨session, expiry, window, aliases, rfl⟩ := h error rfl
    rfl
  rcases hc with rfl | rfl
  · exact (htimed now).result hrejected error rfl
  · exact (hostCall_ends (fun _ => rfl) htimed).result hrejected error rfl

variable {options : MqttClientOptions} {created : T} {start : MqttEngine T}
  {allowed : MqttEngine T → Call T → Prop}

theorem Run.clocked (hnew : tryNewAt options created = .ok start) (run : Run B allowed start e) :
    Clocked e.ledger := by
  obtain ⟨rfl, hrange⟩ := tryNewAt_ok hnew
  have hstart : Stored B.strict .free (newAt options created).ledger ∧
      Clocked (newAt options created).ledger :=
    ⟨stored_blank _ _ _ _ _, clocked_blank _ _ hrange (mem_horizon_retransmission options)⟩
  exact (run.invariant (I := fun l => Stored B.strict .free l ∧ Clocked l)
    (fun e c _ => allowed_free c)
    (fun l l' hstep ih => ⟨stored_step hstep ih.1, clocked_step hstep ih.1 ih.2⟩) hstart).2

/-- A call that is rejected leaves the engine alone, apart from the clock and the allocator of
identifiers; a CONNECT that is rejected may also have set the limits it was to announce. -/
theorem rejected_call_changes_nothing (hnew : tryNewAt options created = .ok start)
    (run : Run B (fun _ _ => True) start e) (action : Action) (now : T) (c : Call T)
    (hc : c = .timed now action ∨ c = .host now action) (error : MqttClientError)
    (e' : MqttEngine T) (hrejected : call B c e = .done (.error error) e') :
    (action.isCommand = true → e' = { e with now := e'.now, session := e'.session }) ∧
    (action = .connect → e' = { e with
      now := e'.now
      session := e'.session
      state := { e.state with
        sessionExpiry := e'.state.sessionExpiry
        incomingReceiveMaximum := e'.state.incomingReceiveMaximum
        incomingAliasMaximum := e'.state.incomingAliasMaximum } }) := by
  have hclock := run.clocked hnew
  refine ⟨fun hcommand => ?_, ?_⟩
  · have htimed (now : T) : Ends (timedCall B now action e) (fun r e' => ∀ error,
        r = .error error → e' = { e with now := e'.now, session := e'.session }) := by
      refine timedCall_ends (fun _ _ _ => rfl) fun hcheck => ?_
      obtain ⟨hback, hrange⟩ := timeCheck_ok hcheck
      have hnow : Clocked ({ e with now := now } : MqttEngine T).ledger := hclock.moved hback hrange
      refine (perform_declined now hcommand hnow).weaken fun r e' h error hr => ?_
      obtain ⟨session, -, rfl⟩ := h error hr
      rfl
    rcases hc with rfl | rfl
    · exact (htimed now).result hrejected error rfl
    · refine (hostCall_ends (fun error => ?_) htimed).result hrejected error rfl
      cases action <;> first | rfl | cases hcommand
  · rintro rfl
    exact rejected_connect hc hrejected

/-- An engine whose output buffer is full with the CONNECT. -/
def fullBuffer : MqttEngine Timestamp :=
  follow (.ordered true) (newAt { maxOutgoingPacketCount := 1 } 0) [.timed 0 .connect]

set_option maxRecDepth 4000 in
/-- A SUBSCRIBE that finds no room has used up an identifier and nothing else. -/
theorem rejected_call_changes_nothing_subscribe :
    ∃ e', call (.ordered true) (.timed 1 (.subscribe ⟨none, [⟨"a", 1, false, false, 0⟩], []⟩))
        fullBuffer = .done (.error (.bufferFull "outgoing" 1)) e' ∧
      e'.session = some ⟨1⟩ ∧ e' = { fullBuffer with now := e'.now, session := e'.session } := by
  have hnew : tryNewAt { maxOutgoingPacketCount := 1 } (0 : Timestamp) = .ok (newAt _ 0) :=
    tryNewAt_of_isOk (by decide +kernel)
  have hrun : Run (.ordered true) (fun _ _ => True) (newAt { maxOutgoingPacketCount := 1 } 0)
      fullBuffer := Run.start.follow (by decide +kernel)
  exact ⟨_, rfl, rfl, (rejected_call_changes_nothing hnew hrun
    (.subscribe ⟨none, [⟨"a", 1, false, false, 0⟩], []⟩) 1 _ (.inl rfl) _ _ rfl).1 rfl⟩

end MqttEngine

end FlowSdk
