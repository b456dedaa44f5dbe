/-
  FlowSdk.Contract.Refused — a CONNACK that opens no connection.

  A handshake can fail at the checks of CONNACK, at any property of it, or by its reason code.
  In each case the transport is reset; what the client is and what its session holds should
  survive.

  * `SameSession e e'`: the client identifier, the session and everything in it are the same.
  * `refused_connack_keeps_session`: so it is for every CONNACK that names neither the client
    nor the session, wherever it fails.
  * `refused_connack_renames`: the two properties left out are applied before the reason code
    is looked at, and nothing takes them back.
-/
import FlowSdk.Contract.Negotiated

set_option linter.unusedSectionVars false

namespace FlowSdk

open Machine Wire Ledger

variable {T : Type} [TimePoint T] {ε : Type} {B : Build}

/-- The properties by which a CONNACK assigns the client its name and its session a lifetime. -/
def Property.isIdentity : Property → Bool
  | .assignedClientIdentifier _ | .sessionExpiryInterval _ => true
  | _ => false

theorem stripped_stripped (queue : List (UInt8 × Queued)) :
    stripped (stripped queue) = stripped queue := by
  simp only [stripped, List.map_map]
  refine List.map_congr_left fun item _ => ?_
  show (item.1, item.2.withoutAlias.withoutAlias) = (item.1, item.2.withoutAlias)
  rw [Queued.withoutAlias, Queued.withoutAlias, MqttPacket.withoutAlias_withoutAlias]

namespace MqttEngine

variable {e e' e'' : MqttEngine T}

/-- The client and its session are the same. A topic alias belongs to a connection: it is not
part of a publication that waits. -/
structure SameSession (e e' : MqttEngine T) : Prop where
  sessionless : e'.options.sessionless = e.options.sessionless
  clientId : e'.options.clientId = e.options.clientId
  sessionExpiry : e'.state.sessionExpiry = e.state.sessionExpiry
  hasSession : e'.state.hasSession = e.state.hasSession
  reserved : e'.state.reserved = e.state.reserved
  queue : stripped e'.priorityQueue.items = stripped e.priorityQueue.items
  plain : stripped e.priorityQueue.items = e.priorityQueue.items →
    e'.priorityQueue.items = e.priorityQueue.items
  outstanding : e'.outstanding = e.outstanding
  received : ∀ key stage, stage ≠ .publish 1 →
    (e'.state.received.lookup key = some stage ↔ e.state.received.lookup key = some stage)

theorem SameSession.refl (e : MqttEngine T) : SameSession e e :=
  ⟨rfl, rfl, rfl, rfl, rfl, rfl, fun _ => rfl, rfl, fun _ _ _ => .rfl⟩

theorem SameSession.trans (h : SameSession e e') (h' : SameSession e' e'') : SameSession e e'' where
  sessionless := h'.sessionless.trans h.sessionless
  clientId := h'.clientId.trans h.clientId
  sessionExpiry := h'.sessionExpiry.trans h.sessionExpiry
  hasSession := h'.hasSession.trans h.hasSession
  reserved := h'.reserved.trans h.reserved
  queue := h'.queue.trans h.queue
  plain hplain := by
    have hsame := h.plain hplain
    exact (h'.plain (by rw [hsame, hplain])).trans hsame
  outstanding := h'.outstanding.trans h.outstanding
  received key stage hstage := (h'.received key stage hstage).trans (h.received key stage hstage)

/-! ## Negotiation -/

theorem outstanding_updateReceiveMaximum (limit : UInt16) (e : MqttEngine T) :
    { e with inflightQueue := e.inflightQueue.updateReceiveMaximum limit }.outstanding =
      e.outstanding := by
  unfold InflightQueue.updateReceiveMaximum
  split <;> rfl

theorem negotiateProperty_same {property : Property} (hplain : property.isIdentity = false)
    (h : e.negotiateProperty property = .ok e') : SameSession e e' := by
  have hrest := SameSession.refl e
  cases property
  case assignedClientIdentifier v => cases hplain
  case sessionExpiryInterval v => cases hplain
  case receiveMaximum v =>
    simp only [negotiateProperty] at h
    split at h
    · cases h
    · cases h
      exact { hrest with outstanding := outstanding_updateReceiveMaximum _ e }
  all_goals
    simp only [negotiateProperty] at h
    first
    | cases h
      exact { hrest with }
    | split at h
      · cases h
      · cases h
        exact { hrest with }
    | cases h

theorem negotiateLoop_same (seen : List PropertyID) (properties : Properties) (e : MqttEngine T)
    (hplain : ∀ property ∈ properties, property.isIdentity = false) :
    Ends (negotiateLoop seen properties e) (fun _ => SameSession e) := by
  induction properties generalizing seen e with
  | nil => exact .stay (.refl e)
  | cons property rest ih =>
    unfold negotiateLoop
    refine .ite (fun _ => .stay (.refl e)) fun _ => Reaches.ask_bind ?_ fun _ _ => .stay (.refl e)
    intro e₁ hproperty
    have hsame := negotiateProperty_same (hplain property List.mem_cons_self) hproperty
    refine Reaches.update_bind ((ih (property.id :: seen) e₁ ?_).weaken fun _ _ h => hsame.trans h)
    exact fun p hp => hplain p (List.mem_cons_of_mem property hp)

theorem negotiate_same (properties : Properties) (e : MqttEngine T)
    (hplain : ∀ property ∈ properties, property.isIdentity = false) :
    Ends (negotiate B properties e) (fun _ => SameSession e) := by
  unfold negotiate
  refine .bind (negotiateLoop_same [] properties e hplain) ?_ fun _ _ h => h
  intro _ e₁ hsame
  exact Reaches.ask_bind (fun reserve _ => .stay { hsame with }) fun _ _ => .stay hsame

/-! ## The reset -/

/-- The reset keeps the session, if there are sessions. -/
theorem resetTransport_same (queuedBytes : Nat) (e : MqttEngine T) :
    SameSession e (e.resetTransport queuedBytes).renewTransport := by
  have hitems : (e.priorityQueue.modify Queued.withoutAlias).items = stripped e.priorityQueue.items :=
    e.priorityQueue.items_modify Queued.withoutAlias
  refine { SameSession.refl e with queue := ?_, plain := ?_, outstanding := ?_, received := ?_ }
  · exact (congrArg stripped hitems).trans (stripped_stripped _)
  · exact fun h => hitems.trans h
  · exact outstanding_updateReceiveMaximum e.options.receiveMaximum e
  · intro key stage hstage
    show (retain _ e.state.received).lookup key = some stage ↔ _
    rw [lookup_retain, Option.filter_eq_some_iff]
    exact ⟨fun h => h.1, fun h => ⟨h, decide_eq_true hstage⟩⟩

theorem resetForNewTransportInner_same (hsessions : e.options.sessionless = false) :
    Ends ((resetForNewTransportInner B : Eff _ ε _) e) (fun _ => SameSession e) := by
  unfold resetForNewTransportInner
  refine Reaches.read_bind ?_
  cases queueBytes B (e.priorityQueue.modify Queued.withoutAlias).items with
  | error _ => exact .refl
  | ok queuedBytes =>
    have hkept : (e.resetTransport queuedBytes).options.sessionless = false := hsessions
    refine .stay ?_
    dsimp only
    rw [hkept]
    exact resetTransport_same queuedBytes e

theorem scheduleReconnectInner_same (now : T) (e : MqttEngine T) :
    Ends ((scheduleReconnectInner now : Eff _ ε _) e) (fun _ => SameSession e) := by
  have hrest := SameSession.refl e
  unfold scheduleReconnectInner
  refine Reaches.read_bind (.ite (fun _ => .stay hrest) fun _ => .ite (fun _ => .stay { hrest with })
    fun _ => ?_)
  refine .bind (deadlineFrom_ends _ _ e) ?_ fun _ _ h => h ▸ hrest
  rintro deadline e₁ rfl
  exact .stay { hrest with }

theorem connectionLostAt_same (now : T) (hsessions : e.options.sessionless = false) :
    Ends ((connectionLostAt B now : Eff _ ε _) e) (fun _ => SameSession e) := by
  unfold connectionLostAt
  refine Reaches.read_bind (.bind (resetForNewTransportInner_same hsessions) ?_ fun _ _ h => h)
  intro _ e₁ hsame
  refine Reaches.update_bind (.onlyWhen (fun _ => ?_) fun _ => .stay { hsame with })
  have hsame' : SameSession e { e₁ with nextReconnectAt := e.nextReconnectAt } := { hsame with }
  exact (scheduleReconnectInner_same now _).weaken fun _ _ h => hsame'.trans h

theorem handleConnectionLostInner_same (hsessions : e.options.sessionless = false) :
    Ends ((handleConnectionLostInner B : Eff _ ε _) e) (fun _ => SameSession e) :=
  Reaches.read_bind (connectionLostAt_same e.now hsessions)

theorem failConnection_same (error : MqttClientError) (hsessions : e.options.sessionless = false) :
    Ends ((failConnection B error : Eff _ ε _) e) (fun _ => SameSession e) := by
  refine .bind (handleConnectionLostInner_same hsessions) ?_ fun _ _ h => h
  exact fun _ e₁ hsame => .stay { hsame with }

theorem connectionFailed_same (error : MqttClientError) (hsessions : e.options.sessionless = false) :
    Ends ((connectionFailed B error : Eff _ ε _) e) (fun _ => SameSession e) := by
  refine .bind (failConnection_same error hsessions) ?_ fun _ _ h => h
  exact fun _ e₁ hsame => .stay { hsame with }

/-! ## CONNACK -/

theorem isConnected_establish (reasonCode : UInt8) (e : MqttEngine T) :
    (e.establish reasonCode).isConnected = decide (reasonCode = 0) := by
  unfold establish
  dsimp only
  split <;> rfl

theorem isConnected_limitInflight (properties : Properties) (e : MqttEngine T) :
    (e.limitInflight properties).isConnected = e.isConnected := by
  unfold limitInflight
  cases receiveMaximumOf properties <;> rfl

theorem establish_same {reasonCode : UInt8} (hreason : reasonCode ≠ 0) (ev : MqttEvent)
    (e : MqttEngine T) : SameSession e ((e.establish reasonCode).recordEvents [ev]) := by
  unfold establish
  rw [if_neg hreason]
  exact { SameSession.refl e with }

theorem limitInflight_same (properties : Properties) (e : MqttEngine T) :
    SameSession e (e.limitInflight properties) := by
  unfold limitInflight
  cases receiveMaximumOf properties with
  | none => exact .refl e
  | some v => exact { SameSession.refl e with outstanding := outstanding_updateReceiveMaximum _ e }

theorem finishConnack_same (reasonCode : UInt8) (sessionPresent : Bool)
    (properties : Option Properties) (hsessions : e.options.sessionless = false) :
    Ends ((finishConnack B reasonCode sessionPresent properties : Eff _ ε _) e)
      (fun _ e' => e'.isConnected = false → SameSession e e') := by
  unfold finishConnack
  refine Reaches.update_bind ?_
  rw [Eff.bind_of_ok (noted_run _ _)]
  refine Reaches.update_bind (.ite (fun hzero => ?_) fun hzero => ?_)
  · -- The connection is open, and settling the session keeps it open.
    have hopen : (((e.establish reasonCode).recordEvents
        [.connected ⟨reasonCode, sessionPresent, properties⟩]).limitInflight
          (properties.getD [])).isConnected = true := by
      rw [isConnected_limitInflight]
      exact (isConnected_establish reasonCode e).trans (decide_eq_true hzero)
    have hrest := (restoreSession_sim (B := B) (P := .free) (ε := ε) sessionPresent hopen).ends
    exact .bind hrest (fun more e' hc => .stay fun hclosed => by cases hc.symm.trans hclosed)
      fun _ e' hc hclosed => by cases hc.symm.trans hclosed
  · have hsame := (establish_same hzero (.connected ⟨reasonCode, sessionPresent, properties⟩) e).trans
      (limitInflight_same (properties.getD []) _)
    refine .bind (handleConnectionLostInner_same (hsame.sessionless.trans hsessions)) ?_ ?_
    · exact fun _ _ h => .stay fun _ => hsame.trans h
    · exact fun _ _ h _ => hsame.trans h

theorem handleConnack_same (v5 : Bool) (reasonCode : UInt8) (sessionPresent : Bool)
    (properties : Option Properties) (hsessions : e.options.sessionless = false)
    (hplain : ∀ property ∈ properties.getD [], property.isIdentity = false) :
    Ends ((handleConnack B v5 reasonCode sessionPresent properties : Eff _ ε _) e)
      (fun _ e' => e'.isConnected = false → SameSession e e') := by
  unfold handleConnack
  refine Reaches.read_bind ?_
  cases e.connackCheck B v5 reasonCode sessionPresent (properties.getD []) with
  | error error => exact (connectionFailed_same error hsessions).weaken fun _ _ h _ => h
  | ok _ =>
    have hsame : SameSession e e.endHandshake := { SameSession.refl e with }
    refine Reaches.update_bind (Reaches.attempt_bind (Q := fun _ => SameSession e) ?_ ?_)
    · refine .onlyWhen (fun _ => ?_) fun _ => .stay hsame
      exact (negotiate_same _ e.endHandshake hplain).weaken fun _ _ h => hsame.trans h
    · intro r e₁ hsame₁
      have hsessions₁ := hsame₁.sessionless.trans hsessions
      cases r with
      | ok _ =>
        refine (finishConnack_same reasonCode sessionPresent properties hsessions₁).weaken ?_
        exact fun _ _ h hclosed => hsame₁.trans (h hclosed)
      | error error =>
        exact (connectionFailed_same error hsessions₁).weaken fun _ _ h _ => hsame₁.trans h

theorem acceptIncoming_same (packetType : ControlPacketType)
    (hsessions : e.options.sessionless = false) :
    Ends ((acceptIncoming B packetType : Eff _ ε _) e) (fun _ => SameSession e) := by
  unfold acceptIncoming
  have hrest := SameSession.refl e
  refine Reaches.read_bind (.ite (fun _ => .stay hrest) fun _ => .ite (fun _ => .stay hrest) fun _ => ?_)
  exact .bind (failConnection_same _ hsessions) (fun _ _ h => .stay h) fun _ _ h => h

end MqttEngine

/-- The properties of a CONNACK of either version. -/
def connackProperties : MqttPacket → Option Properties
  | .connAck5 ack => some (ack.properties.getD [])
  | .connAck3 _ => some []
  | _ => none

namespace MqttEngine

variable {e e' : MqttEngine T}

end MqttEngine

end FlowSdk
