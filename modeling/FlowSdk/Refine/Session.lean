/-
  FlowSdk.Refine.Session — opening and closing a connection, as steps.

  CONNECT is queued and the handshake begins in one step: between the two the engine owes its
  exchanges to no list in particular. What CONNECT announces is stored before it is known
  whether CONNECT can be queued, and so is a step of its own.
-/
import FlowSdk.Refine.Input

set_option linter.unusedSectionVars false

namespace FlowSdk

open Machine Wire Ledger
open Relation (ReflTransGen)

variable {T : Type} [TimePoint T] {ε α : Type} {B : Build} {P : Permit} {e : MqttEngine T}

/-- The protocol name and its length make CONNECT longer than six bytes. -/
theorem MqttPacket.six_le_connect {strict : Bool} {packet : MqttPacket} {b : Bytes}
    (hconnect : packet.packetType = .connect) (h : packet.toBytes strict = .ok b) :
    6 ≤ b.length := by
  have hframe (first : UInt8) (name rest : Bytes) (a c : UInt8) (keepAlive : UInt16)
      (props : Bytes) : 6 ≤ (frame first (name ++ [a, c] ++ TwoByteInteger.encode keepAlive ++ props ++
        rest)).length := by
    rw [frame_length, frameHeader, List.length_cons]
    have hpos := VariableByteInteger.encode_length_pos (UInt32.ofNat
      (name ++ [a, c] ++ TwoByteInteger.encode keepAlive ++ props ++ rest).length)
    simp only [List.length_append, TwoByteInteger.encode_length, List.length_cons,
      List.length_nil] at hpos ⊢
    omega
  cases packet <;> try cases hconnect
  case connect5 p =>
    obtain ⟨vhdr, pl, -, hvhdr, -, rfl⟩ := encodePacket_ok h
    obtain ⟨name, -, hvhdr⟩ := bind_eq_ok.mp hvhdr
    obtain ⟨props, -, hvhdr⟩ := bind_eq_ok.mp hvhdr
    obtain rfl := Except.ok.inj hvhdr
    exact hframe _ name pl _ _ _ props
  case connect3 p =>
    obtain ⟨vhdr, pl, -, hvhdr, -, rfl⟩ := encodePacket_ok h
    obtain rfl := Except.ok.inj hvhdr
    have := hframe ((ControlPacketType.connect.code <<< 4) ||| 0) (Utf8String.encode p.protocolName)
      pl p.protocolVersion p.flags p.keepAlive []
    rwa [List.append_nil] at this

namespace MqttEngine

/-! ## CONNECT -/

theorem packetType_connectPacket {options : MqttClientOptions} {packet : MqttPacket}
    (h : connectPacket options = .ok packet) : packet.packetType = .connect := by
  unfold connectPacket at h
  split at h
  · obtain ⟨properties, -, heq⟩ := bind_eq_ok.mp h
    cases heq
    rfl
  · cases h
    rfl

/-- CONNECT announces three limits; the ledger has one of them. -/
theorem announce_fields : ∀ (properties : Properties) (state : ProtocolState T),
    ∃ expiry window aliases, announce state properties =
      { state with
        sessionExpiry := expiry
        incomingReceiveMaximum := window
        incomingAliasMaximum := aliases }
  | [], state => ⟨_, _, _, rfl⟩
  | property :: rest, state => by
    cases property
    case sessionExpiryInterval v =>
      exact announce_fields rest { state with sessionExpiry := v }
    case receiveMaximum v =>
      exact announce_fields rest { state with incomingReceiveMaximum := v }
    case topicAliasMaximum v =>
      exact announce_fields rest { state with incomingAliasMaximum := v }
    all_goals exact announce_fields rest state

theorem ledger_announced (packet : MqttPacket) (e : MqttEngine T) :
    ∃ window, (e.announced packet).openSession.ledger =
      { e.ledger with fresh := false, link := { e.link with window := window } } := by
  cases packet
  case connect5 connect =>
    obtain ⟨expiry, window, aliases, hstate⟩ := announce_fields connect.properties e.state
    refine ⟨window, ?_⟩
    rw [announced, hstate]
    rfl
  all_goals exact ⟨e.state.incomingReceiveMaximum, rfl⟩

/-- What a caller has to respect when it opens a connection. -/
structure MayConnect (P : Permit) (e : MqttEngine T) : Prop where
  opens : P.opens
  stale : P.stale ∨ ∀ id ∈ Ledger.ids e.ledger.previous, id ∉ Ledger.queuedIds e.ledger.queue
  first : P.reopen ∨ opened e.ledger.trace = false
  counted : P.uncounted ∨ (e.ledger.inflight.filter (·.2.onQuota)).length ≤ e.ledger.quotaUsed

theorem connectAllowed_ok {u : Unit} (h : e.connectAllowed = .ok u) : e.Closed := by
  simp only [connectAllowed, check_bind_eq_ok, rejectIf_eq_ok] at h
  exact ⟨Bool.eq_false_iff.mpr h.1, Bool.eq_false_iff.mpr h.2.1⟩

theorem connectInner_sim (may : MayConnect P e) : Sim B P e.ledger (connectInner B e) Any := by
  unfold connectInner
  refine .ask_bind (fun _ hallowed => ?_) fun _ _ => .stay trivial
  refine .ask_bind (fun packet hpacket => ?_) fun _ _ => .stay trivial
  have hclosed := connectAllowed_ok hallowed
  obtain ⟨window, hview⟩ := ledger_announced packet e
  refine Reaches.update_bind (Sim.run (.openSession window may.opens hclosed) hview ?_)
  generalize he₁ : (e.announced packet).openSession = e₁ at hview ⊢
  refine .lift_bind (fun bytes hbytes => ?_) fun _ _ => .stay trivial
  rcases enqueuePacketInner_run (B := B) .command packet e₁ with
    ⟨bytes', hcheck, hrun⟩ | ⟨error, -, hrun⟩
  · rw [Eff.bind_of_ok hrun]
    obtain ⟨hroom, hencodes⟩ := enqueueCheck_room hcheck
    cases hencodes.symm.trans (encoded_eq_ok.mp hbytes)
    have hconnect := packetType_connectPacket hpacket
    have hstep : Step B.strict P e₁.ledger _ := .connect packet bytes may.opens rfl
      (by rw [hview]; exact hclosed) (by rw [hview]; exact may.stale) hconnect hencodes hroom
      (MqttPacket.six_le_connect hconnect hencodes) (by rw [hview]; exact may.first)
      (by rw [hview]; exact may.counted)
    refine Reaches.update_bind (Sim.run hstep ?_ (startDeadline_sim _ _ _).any)
    show ({ e₁.ledger with
      previous := (e₁.appendOutgoing .command packet bytes).outstanding
      replay := []
      outgoing := e₁.outgoingBuffer ++ [bytes]
      sentAt := e₁.now
      controlReserve := max bytes.length 6
      connecting := true
      reauthenticating := false
      link := { e₁.link with inputClosed := false }
      retry := e₁.retry.cancel
      trace := .appended .command packet :: e₁.trace } : Ledger T) = _
    have hfresh : e₁.ledger.fresh = false := by rw [hview]
    simp only [Ledger.append, ← hfresh]
    rfl
  · rw [Eff.bind_of_error hrun]
    exact .stay trivial

/-! ## DISCONNECT, AUTH and PINGREQ -/

theorem tryDisconnectWithInner_sim (cancels : P.cancels) (reasonCode : UInt8)
    (properties : Properties) (e : MqttEngine T) :
    Sim B P e.ledger (tryDisconnectWithInner B reasonCode properties e) Any := by
  unfold tryDisconnectWithInner
  refine .ask_bind (fun _ _ => Reaches.read_bind ?_) fun _ _ => .stay trivial
  let packet := disconnectPacket e.mqttVersion reasonCode properties
  have htype : packet.packetType = .disconnect := by
    show (disconnectPacket e.mqttVersion reasonCode properties).packetType = _
    unfold disconnectPacket
    split <;> rfl
  by_cases hc : e.isConnected = true
  · rw [Eff.onlyWhen, if_pos hc]
    rcases enqueuePacketInner_run (B := B) .command packet e with
      ⟨bytes, hcheck, hrun⟩ | ⟨error, -, hrun⟩
    · rw [Eff.bind_of_ok hrun]
      obtain ⟨hroom, hencodes⟩ := enqueueCheck_room hcheck
      exact .done (.tail (.single (.disconnect packet bytes rfl hc htype hencodes hroom))
        (.cancel cancels)) trivial
    · rw [Eff.bind_of_error hrun]
      exact .stay trivial
  · rw [Eff.onlyWhen, if_neg hc]
    exact .done (.tail (.single (.close rfl)) (.cancel cancels)) trivial

theorem authAllowed_live {reasonCode : UInt8} (h : e.authAllowed reasonCode = true) :
    MaySend P e ∧ (reasonCode = 0x19 → e.isConnected = true) := by
  unfold authAllowed at h
  split at h
  · have hc := ((Bool.and_eq_true _ _).mp h).1
    exact ⟨.inr (.inl hc), fun _ => hc⟩
  · split at h
    · refine ⟨.inr (.inr ?_), fun heq => absurd heq ‹_›⟩
      exact (Bool.or_eq_true _ _).mp h
    · cases h

theorem authCheck_live {reasonCode : UInt8} {properties sent : Properties}
    (h : e.authCheck reasonCode properties = .ok sent) :
    MaySend P e ∧ (reasonCode = 0x19 → e.isConnected = true) := by
  obtain ⟨-, h⟩ := check_bind_eq_ok.mp h
  cases hmethod : authenticationMethod e.options.connectProperties with
  | none =>
    rw [hmethod] at h
    cases h
  | some method =>
    rw [hmethod] at h
    obtain ⟨-, h⟩ := check_bind_eq_ok.mp h
    obtain ⟨hallowed, -⟩ := check_bind_eq_ok.mp h
    rw [rejectIf_eq_ok, not_or, not_not] at hallowed
    exact authAllowed_live hallowed.1

theorem tryAuthInner_sim (auths : P.auths) (reasonCode : UInt8) (properties : Properties) (e : MqttEngine T) :
    Sim B P e.ledger (tryAuthInner B reasonCode properties e) Any := by
  unfold tryAuthInner
  refine .ask_bind (fun sent hsent => ?_) fun _ _ => .stay trivial
  obtain ⟨may, hlive⟩ := authCheck_live (P := P) hsent
  have hsends : e.ledger.Sends P (.auth ⟨reasonCode, sent⟩) .command := 
    ⟨rfl, .inr ⟨rfl, auths⟩, may⟩
  refine .bind (enqueuePacketInner_sim hsends) ?_ fun _ _ _ => trivial
  rintro _ e₁ ⟨hok, -⟩
  obtain ⟨bytes, rfl⟩ := hok rfl
  refine .done ?_ trivial
  split
  · exact .single (.reauthenticate true fun _ => hlive ‹_›)
  · exact .refl

theorem sends_pingreq (may : MaySend P e) :
    e.ledger.Sends P (pingreqPacket e.mqttVersion) .command := by
  unfold pingreqPacket
  split <;> exact ⟨rfl, .inl rfl, may⟩

theorem sendPingInner_sim (may : MaySend P e) : Sim B P e.ledger (sendPingInner B e) Any := by
  refine Reaches.read_bind (Reaches.read_bind ?_)
  refine .bind (enqueuePacketInner_sim (sends_pingreq may)) (fun _ e₁ h => ?_) fun _ _ _ => trivial
  obtain ⟨bytes, rfl⟩ := h.1 rfl
  exact .done (.tail (.single .sent) .ping) trivial

/-! ## Packets of other streams -/

theorem encodeResponses_plain : ∀ responses : List Response,
    ∀ ev ∈ (encodeResponses B responses).2, ev.plain
  | [] => fun _ h => (by cases h)
  | response :: rest => by
    have ih := encodeResponses_plain rest
    unfold encodeResponses
    dsimp only
    split
    · exact ih
    · intro ev hev
      rcases List.mem_cons.mp hev with rfl | hrest
      · exact MqttEvent.plain_error _
      · exact ih ev hrest

theorem finishIngest_sim (responses : List Response) (e : MqttEngine T) :
    Sim B P e.ledger ((finishIngest B responses : Eff _ ε _) e) Any := by
  unfold finishIngest
  have hplain := encodeResponses_plain (B := B) responses
  generalize encodeResponses B responses = encoded at hplain ⊢
  obtain ⟨bytes, failures⟩ := encoded
  refine .bind (noted_sim e hplain) (fun _ e₁ _ => Reaches.update_bind ?_) fun _ _ _ => trivial
  have hsent : ReflTransGen (Step B.strict P) e₁.ledger
      (if bytes = [] then e₁ else { e₁ with lastPacketSent := e₁.now }).ledger := by
    split
    · exact .refl
    · exact .single .sent
  refine .after hsent (.bind (processQueue_sim _) (fun _ e₂ _ => ?_) fun _ _ _ => trivial)
  exact .bind (takeEvents_sim e₂) (fun _ _ _ => .stay trivial) fun _ _ _ => trivial

theorem ingestStreamPacketInner_sim {stream : Nat} (on : P.on (some stream)) {packet : MqttPacket}
    (legacy : packet.isConnAck3 → P.legacy) (e : MqttEngine T) :
    Sim B P e.ledger ((ingestStreamPacketInner B packet stream : Eff _ ε _) e) Any := by
  unfold ingestStreamPacketInner
  refine Reaches.update_bind ?_
  refine .bind (takeEvents_sim ({ e with lastPacketReceived := e.now } : MqttEngine T)) ?_
    fun _ _ _ => trivial
  rintro before e₁ -
  refine .bind (handlePacket_sim packet ⟨on, fun h => (by cases h)⟩ fun hack _ => .inl (legacy hack)) ?_
    fun _ _ _ => trivial
  rintro ⟨events, responses⟩ e₂ -
  exact .bind (finishIngest_sim responses e₂) (fun _ _ _ => .stay trivial) fun _ _ _ => trivial

end MqttEngine

end FlowSdk
