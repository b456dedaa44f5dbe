/-
  FlowSdk.Refine.Receive — incoming publications and their acknowledgement, as steps.

  A publication that is new is stored and delivered in one step. What an acknowledgement does
  to an exchange depends on the stage that its check has found, so the stage is carried from
  the check to the change. The two assertions of this part cannot fail: an acknowledgement is
  of one of three kinds, and an exchange that a PUBREL has just advanced can be completed.
-/
import FlowSdk.Refine.Operations

set_option linter.unusedSectionVars false

namespace FlowSdk

open Machine Wire Ledger
open Relation (ReflTransGen)

variable {T : Type} [TimePoint T] {ε α : Type} {B : Build} {P : Permit} {e : MqttEngine T}

namespace MqttEngine

/-! ## What may come in -/

theorem acceptIncoming_sim (packetType : ControlPacketType) (e : MqttEngine T) :
    Sim B P e.ledger ((acceptIncoming B packetType : Eff _ ε _) e)
      (fun r e' => r = .ok true → e' = e ∧ e.acceptable packetType = true) := by
  unfold acceptIncoming
  refine Reaches.read_bind (.ite (fun _ => .stay fun h => (by cases h)) fun _ => ?_)
  refine .ite (fun haccept => .stay fun _ => ⟨rfl, haccept⟩) fun _ => ?_
  exact .bind (failConnection_sim _ (.self e)) (fun _ _ _ => .stay fun h => (by cases h))
    fun _ _ _ h => (by cases h)

/-- The answers to a packet are sent on the connection it came from. -/
def Replies (r : Except ε (List MqttEvent × List Response)) (e : MqttEngine T) : Prop :=
  ∀ events responses, r = .ok (events, responses) →
    (∀ packet ∈ responses, packet.val.isReply = true) ∧ (responses ≠ [] → e.isConnected = true)

theorem Replies.none (events : List MqttEvent) (e : MqttEngine T) :
    Replies (.ok (events, []) : Except ε _) e := by
  rintro _ _ ⟨⟩
  exact ⟨fun _ h => (by cases h), fun h => absurd rfl h⟩

theorem Replies.one (events : List MqttEvent) {packet : Response} (h : packet.val.isReply = true)
    (hc : e.isConnected = true) : Replies (.ok (events, [packet]) : Except ε _) e := by
  rintro _ _ ⟨⟩
  exact ⟨List.forall_mem_singleton.mpr h, fun _ => hc⟩

theorem Replies.error (error : ε) (e : MqttEngine T) : Replies (.error error) e :=
  fun _ _ h => (by cases h)

theorem connectionFailed_sim {l : Ledger T} (error : MqttClientError) (h : Resets B P l e) :
    Sim B P l ((connectionFailed B error : Eff _ ε _) e) Replies := by
  unfold connectionFailed
  refine .bind (failConnection_sim error h) (fun _ e₁ _ => ?_) fun error e' _ => .error error e'
  refine .bind (takeEvents_sim e₁) ?_ fun error e' _ => .error error e'
  rintro events _ rfl
  exact .stay (.none _ _)

/-- A function that only reports an error of the packet. -/
theorem reported_sim (ev : MqttEvent) (h : ev.plain) (e : MqttEngine T) :
    Sim B P e.ledger ((do let events ← noted [ev]; return (events, []) : Eff _ ε _) e) Replies := by
  refine .bind (noted_sim e (List.forall_mem_singleton.mpr h)) (fun events e₁ _ => ?_)
    fun error e' _ => .error error e'
  exact .stay (.none _ _)

/-! ## Exchanges -/

theorem receivedKey_some {key previous : ReceiveKey} (h : e.receivedKey B key = some previous) :
    previous = key ∨ previous.2 = key.2 ∧ e.state.received.lookup key = none ∧
      previous ∈ e.state.receivedUnbound := by
  unfold receivedKey at h
  split at h
  next => exact .inl (Option.some.inj h).symm
  next hnone =>
    have hid := List.find?_some h
    exact .inr ⟨of_decide_eq_true hid, Option.not_isSome_iff_eq_none.mp hnone,
      (B.iter_perm _).mem_iff.mp (List.mem_of_find?_eq_some h)⟩

theorem receivedKey_none {key : ReceiveKey} (h : e.receivedKey B key = none) :
    e.state.received.lookup key = none := by
  unfold receivedKey at h
  split at h
  next => cases h
  next hnone => exact Option.not_isSome_iff_eq_none.mp hnone

/-- Binding an exchange takes it out of the unbound ones and may move it. -/
theorem ledger_bindReceived (previous key : ReceiveKey) {received}
    (h : (e.bindReceived previous key).state.received = received) :
    (e.bindReceived previous key).ledger =
      { e.ledger with
        received := received
        link := e.link.unbind previous
        trace := ((e.state.received.lookup previous).map (Obs.entered key)).toList ++ e.trace } := by
  subst h
  rfl

theorem bindReceived_steps {key previous : ReceiveKey} (h : e.receivedKey B key = some previous)
    (handles : e.ledger.Handles P key.1) :
    ReflTransGen (Step B.strict P) e.ledger (e.bindReceived previous key).ledger := by
  refine .single ?_
  by_cases hsame : previous = key
  · subst hsame
    rw [ledger_bindReceived previous previous (if_pos rfl)]
    cases hstage : e.state.received.lookup previous with
    | none => exact .unbind previous hstage
    | some stage => exact .resume previous stage hstage handles
  · obtain heq | ⟨hid, hnew, hfree⟩ := receivedKey_some h
    · exact absurd heq hsame
    have hmoves := ledger_bindReceived (e := e) previous key (if_neg hsame)
    cases hstage : e.state.received.lookup previous with
    | none =>
      rw [hstage] at hmoves
      rw [hmoves]
      exact .unbind previous hstage
    | some stage =>
      rw [hstage] at hmoves
      rw [hmoves]
      exact .bind previous key stage hid hnew hstage handles hfree

/-- Only the topic aliases of the connection may have changed. -/
def Resolves (e e' : MqttEngine T) : Prop :=
  ∃ aliases, e' = { e with state.incomingAliases := aliases }

theorem checkTopic_sim (publish : V5.MqttPublish) (e : MqttEngine T) :
    Sim B P e.ledger (checkTopic publish e)
      (fun r e' => e' = e ∧ ∀ p, r = .ok p → p = publish) := by
  unfold checkTopic
  refine .ite (fun _ => .stay ⟨rfl, fun _ h => (by cases h)⟩) fun _ => .stay ⟨rfl, ?_⟩
  rintro _ ⟨⟩
  rfl

theorem resolveIncoming_sim (publish : V5.MqttPublish) {stream : Option Nat} (on : P.on stream)
    (hc : e.isConnected = true) :
    Sim B P e.ledger (resolveIncoming publish e) (fun r e' => e.Resolves e' ∧
      ∀ p, r = .ok p → ∃ topic, p = { publish with topicName := topic }) := by
  unfold resolveIncoming
  refine Reaches.read_bind ?_
  have hcheck (p : V5.MqttPublish) (topic : String) (hp : p = { publish with topicName := topic })
      (e' : MqttEngine T) (he' : e.Resolves e') : Sim B P e'.ledger (checkTopic p e')
        (fun r e' => e.Resolves e' ∧ ∀ p, r = .ok p → ∃ topic, p = { publish with topicName := topic }) := by
    refine (checkTopic_sim p e').weaken ?_
    rintro r _ ⟨rfl, hr⟩
    exact ⟨he', fun q hq => ⟨topic, (hr q hq).trans hp⟩⟩
  cases topicAliases publish.properties with
  | nil => exact hcheck publish publish.topicName rfl e ⟨_, rfl⟩
  | cons topicAlias more =>
    dsimp only
    refine .ite (fun _ => .stay ⟨⟨_, rfl⟩, fun _ h => (by cases h)⟩) fun _ => ?_
    refine .ite (fun _ => ?_) fun _ => ?_
    · cases e.state.incomingAliases.lookup topicAlias with
      | none => exact .stay ⟨⟨_, rfl⟩, fun _ h => (by cases h)⟩
      | some topic => exact hcheck _ topic rfl e ⟨_, rfl⟩
    · exact Reaches.update_bind (Sim.run (.resolve stream topicAlias publish.topicName hc on) rfl
        (hcheck publish publish.topicName rfl _ ⟨_, rfl⟩))

/-- Only the quota of the connection may have been charged. -/
def Charges (e e' : MqttEngine T) : Prop :=
  ∃ keys used trace, e' = { e with
    state := { e.state with receivedOnConnection := keys, incomingQuotaUsed := used }
    trace := trace }

theorem chargeQuota_run (key : ReceiveKey) (hc : e.isConnected = true)
    (handles : e.ledger.Handles P key.1) :
    (∃ error, chargeQuota key e = .done (.error error) e) ∨
      ∃ e', e.Charges e' ∧ ReflTransGen (Step B.strict P) e.ledger e'.ledger ∧
        chargeQuota key e = .done (.ok ()) e' := by
  unfold chargeQuota
  rw [Eff.read_bind]
  split
  · exact .inr ⟨e, ⟨_, _, _, rfl⟩, .refl, rfl⟩
  next hnew =>
    split
    · exact .inl ⟨_, rfl⟩
    next hroom =>
      exact .inr ⟨_, ⟨_, _, _, rfl⟩, .single (.charge key hc handles hnew (Nat.not_le.mp hroom)),
        rfl⟩

/-- A publication is refused, known, untracked, or new. -/
inductive Received (B : Build) (P : Permit) (e : MqttEngine T) (qos : UInt8) (id : Option UInt16)
    (stream : Option Nat) : Outcome (MqttEngine T) MqttClientError Bool → Prop
  | refused (error : MqttClientError) : Received B P e qos id stream (.done (.error error) e)
  | known (e' : MqttEngine T) (steps : ReflTransGen (Step B.strict P) e.ledger e'.ledger)
      (connected : e'.isConnected = e.isConnected) :
      Received B P e qos id stream (.done (.ok false) e')
  | untracked (plain : qos = 0 ∨ id = none) : Received B P e qos id stream (.done (.ok true) e)
  | new (i : UInt16) (e₁ : MqttEngine T) (charges : e.Charges e₁)
      (steps : ReflTransGen (Step B.strict P) e.ledger e₁.ledger) (named : id = some i)
      (tracked : qos > 0) (unknown : e.state.received.lookup (stream, i) = none) :
      Received B P e qos id stream (.done (.ok true) { e₁.record (.entered (stream, i) (.publish qos)) with
        state.received := e₁.state.received.insert (stream, i) (.publish qos) })

theorem receivePublish_received (qos : UInt8) (id : Option UInt16) {stream : Option Nat}
    (hc : e.isConnected = true) (handles : e.ledger.Handles P stream) :
    Received B P e qos id stream (receivePublish B qos id stream e) := by
  unfold receivePublish
  by_cases hqos : qos > 0
  · rw [if_pos hqos]
    cases id with
    | none => exact .untracked (.inr rfl)
    | some i =>
      dsimp only
      by_cases hzero : i = 0
      · rw [if_pos hzero]
        exact .refused _
      rw [if_neg hzero, Eff.read_bind]
      cases hkey : e.receivedKey B (stream, i) with
      | some previous =>
        dsimp only
        split
        · exact .refused _
        · rcases chargeQuota_run (B := B) (stream, i) hc handles with
            ⟨error, hrun⟩ | ⟨e₁, hcharges, hsteps, hrun⟩
          · rw [Eff.bind_of_error hrun]
            exact .refused _
          · rw [Eff.bind_of_ok hrun]
            obtain ⟨keys, used, trace, rfl⟩ := hcharges
            exact .known _ (hsteps.trans (bindReceived_steps (e := { e with
              state := { e.state with receivedOnConnection := keys, incomingQuotaUsed := used }
              trace := trace }) hkey handles)) rfl
      | none =>
        dsimp only
        rcases chargeQuota_run (B := B) (stream, i) hc handles with
          ⟨error, hrun⟩ | ⟨e₁, hcharges, hsteps, hrun⟩
        · rw [Eff.bind_of_error hrun]
          exact .refused _
        · rw [Eff.bind_of_ok hrun]
          exact .new i e₁ hcharges hsteps rfl hqos (receivedKey_none hkey)
  · rw [if_neg hqos]
    refine .untracked (.inl ?_)
    by_contra hne
    exact hqos (UInt8.pos_iff_ne_zero.mpr hne)

/-! ## Acknowledging -/

theorem isReply_ackResponse {version kind reason : UInt8} {id : UInt16} {packet : Response}
    (h : ackResponse version kind id reason [] = some packet) : packet.val.isReply = true := by
  unfold ackResponse at h
  split_ifs at h <;> (cases h; rfl)

theorem isBoundary_ackResponse {version kind reason : UInt8} {id : UInt16} {properties : Properties}
    {packet : Response} (h : ackResponse version kind id reason properties = some packet) :
    packet.val.isBoundary = false := by
  unfold ackResponse at h
  split_ifs at h <;> (cases h; rfl)

theorem ackResponse_isSome {kind : UInt8} (hkind : kind = 4 ∨ kind = 5 ∨ kind = 7) (version : UInt8)
    (id : UInt16) (reason : UInt8) (properties : Properties) :
    ∃ packet, ackResponse version kind id reason properties = some packet := by
  unfold ackResponse
  rcases hkind with rfl | rfl | rfl
  · rw [if_pos rfl]
    split <;> exact ⟨_, rfl⟩
  · rw [if_neg (by decide), if_pos rfl]
    split <;> exact ⟨_, rfl⟩
  · rw [if_neg (by decide), if_neg (by decide), if_pos rfl]
    split <;> exact ⟨_, rfl⟩

theorem manualAckCheck_stage {id : UInt16} {kind reason : UInt8} {properties : Properties}
    {stream : Option Nat} {u : Unit}
    (h : e.manualAckCheck id kind reason properties stream = .ok u) :
    ∃ stage, e.state.received.lookup (stream, id) = some stage ∧ answers kind stage = true := by
  obtain ⟨-, hrest⟩ := check_bind_eq_ok.mp h
  obtain ⟨hstage, -⟩ := check_bind_eq_ok.mp hrest
  rw [rejectIf_eq_ok, Decidable.not_not] at hstage
  cases hlookup : e.state.received.lookup (stream, id) with
  | none =>
    rw [hlookup] at hstage
    cases hstage
  | some stage =>
    rw [hlookup] at hstage
    exact ⟨stage, rfl, hstage⟩

/-- The check fails, or the stage of the exchange fits and there is a packet. -/
theorem manualAckPacket_run {kind : UInt8} (hkind : kind = 4 ∨ kind = 5 ∨ kind = 7) (id : UInt16)
    (reason : UInt8) (properties : Properties) (stream : Option Nat) (e : MqttEngine T) :
    (∃ error, e.manualAckCheck id kind reason properties stream = .error error ∧
      manualAckPacket id kind reason properties stream e = .done (.error error) e) ∨
    ∃ stage packet, e.state.received.lookup (stream, id) = some stage ∧
      answers kind stage = true ∧
      ackResponse e.mqttVersion kind id reason properties = some packet ∧
      manualAckPacket id kind reason properties stream e = .done (.ok packet) e := by
  unfold manualAckPacket
  cases hcheck : e.manualAckCheck id kind reason properties stream with
  | error error =>
    exact .inl ⟨error, rfl, Eff.bind_of_error (by rw [Eff.ask_run, hcheck])⟩
  | ok u =>
    obtain ⟨stage, hstage, hanswers⟩ := manualAckCheck_stage hcheck
    obtain ⟨packet, hpacket⟩ := ackResponse_isSome hkind e.mqttVersion id reason properties
    refine .inr ⟨stage, packet, hstage, hanswers, hpacket, ?_⟩
    rw [Eff.bind_of_ok (show Eff.ask _ e = .done (.ok u) e by rw [Eff.ask_run, hcheck]),
      Eff.read_bind, hpacket]
    rfl

theorem ledger_commitReceiveAck {kind reason : UInt8} {id : UInt16} {stream : Option Nat}
    (h : ¬ (kind = 5 ∧ reason < 0x80)) :
    (e.commitReceiveAck id kind reason stream).ledger = e.ledger.settle (stream, id) := by
  rw [commitReceiveAck, if_neg h]
  rfl

/-- PUBACK and PUBCOMP end an exchange. -/
theorem commitSettles_step {kind reason : UInt8} {id : UInt16} {stream : Option Nat}
    {stage : ReceiveStage} (hkind : kind = 4 ∨ kind = 7) (on : P.on stream)
    (hstage : e.state.received.lookup (stream, id) = some stage) (hanswers : answers kind stage = true) :
    Step B.strict P e.ledger (e.commitReceiveAck id kind reason stream).ledger := by
  have hends : ¬ (kind = 5 ∧ reason < 0x80) := by
    rintro ⟨rfl, -⟩
    revert hkind
    decide
  rw [ledger_commitReceiveAck hends]
  refine .settle (stream, id) stage hstage ?_ on
  cases stage with
  | publish qos =>
    rcases hkind with rfl | rfl
    · exact .inl (by simpa [answers] using hanswers)
    · simp [answers] at hanswers
  | pubRec => rcases hkind with rfl | rfl <;> simp [answers] at hanswers
  | pubRel => exact .inr rfl

/-- A PUBREC that is not negative moves an exchange on. -/
theorem commitConfirms_step {reason : UInt8} {id : UInt16} {stream : Option Nat}
    {stage : ReceiveStage} (hreason : reason < 0x80) (on : P.on stream)
    (hstage : e.state.received.lookup (stream, id) = some stage) :
    Step B.strict P e.ledger (e.commitReceiveAck id 5 reason stream).ledger := by
  have hview : (e.commitReceiveAck id 5 reason stream).ledger =
      { e.ledger.record (.entered (stream, id) .pubRec) with
        received := e.state.received.insert (stream, id) .pubRec
        link := e.link.unbind (stream, id) } := by
    rw [commitReceiveAck, if_pos ⟨rfl, hreason⟩]
    simp only [ledger, ledgerWith, hstage, Option.isSome_some, if_true]
    rfl
  rw [hview]
  exact .confirm (stream, id) stage hstage on

theorem isConnected_commitReceiveAck (id : UInt16) (kind reason : UInt8) (stream : Option Nat) :
    (e.commitReceiveAck id kind reason stream).isConnected = e.isConnected := by
  unfold commitReceiveAck
  dsimp only
  split <;> rfl

theorem manualAck_sim {kind : UInt8} (hkind : kind = 4 ∨ kind = 5 ∨ kind = 7) (id : UInt16)
    (reason : UInt8) (properties : Properties) (may : MaySend P e) (on : P.on none) :
    Sim B P e.ledger (manualAck B id kind reason properties e) Any := by
  unfold manualAck
  rcases manualAckPacket_run hkind id reason properties none e with
    ⟨error, -, hrun⟩ | ⟨stage, packet, hstage, hanswers, hpacket, hrun⟩
  · rw [Eff.bind_of_error hrun]
    exact .stay trivial
  · rw [Eff.bind_of_ok hrun]
    have hsends : e.ledger.Sends P packet.val .command :=
      ⟨packet.property, .inl (isBoundary_ackResponse hpacket), may⟩
    refine .bind (enqueuePacketInner_sim hsends) ?_ fun _ _ _ => trivial
    rintro _ e₁ ⟨hok, -⟩
    obtain ⟨bytes, rfl⟩ := hok rfl
    refine .done ?_ trivial
    let e₁ := e.appendOutgoing .command packet bytes
    show ReflTransGen _ e₁.ledger ((e₁.commitReceiveAck id kind reason none).recordPubrec id kind
      reason).ledger
    by_cases hfive : kind = 5
    · subst hfive
      rw [recordPubrec, if_pos rfl]
      by_cases hreason : reason < 0x80
      · exact .tail (.single (commitConfirms_step hreason on hstage)) (.note _ hreason)
      · have hview : ((e₁.commitReceiveAck id 5 reason none).record (.pubrecSent id reason)).ledger =
            (e₁.ledger.settle (none, id)).record (.pubrecSent id reason) := by
          rw [← ledger_commitReceiveAck fun h => hreason h.2]
          rfl
        rw [hview]
        exact .single (.refusePublish id reason (UInt8.not_lt.mp hreason) on)
    · rw [recordPubrec, if_neg hfive]
      refine .single (commitSettles_step ?_ on hstage hanswers)
      rcases hkind with h | h | h
      · exact .inl h
      · exact absurd h hfive
      · exact .inr h

/-- The acknowledgement of a publication that was received, if the engine sends it. -/
theorem acknowledgeReceived_sim (qos : UInt8) (id : UInt16) {stream : Option Nat}
    (hc : e.isConnected = true) (on : P.on stream) :
    Sim B P e.ledger ((acknowledgeReceived qos id stream : Eff _ ε _) e) Replies := by
  unfold acknowledgeReceived
  refine Reaches.read_bind (.ite (fun _ => ?_) fun _ => .stay (.none _ _))
  have hkind : (if qos = 1 then 4 else 5 : UInt8) = 4 ∨ (if qos = 1 then 4 else 5 : UInt8) = 5 := by
    split
    · exact .inl rfl
    · exact .inr rfl
  generalize (if qos = 1 then 4 else 5 : UInt8) = kind at hkind ⊢
  rcases manualAckPacket_run (hkind.imp_right .inl) id 0 [] stream e with
    ⟨error, -, hrun⟩ | ⟨stage, packet, hstage, hanswers, hpacket, hrun⟩
  · rw [Eff.bind_of_ok (Eff.attempt_of_done hrun)]
    exact reported_sim _ (MqttEvent.plain_error error) e
  · rw [Eff.bind_of_ok (Eff.attempt_of_done hrun)]
    refine Reaches.update_bind (.done (.single ?_) (.one _ (isReply_ackResponse hpacket)
      ((isConnected_commitReceiveAck _ _ _ _).trans hc)))
    rcases hkind with rfl | rfl
    · exact commitSettles_step (.inl rfl) on hstage hanswers
    · exact commitConfirms_step (by decide) on hstage

theorem deliverMessage_sim {deliver : Bool} {publish : V5.MqttPublish} {stream : Option Nat}
    {l : Ledger T} (hc : e.isConnected = true) (on : P.on stream)
    (hsteps : ReflTransGen (Step B.strict P) l
      (e.recordEvents (deliveryEvents deliver publish stream)).ledger) :
    Sim B P l ((deliverMessage deliver publish stream : Eff _ ε _) e) Replies := by
  refine .after hsteps ?_
  unfold deliverMessage
  rw [Eff.bind_of_ok (noted_run _ _)]
  cases (if publish.qos > 0 then publish.packetId else none) with
  | none => exact .stay (.none _ _)
  | some id =>
    refine .bind (acknowledgeReceived_sim publish.qos id
      ((isConnected_recordEvents _ _).trans hc) on) ?_ fun error e' _ => .error error e'
    rintro ⟨more, responses⟩ e₁ hreplies
    refine .stay ?_
    rintro _ _ ⟨⟩
    exact hreplies more responses rfl

theorem receiveMessage_sim (publish : V5.MqttPublish) {stream : Option Nat}
    (handles : e.ledger.Handles P stream) (hc : e.isConnected = true) :
    Sim B P e.ledger ((receiveMessage B publish stream : Eff _ ε _) e) Replies := by
  unfold receiveMessage
  refine .attempt_bind (resolveIncoming_sim publish handles.1 hc) ?_
  rintro (error | publish) e₁ ⟨⟨aliases, rfl⟩, -⟩
  · exact connectionFailed_sim error (.self _)
  dsimp only
  generalize hresolved : ({ e with state.incomingAliases := aliases } : MqttEngine T) = e₁
  have hc₁ : e₁.isConnected = true := hresolved ▸ hc
  have handles₁ : e₁.ledger.Handles P stream := by
    subst hresolved
    exact handles
  have hreceived := receivePublish_received (B := B) publish.qos publish.packetId hc₁ handles₁
  generalize hrun : receivePublish B publish.qos publish.packetId stream e₁ = o at hreceived
  cases hreceived with
  | refused error =>
    rw [Eff.bind_of_ok (Eff.attempt_of_done hrun)]
    exact connectionFailed_sim error (.self e₁)
  | known e₂ hsteps hsame =>
    rw [Eff.bind_of_ok (Eff.attempt_of_done hrun)]
    exact deliverMessage_sim (hsame.trans hc₁) handles.1 hsteps
  | untracked hplain =>
    rw [Eff.bind_of_ok (Eff.attempt_of_done hrun)]
    refine deliverMessage_sim hc₁ handles.1 (recordEvents_steps ?_)
    refine List.forall_mem_cons.mpr ⟨⟨rfl, rfl, rfl, rfl, rfl⟩,
      List.forall_mem_singleton.mpr ⟨rfl, ?_, rfl, rfl, rfl⟩⟩
    show (if publish.qos = 2 then publish.packetId else none) = none
    rcases hplain with hzero | hnone
    · rw [hzero]
      rfl
    · rw [hnone, ite_self]
  | new i e₂ hcharges hsteps hnamed htracked hunknown =>
    rw [Eff.bind_of_ok (Eff.attempt_of_done hrun)]
    obtain ⟨keys, used, trace, rfl⟩ := hcharges
    refine deliverMessage_sim hc₁ handles.1 (hsteps.tail ?_)
    exact .deliver (stream, i) publish hc₁ hunknown hnamed htracked handles₁

/-! ## PUBREL -/

theorem lookup_advancePubrel (key : ReceiveKey) (e : MqttEngine T) :
    (e.advancePubrel key).state.received.lookup key = some .pubRel :=
  AList.lookup_insert _

theorem erase_insert (received : AList (fun _ : ReceiveKey => ReceiveStage)) (key : ReceiveKey)
    (stage : ReceiveStage) : (received.insert key stage).erase key = received.erase key := by
  refine AList.ext ?_
  let entry : Sigma (fun _ : ReceiveKey => ReceiveStage) := ⟨key, stage⟩
  exact List.kerase_cons_eq (s := entry) rfl

theorem settle_insert (l : Ledger T) (key : ReceiveKey) (stage : ReceiveStage) :
    ({ l with received := l.received.insert key stage } : Ledger T).settle key = l.settle key := by
  simp only [Ledger.settle, erase_insert]

/-- A PUBREL advances an exchange, and an automatic client completes it at once. -/
theorem pubrelReceived_sim {id : UInt16} {reason : UInt8} {stream : Option Nat} (hzero : id ≠ 0)
    (hreason : reason = 0 ∨ e.mqttVersion = 5 ∧ reason = 0x92) (hc : e.isConnected = true)
    (handles : e.ledger.Handles P stream) :
    Sim B P e.ledger ((pubrelReceived id reason stream : Eff _ ε _)
      (e.advancePubrel (stream, id))) Replies := by
  let e₁ := (e.advancePubrel (stream, id)).recordEvents [.pubRelReceived id stream]
  have hstage : e₁.state.received.lookup (stream, id) = some .pubRel :=
    lookup_advancePubrel (stream, id) e
  unfold pubrelReceived
  rw [Eff.bind_of_ok (noted_run _ _)]
  refine Reaches.read_bind (.ite (fun hauto => ?_) fun hmanual => ?_)
  swap
  · exact .done (.single (.pubrel (stream, id) (Bool.eq_false_iff.mpr hmanual) handles)) (.none _ _)
  have hcheck : e₁.manualAckCheck id 7 reason [] stream = .ok () := by
    simp only [manualAckCheck, check_bind_eq_ok, rejectIf_eq_ok]
    refine ⟨hzero, ?_, ?_, ?_, ?_⟩
    · rw [hstage]
      simp [answers]
    · rintro ⟨hversion, hbad⟩
      rcases hreason with rfl | ⟨h5, -⟩
      · rcases hbad with hbad | hbad <;> exact hbad rfl
      · exact hversion h5
    · rcases hreason with rfl | ⟨-, rfl⟩ <;> decide
    · simp
  rcases manualAckPacket_run (.inr (.inr rfl)) id reason [] stream e₁ with
    ⟨error, hbad, -⟩ | ⟨stage, packet, hstage₁, hanswers, hpacket, hrun⟩
  · cases hbad.symm.trans hcheck
  · rw [Eff.bind_of_ok (Eff.attempt_of_done hrun)]
    have hview : (e₁.commitReceiveAck id 7 reason stream).ledger = ((e.ledger.record (.pubrel id)).record
        (.event (.pubRelReceived id stream))).settle (stream, id) := by
      have hseven : ¬ ((7 : UInt8) = 5 ∧ reason < 0x80) := fun h => absurd h.1 (by decide)
      rw [ledger_commitReceiveAck hseven]
      exact settle_insert ((e.ledger.record (.pubrel id)).record (.event (.pubRelReceived id stream)))
        (stream, id) .pubRel
    refine Reaches.update_bind (.done (.single ?_)
      (.one _ (isReply_ackResponse hpacket) ((isConnected_commitReceiveAck _ _ _ _).trans hc)))
    show Step _ _ _ (e₁.commitReceiveAck id 7 reason stream).ledger
    rw [hview]
    exact .release (stream, id) hauto handles

theorem receivePubrel_sim (id : UInt16) {stream : Option Nat} (hc : e.isConnected = true)
    (handles : e.ledger.Handles P stream) :
    Sim B P e.ledger ((receivePubrel B id stream : Eff _ ε _) e) Replies := by
  unfold receivePubrel
  refine .ite (fun _ => connectionFailed_sim _ (.self e)) fun hzero => Reaches.read_bind ?_
  cases hkey : e.receivedKey B (stream, id) with
  | some previous =>
    refine .ite (fun _ => Reaches.update_bind ?_) fun _ => reported_sim _ (MqttEvent.plain_error _) e
    refine .after (bindReceived_steps hkey handles) ?_
    exact pubrelReceived_sim (e := e.bindReceived previous (stream, id)) hzero (.inl rfl) hc handles
  | none =>
    refine .ite (fun _ => reported_sim _ (MqttEvent.plain_error _) e) fun _ => Reaches.update_bind ?_
    refine pubrelReceived_sim hzero ?_ hc handles
    by_cases h5 : e.mqttVersion = 5
    · exact .inr ⟨h5, if_pos h5⟩
    · exact .inl (if_neg h5)

end MqttEngine

end FlowSdk
