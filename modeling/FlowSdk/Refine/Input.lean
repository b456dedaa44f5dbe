/-
  FlowSdk.Refine.Input — the input loop, the timer and the output, as steps.

  The parser moves through its buffer in steps of their own; a reduced packet is answered but
  never stored. The output is taken in one step each time the loop comes round, so that what
  the engine has handed out is what its record says.
-/
import FlowSdk.Refine.Packets
import FlowSdk.Serde.Canonical

set_option linter.unusedSectionVars false

namespace FlowSdk

open Machine Wire Ledger
open Relation (ReflTransGen)

variable {T : Type} [TimePoint T] {ε α : Type} {B : Build} {P : Permit} {e : MqttEngine T}

namespace MqttEngine

/-! ## Responses -/

theorem respond_sim {responses : List Response}
    (hreplies : ∀ packet ∈ responses, packet.val.isReply = true)
    (hlive : responses ≠ [] → e.isConnected = true ∨ e.state.connecting = true) :
    Sim B P e.ledger ((respond B responses : Eff _ ε _) e) Any := by
  refine Reaches.update_bind ?_
  by_cases hnone : responses = []
  · subst hnone
    have hview : ({ e with state.responses := e.state.responses ++ [] } : MqttEngine T).ledger =
        e.ledger := by
      simp only [List.append_nil]
    exact hview ▸ (flushResponses_sim _).any
  · have hstep : Step B.strict P e.ledger _ := .respond (responses.map Subtype.val) (hlive hnone)
      (List.forall_mem_map.mpr hreplies)
    refine Sim.run hstep ?_ (flushResponses_sim _).any
    show ({ e.ledger with responses := (e.state.responses ++ responses).map Subtype.val } :
      Ledger T) = _
    rw [List.map_append]
    rfl

/-! ## Reduced packets -/

/-- An event that a reduced packet leads to. A PUBREL is reported at these levels although no
exchange belongs to it. -/
def Overlooks (e : MqttEngine T) (ev : MqttEvent) : Prop :=
  ev.plain ∨ (e.parser.parseLevel ≠ .full ∧ ∃ id, ev = .pubRelReceived id none)

theorem overlooks_step {ev : MqttEvent} (h : e.Overlooks ev) :
    Step B.strict P e.ledger (e.pushEvent ev).ledger := by
  obtain hplain | ⟨hlevel, id, rfl⟩ := h
  · exact pushEvent_step hplain
  · exact .overlook id hlevel

/-- What a reduced packet leads to: an event and an answer. -/
def Reduced (r : Except ε (Option MqttEvent × Option Response)) (e : MqttEngine T) : Prop :=
  ∀ event response, r = .ok (event, response) → (∀ ev ∈ event, e.Overlooks ev) ∧
    ∀ packet ∈ response, packet.val.isReply = true ∧
      (e.isConnected = true ∨ e.state.connecting = true)

theorem Reduced.event {event : Option MqttEvent} (h : ∀ ev ∈ event, ev.plain) (e : MqttEngine T) :
    Reduced (.ok (event, none) : Except ε _) e := by
  rintro _ _ ⟨⟩
  exact ⟨fun ev hev => .inl (h ev hev), fun _ h => (by cases h)⟩

theorem Reduced.error (error : ε) (e : MqttEngine T) : Reduced (.error error) e :=
  fun _ _ h => (by cases h)

theorem Reduced.reply {event : MqttEvent} {response : Option Response} (h : e.Overlooks event)
    (hreply : ∀ packet ∈ response, packet.val.isReply = true)
    (hlive : e.isConnected = true ∨ e.state.connecting = true) :
    Reduced (.ok (some event, response) : Except ε _) e := by
  rintro _ _ ⟨⟩
  refine ⟨?_, fun packet hpacket => ⟨hreply packet hpacket, hlive⟩⟩
  rintro _ ⟨⟩
  exact h

theorem reducedAck_reply {v5 : Bool} {qos : UInt8} {id : Option UInt16} :
    ∀ packet ∈ e.reducedAck v5 qos id, packet.val.isReply = true := by
  intro packet hpacket
  unfold reducedAck at hpacket
  split at hpacket
  · cases hpacket
  · obtain ⟨i, -, hi⟩ := Option.bind_eq_some_iff.mp hpacket
    generalize (if v5 = true then (5 : UInt8) else 4) = version at hi
    split_ifs at hi
    · exact isReply_ackResponse hi
    · exact isReply_ackResponse hi

theorem reducedRelease_reply {v5 : Bool} {id : UInt16} :
    ∀ packet ∈ e.reducedRelease v5 id, packet.val.isReply = true := by
  intro packet hpacket
  unfold reducedRelease at hpacket
  split at hpacket
  · exact isReply_ackResponse hpacket
  · cases hpacket

theorem plain_some {event : MqttEvent} (h : event.plain) : ∀ ev ∈ some event, ev.plain := by
  rintro _ ⟨⟩
  exact h

theorem plain_none : ∀ ev ∈ (none : Option MqttEvent), ev.plain := fun _ h => (by cases h)

theorem serverDisconnected_sim {event : MqttEvent} (h : event.plain) (e : MqttEngine T) :
    Sim B P e.ledger ((serverDisconnected B event : Eff _ ε _) e) Reduced :=
  Reaches.bind (handleConnectionLostInner_sim (.self e))
    (fun _ e' _ => .stay (Reduced.event (plain_some h) e')) fun error e' _ => .error error e'

theorem pingAnswered_sim (e : MqttEngine T) :
    Sim B P e.ledger ((pingAnswered : Eff _ ε _) e) Reduced :=
  Reaches.done (.single .pong) (Reduced.event (plain_some ⟨rfl, rfl, rfl, rfl, rfl⟩) _)

theorem nothing_sim (e : MqttEngine T) :
    Sim B P e.ledger (.done (.ok (none, none)) e : Outcome _ ε _) Reduced :=
  .stay (Reduced.event plain_none e)

theorem reducedType_sim (packet : TypeOnlyPacket) (stream : Option Nat) (e : MqttEngine T) :
    Sim B P e.ledger ((reducedType B packet stream : Eff _ ε _) e) Reduced := by
  unfold reducedType
  cases packet.packetType with
  | publish =>
    exact .ite (fun _ => .stay (Reduced.event (plain_some ⟨rfl, rfl, rfl, rfl, rfl⟩) e)) fun _ =>
      .stay (Reduced.event (plain_some ⟨rfl, rfl, rfl, rfl, rfl⟩) e)
  | pingresp => exact pingAnswered_sim e
  | disconnect => exact serverDisconnected_sim ⟨rfl, rfl, rfl, rfl, rfl⟩ e
  | _ => exact nothing_sim e

theorem reducedHeaders_sim (packet : HeadersParsedPacket) (hlevel : e.parser.parseLevel ≠ .full)
    (hlive : e.isConnected = true ∨ e.state.connecting = true) :
    Sim B P e.ledger ((reducedHeaders B packet none : Eff _ ε _) e) Reduced := by
  have hplain {id : Option UInt16} : e.Overlooks (.publishReceived id none) :=
    .inl ⟨rfl, rfl, rfl, rfl, rfl⟩
  have hrelease {id : UInt16} : e.Overlooks (.pubRelReceived id none) := .inr ⟨hlevel, id, rfl⟩
  unfold reducedHeaders
  refine Reaches.read_bind ?_
  cases packet.variableHeader with
  | publishV5 => exact .stay (Reduced.reply hplain reducedAck_reply hlive)
  | publishV3 => exact .stay (Reduced.reply hplain reducedAck_reply hlive)
  | pubRelV5 => exact .stay (Reduced.reply hrelease reducedRelease_reply hlive)
  | packetIdOnlyV3 =>
    exact .ite (fun _ => .stay (Reduced.reply hrelease reducedRelease_reply hlive))
      fun _ => nothing_sim e
  | empty =>
    refine .ite (fun _ => pingAnswered_sim e) fun _ => ?_
    exact .ite (fun _ => serverDisconnected_sim ⟨rfl, rfl, rfl, rfl, rfl⟩ e) fun _ => nothing_sim e
  | authV5 reasonCode properties =>
    refine .bind (authReceived_sim reasonCode properties e) (fun event e' hplain => ?_)
      fun error e' _ => .error error e'
    refine .stay (Reduced.event (fun ev hev => hplain ev ?_) e')
    rw [Option.mem_def.mp hev]
  | disconnectV5 => exact serverDisconnected_sim ⟨rfl, rfl, rfl, rfl, rfl⟩ e
  | _ => exact nothing_sim e

theorem live_of_acceptable {packetType : ControlPacketType} (h : e.acceptable packetType = true) :
    e.isConnected = true ∨ e.state.connecting = true := by
  cases packetType
  case connack => exact .inr ((Bool.and_eq_true _ _).mp h).1
  case auth | disconnect =>
    rcases (Bool.or_eq_true _ _).mp h with hc | hc
    · exact .inl hc
    · exact .inr ((Bool.and_eq_true _ _).mp hc).2
  all_goals exact .inl h

theorem handleReducedPacket_sim {packet : ParsedPacket} (hreduced : packet.level ≠ .full)
    (hlevel : packet.level = e.parser.parseLevel) :
    Sim B P e.ledger ((handleReducedPacket B packet none : Eff _ ε _) e) Reduced := by
  unfold handleReducedPacket
  refine .bind (acceptIncoming_sim packet.packetType e) ?_ fun error e' _ => .error error e'
  intro accepted e₁ haccepted
  cases accepted with
  | false => exact nothing_sim e₁
  | true =>
    obtain ⟨rfl, haccept⟩ := haccepted rfl
    cases packet with
    | full packet => exact absurd rfl hreduced
    | typeOnly packet => exact reducedType_sim packet none e₁
    | headersParsed packet =>
      exact reducedHeaders_sim packet (hlevel ▸ hreduced) (live_of_acceptable haccept)
    | rawBody packet => exact .stay (Reduced.event (plain_some ⟨rfl, rfl, rfl, rfl, rfl⟩) e₁)

/-! ## The input loop -/

theorem reportReduced_sim {event : Option MqttEvent} {response : Option Response}
    (hevent : ∀ ev ∈ event, e.Overlooks ev)
    (hresponse : ∀ packet ∈ response, packet.val.isReply = true ∧
      (e.isConnected = true ∨ e.state.connecting = true)) :
    Sim B P e.ledger ((do
      Eff.forEach (fun event => Eff.update (fun e => e.pushEvent event)) event.toList
      Eff.onlyWhen (response.isSome = true) (respond B response.toList) : Eff _ ε _) e) Any := by
  have hrespond (e' : MqttEngine T) (hc : e'.isConnected = e.isConnected)
      (hs : e'.state = e.state) : Sim B P e'.ledger
        ((Eff.onlyWhen (response.isSome = true) (respond B response.toList) : Eff _ ε _) e') Any := by
    refine .onlyWhen (fun _ => respond_sim ?_ ?_) fun _ => .stay trivial
    · intro packet hpacket
      exact (hresponse packet (Option.mem_toList.mp hpacket)).1
    · intro hsome
      obtain ⟨packet, hpacket⟩ := List.exists_mem_of_ne_nil _ hsome
      rw [hc, hs]
      exact (hresponse packet (Option.mem_toList.mp hpacket)).2
  cases event with
  | none => exact hrespond e rfl rfl
  | some ev => exact .step_first (overlooks_step (hevent ev rfl)) (hrespond (e.pushEvent ev) rfl rfl)

/-- A parser of MQTT 5 hands out no CONNACK of MQTT 3. -/
theorem nextParsed_connAck3 {p : MqttParser} {packet : MqttPacket}
    (h : (p.nextParsed true).1 = .ok (some (.full packet))) (hack : packet.isConnAck3 = true) :
    p.mqttVersion ≠ 5 := by
  intro hversion
  obtain ⟨n, hlen, hparse⟩ := MqttParser.nextParsed_frame h
  rw [← MqttParser.nextParsed_level h, hversion] at hparse
  obtain ⟨answer, hanswer, hpacket⟩ := bind_eq_ok.mp hparse
  cases answer <;> cases hpacket
  cases packet with
  | connAck3 ack => exact MqttPacket.fromBytesV5_connAck3 (IsFrame.of_take hlen).1 hanswer
  | _ => cases hack

theorem handleParsed_sim {packet : ParsedPacket} (on : P.on none)
    (hlevel : packet.level = e.parser.parseLevel)
    (legacy : ∀ p, packet = .full p → p.isConnAck3 → Legacy B P e) :
    Sim B P e.ledger ((handleParsed B packet : Eff _ ε _) e) Any := by
  refine Reaches.update_bind ?_
  let e₁ : MqttEngine T := { e with lastPacketReceived := e.now }
  have hreduced (hne : packet.level ≠ .full) : Sim B P e₁.ledger ((do
      let r ← handleReducedPacket B packet none
      Eff.forEach (fun event => Eff.update (fun e => e.pushEvent event)) r.1.toList
      Eff.onlyWhen (r.2.isSome = true) (respond B r.2.toList) : Eff _ ε _) e₁) Any := by
    refine .bind (handleReducedPacket_sim (e := e₁) hne hlevel) ?_ fun _ _ _ => trivial
    rintro ⟨event, response⟩ e₂ hresult
    obtain ⟨hevent, hresponse⟩ := hresult event response rfl
    exact reportReduced_sim hevent hresponse
  cases packet with
  | full packet =>
    refine .bind (handlePacket_sim (e := e₁) packet ⟨on, fun _ => hlevel.symm⟩ (legacy packet rfl)) ?_
      fun _ _ _ => trivial
    rintro ⟨events, responses⟩ e₂ hreplies
    obtain ⟨hreply, hlive⟩ := hreplies events responses rfl
    refine Reaches.update_bind ?_
    exact respond_sim (e := { e₂ with events := e₂.events ++ events }) hreply
      fun h => .inl (hlive h)
  | headersParsed packet => exact hreduced (fun h => (by cases h))
  | rawBody packet => exact hreduced (fun h => (by cases h))
  | typeOnly packet => exact hreduced (fun h => (by cases h))

/-- The parser moves: it keeps its level, and its buffer shrinks or fits. -/
theorem parser_step {parser : MqttParser} (hmode : e.parser.SameMode parser)
    (hbounded : parser.buffer.length ≤ e.parser.buffer.length ∨
      ∀ limit ∈ e.options.maxIncomingBufferBytes, parser.buffer.length ≤ limit) :
    Step B.strict P e.ledger ({ e with parser := parser } : MqttEngine T).ledger := by
  have hview : ({ e with parser := parser } : MqttEngine T).ledger =
      { e.ledger with buffered := parser.buffer.length } := by
    simp only [ledger, ledgerWith, link, retry, hmode.level, hmode.version]
  exact hview ▸ Step.input parser.buffer.length hbounded

theorem parseNext_sim (on : P.on none) (e : MqttEngine T) :
    Sim B P e.ledger ((parseNext B : Eff _ ε _) e) Any := by
  unfold parseNext
  refine Reaches.read_bind ?_
  obtain ⟨hmode, htaken⟩ := MqttParser.nextParsed_taken B.strict e.parser
  have hlevel : ∀ packet, (e.parser.nextParsed B.strict).1 = .ok (some packet) →
      packet.level = e.parser.parseLevel := fun _ => MqttParser.nextParsed_level
  have hlegacy : ∀ packet, (e.parser.nextParsed B.strict).1 = .ok (some (.full packet)) →
      packet.isConnAck3 = true → Legacy B P e := fun packet hnext hack hstrict =>
    .inr (nextParsed_connAck3 (hstrict ▸ hnext) hack)
  generalize e.parser.nextParsed B.strict = next at hmode htaken hlevel hlegacy ⊢
  obtain ⟨result, parser⟩ := next
  have hshort : parser.buffer.length ≤ e.parser.buffer.length := by
    rw [htaken, List.length_drop]
    exact Nat.sub_le _ _
  refine Reaches.update_bind (.step_first (parser_step hmode (.inl hshort)) ?_)
  cases result with
  | ok found =>
    cases found with
    | none => exact .stay trivial
    | some packet =>
      refine .bind (handleParsed_sim on ?_ ?_) (fun _ _ _ => .stay trivial) fun _ _ _ => trivial
      · exact (hlevel packet rfl).trans hmode.level.symm
      · rintro p rfl hack hstrict
        exact hmode.version ▸ hlegacy p rfl hack hstrict
  | error failure =>
    cases failure with
    | err error =>
      exact .bind (failConnection_sim _ (.self _)) (fun _ _ _ => .stay trivial) fun _ _ _ => trivial
    | panic p => exact Sim.panic trivial

theorem validateInputBuffer_sim (bytes : Bytes) (e : MqttEngine T) :
    Sim B P e.ledger (validateInputBuffer B e.options bytes e) (fun _ e' => e' = e) := by
  unfold validateInputBuffer
  refine .lift_bind (fun _ _ => ?_) fun _ _ => .stay rfl
  cases incomingLimit e.options with
  | none => exact .stay rfl
  | some capacity =>
    unfold checkAnnounced
    refine .ite (fun _ => .stay rfl) fun _ => ?_
    cases parseVbi B.strict (bytes.drop 1) with
    | ok length => exact .stay rfl
    | error failure =>
      cases failure with
      | err error => exact .stay rfl
      | panic p => exact Sim.panic trivial

theorem incomingLoop_sim (on : P.on none) : ∀ (fuel : Nat) (e : MqttEngine T),
    Sim B P e.ledger ((incomingLoop B fuel : Eff _ ε _) e) Any
  | 0, _ => .stay trivial
  | fuel + 1, e => by
    unfold incomingLoop
    refine Reaches.read_bind (.ite (fun _ => .stay trivial) fun _ => ?_)
    refine .attempt_bind (validateInputBuffer_sim _ e) ?_
    rintro (error | ⟨⟩) e₁ rfl
    · exact (failConnection_sim error (.self e₁)).any
    · refine .ite (fun _ => .stay trivial) fun _ => ?_
      refine .bind (parseNext_sim on e₁) (fun more e₂ _ => ?_) fun _ _ _ => trivial
      exact .ite (fun _ => incomingLoop_sim on fuel e₂) fun _ => .stay trivial

theorem acceptData_sim (on : P.on none) (data : Bytes) (e : MqttEngine T) :
    Sim B P e.ledger ((acceptData B data : Eff _ ε _) e) Any := by
  unfold acceptData
  refine Reaches.read_bind ?_
  cases hfits : e.overflows data with
  | error error => exact (failConnection_sim error (.self e)).any
  | ok _ =>
    have hbounded : ∀ limit ∈ e.options.maxIncomingBufferBytes,
        (e.parser.feed data).buffer.length ≤ limit := by
      rw [MqttParser.buffer_feed, List.length_append]
      exact rejectOver_eq_ok.mp hfits
    refine Reaches.update_bind (.step_first
      (parser_step (e.parser.feed_sameMode data) (.inr hbounded)) ?_)
    refine .bind (flushResponses_sim _) (fun _ e₁ _ => ?_) fun _ _ _ => trivial
    refine Reaches.read_bind (.bind (incomingLoop_sim on _ e₁) (fun _ e₂ _ => ?_) fun _ _ _ => trivial)
    exact (processQueue_sim e₂).any

theorem handleIncomingInner_sim (on : P.on none) (data : Bytes) (e : MqttEngine T) :
    Sim B P e.ledger ((handleIncomingInner B data : Eff _ ε _) e) Any := by
  refine Reaches.read_bind (.ite (fun _ => (takeEvents_sim e).any) fun _ => ?_)
  exact .bind (acceptData_sim on data e) (fun _ e₁ _ => (takeEvents_sim e₁).any) fun _ _ _ => trivial

/-! ## The clock

Nothing that a tick does before the retransmissions changes the time. -/

theorem timeless_enqueuePacketInner (origin : Origin) (packet : MqttPacket) :
    Timeless (enqueuePacketInner B origin packet : Eff (MqttEngine T) _ Unit) :=
  .bind (.ask _) fun _ => .update fun _ => rfl

theorem timeless_flushLoop : ∀ fuel : Nat, Timeless (flushLoop B fuel : Eff (MqttEngine T) ε Unit)
  | 0 => .pure ()
  | fuel + 1 => by
    unfold flushLoop
    refine .bind .read fun e => ?_
    split
    · exact .pure ()
    · split
      · exact timeless_failConnection _
      · refine .bind (.attempt (timeless_enqueuePacketInner _ _)) fun result => ?_
        split
        · exact .bind (.update fun _ => rfl) fun _ => timeless_flushLoop fuel
        · exact .ite (.pure ()) (timeless_failConnection _)

theorem timeless_flushResponses : Timeless (flushResponses B : Eff (MqttEngine T) ε Unit) :=
  .bind .read fun _ => timeless_flushLoop _

theorem timeless_checkDeadlines (now : T) :
    Timeless (checkDeadlines B now : Eff (MqttEngine T) ε Unit) :=
  .bind .read fun _ => .forEach (fun ⟨⟨_, _⟩, _⟩ => .bind (.update fun _ => rfl) fun _ =>
    .bind (.update fun _ => rfl) fun _ => .onlyWhen (timeless_connectionLostAt now)) _

theorem timeless_replayLoop : ∀ fuel : Nat, Timeless (replayLoop B fuel : Eff (MqttEngine T) ε Unit)
  | 0 => .pure ()
  | fuel + 1 => by
    unfold replayLoop
    refine .bind .read fun e => ?_
    split
    · exact .pure ()
    · refine .ite (.pure ()) (.bind (.attempt (timeless_enqueuePacketInner _ _)) fun result => ?_)
      split
      · refine .bind (.update fun _ => rfl) fun _ => .bind (.bind .read fun e => ?_) fun _ =>
          timeless_replayLoop fuel
        split
        · exact .update fun _ => rfl
        · exact .bind (.update fun _ => rfl) fun _ => timeless_startDeadline _ _
      · exact .ite (.pure ()) (.bind (.update fun _ => rfl) fun _ => timeless_replayLoop fuel)

theorem timeless_emitQueued (priority : UInt8) (item : Queued) (bytes : Bytes) :
    Timeless (emitQueued priority item bytes : Eff (MqttEngine T) ε Unit) := by
  refine .bind .read fun e => ?_
  split
  · refine .update fun e => ?_
    unfold rejectQueued
    split <;> rfl
  · split
    · exact .halt fun _ => rfl
    · exact .bind (.update fun _ => rfl) fun _ => .onlyWhen (timeless_startDeadline _ _)

theorem timeless_drainLoop : ∀ (fuel : Nat) (first : Option Bytes),
    Timeless (drainLoop B fuel first : Eff (MqttEngine T) ε Unit)
  | 0, _ => .pure ()
  | fuel + 1, first => by
    unfold drainLoop
    refine .bind .read fun e => .ite ?_ (.pure ())
    split
    · exact .pure ()
    · refine .ite (.pure ()) (.bind ?_ fun _ => timeless_drainLoop fuel none)
      unfold sendQueued
      split
      · exact timeless_emitQueued _ _ _
      · exact .update fun _ => rfl

theorem timeless_processQueue : Timeless (processQueue B : Eff (MqttEngine T) ε Unit) :=
  .bind .read fun _ => .ite (.pure ()) (.bind timeless_flushResponses fun _ => .bind .read fun _ =>
    .ite (.pure ()) (.bind (.bind .read fun _ => .ite (.pure ()) (timeless_replayLoop _)) fun _ =>
      .bind .read fun _ => .ite (.pure ()) (.bind (.update fun _ => rfl) fun _ =>
        timeless_drainLoop _ _)))

/-! ## The timer -/

/-- There is no more room for output in the second state than in the first. -/
structure Fuller (B : Build) (e e' : MqttEngine T) : Prop where
  allowed : e'.ensureOutgoingAllowed B = e.ensureOutgoingAllowed B
  capable : e'.validatePacketCapabilities = e.validatePacketCapabilities
  sized : e'.checkPacketSize = e.checkPacketSize
  count : e'.options.maxOutgoingPacketCount = e.options.maxOutgoingPacketCount
  capacity : e'.options.maxOutgoingBufferBytes = e.options.maxOutgoingBufferBytes
  packets : e.outgoingBuffer.length ≤ e'.outgoingBuffer.length
  bytes : e.outgoingBytes ≤ e'.outgoingBytes

theorem Fuller.checkOutputCapacity {e' : MqttEngine T} (h : e.Fuller B e') {additional : Nat}
    {error : MqttClientError} (hover : e.checkOutputCapacity additional = .error error) :
    ∃ error', e'.checkOutputCapacity additional = .error error' ∧ error'.isBufferFull = true := by
  unfold MqttEngine.checkOutputCapacity at hover ⊢
  rw [h.capacity]
  cases hlimit : e.options.maxOutgoingBufferBytes with
  | none =>
    rw [hlimit] at hover
    cases hover
  | some capacity =>
    rw [hlimit] at hover
    by_cases hroom : e.outgoingBytes + additional > capacity
    · have hmore := h.bytes
      refine ⟨.bufferFull "outgoing bytes" capacity, ?_, rfl⟩
      rw [rejectOver, rejectIf_pos _ (by omega)]
    · rw [rejectOver, rejectIf_neg _ hroom] at hover
      cases hover

/-- A packet that finds no room finds none in a fuller buffer either. -/
theorem Fuller.enqueueCheck {e' : MqttEngine T} (h : e.Fuller B e') {packet : MqttPacket}
    {error : MqttClientError} (hcheck : e.enqueueCheck B packet = .error error)
    (hfull : error.isBufferFull = true) :
    ∃ error', e'.enqueueCheck B packet = .error error' ∧ error'.isBufferFull = true := by
  unfold MqttEngine.enqueueCheck at hcheck ⊢
  rw [h.allowed, h.capable, h.sized, h.count]
  cases hallowed : e.ensureOutgoingAllowed B packet.packetType with
  | error error' =>
    rw [hallowed] at hcheck
    exact ⟨error, hcheck, hfull⟩
  | ok _ =>
    rw [hallowed, ok_bind] at hcheck
    rw [ok_bind]
    by_cases hcount' : e'.outgoingBuffer.length ≥ e.options.maxOutgoingPacketCount
    · rw [rejectIf_pos _ hcount']
      exact ⟨_, rfl, rfl⟩
    have hcount : ¬ e.outgoingBuffer.length ≥ e.options.maxOutgoingPacketCount :=
      fun hge => hcount' (le_trans hge h.packets)
    rw [rejectIf_neg _ hcount, ok_bind] at hcheck
    rw [rejectIf_neg _ hcount', ok_bind]
    cases hcapable : e.validatePacketCapabilities packet with
    | error error' =>
      rw [hcapable] at hcheck
      exact ⟨error, hcheck, hfull⟩
    | ok _ =>
      rw [hcapable, ok_bind] at hcheck
      rw [ok_bind]
      cases hbytes : encoded B packet with
      | error error' =>
        rw [hbytes] at hcheck
        exact ⟨error, hcheck, hfull⟩
      | ok bytes =>
        rw [hbytes, ok_bind] at hcheck
        rw [ok_bind]
        cases hsize : e.checkPacketSize bytes with
        | error error' =>
          rw [hsize] at hcheck
          exact ⟨error, hcheck, hfull⟩
        | ok _ =>
          rw [hsize, ok_bind] at hcheck
          rw [ok_bind]
          cases hcapacity : e.checkOutputCapacity bytes.length with
          | error error' =>
            obtain ⟨error'', hover, hfull''⟩ := h.checkOutputCapacity hcapacity
            rw [hover]
            exact ⟨error'', rfl, hfull''⟩
          | ok _ =>
            rw [hcapacity] at hcheck
            cases hcheck

theorem fuller_append (e : MqttEngine T) (origin : Origin) (packet : MqttPacket) (bytes : Bytes) :
    e.Fuller B (e.appendOutgoing origin packet bytes) where
  allowed := rfl
  capable := rfl
  sized := rfl
  count := rfl
  capacity := rfl
  packets := by
    show _ ≤ (e.outgoingBuffer ++ [bytes]).length
    rw [List.length_append]
    exact Nat.le_add_right _ _
  bytes := by
    show e.outgoingBytes ≤ e.state.queuedBytes + ((e.outgoingBuffer ++ [bytes]).map List.length).sum
    rw [List.map_append, List.sum_append, outgoingBytes]
    omega

theorem waits_append (h : e.Waits B) (origin : Origin) (packet : MqttPacket) (bytes : Bytes) :
    (e.appendOutgoing origin packet bytes).Waits B := by
  intro response rest hresponses
  obtain ⟨hsmall, error, hcheck, hfull⟩ := h response rest hresponses
  exact ⟨hsmall, (fuller_append e origin packet bytes).enqueueCheck hcheck hfull⟩

theorem sendPingInnerAt_sim (hc : e.isConnected = true) (hwaits : e.Waits B) :
    Sim B P e.ledger (sendPingInnerAt B e.now e)
      (fun _ e' => e'.isConnected = true ∧ e'.Waits B ∧ e'.now = e.now) := by
  unfold sendPingInnerAt
  refine Reaches.read_bind ?_
  have hsends : e.ledger.Sends P (pingreqPacket e.mqttVersion) .command := by
    unfold pingreqPacket
    split <;> exact ⟨rfl, .inl rfl, .inr (.inl hc)⟩
  refine .bind (enqueuePacketInner_sim hsends) ?_ ?_
  · rintro _ e₁ ⟨hok, -⟩
    obtain ⟨bytes, rfl⟩ := hok rfl
    exact .done (.tail (.single .sent) .ping)
      ⟨hc, waits_append hwaits .command (pingreqPacket e.mqttVersion) bytes, rfl⟩
  · rintro error e₁ ⟨-, herror⟩
    obtain rfl := herror error rfl
    exact ⟨hc, hwaits, rfl⟩

/-- A retransmission that finds no room is dropped. -/
theorem resend_sim {packet : MqttPacket} (h : e.ledger.Sends P packet .retransmission) :
    Sim B P e.ledger ((resend B packet : Eff _ ε _) e)
      (fun _ e' => e'.isConnected = e.isConnected ∧ e'.inflightQueue = e.inflightQueue ∧
        e'.now = e.now) := by
  unfold resend
  rcases enqueuePacketInner_run (B := B) .retransmission packet e with
    ⟨bytes, hcheck, hrun⟩ | ⟨error, -, hrun⟩
  · rw [Eff.bind_of_ok (Eff.attempt_of_done hrun)]
    obtain ⟨hroom, hencodes⟩ := enqueueCheck_room hcheck
    exact .done (.single (.append .retransmission packet bytes hencodes hroom h
      (enqueueCheck_gate hcheck))) ⟨rfl, rfl, rfl⟩
  · rw [Eff.bind_of_ok (Eff.attempt_of_done hrun)]
    dsimp only
    rw [Eff.update_run]
    split
    · exact .stay ⟨rfl, rfl, rfl⟩
    · exact .done (.single (pushEvent_step (MqttEvent.plain_error error))) ⟨rfl, rfl, rfl⟩

theorem retransmit_sim {packet : MqttPacket} (stream : Option Nat) {id : UInt16}
    (hversion : e.inflightQueue.mqttVersion ≠ 5)
    (hsent : (id, packet) ∈ e.inflightQueue.snapshotForReconnect) (hc : e.isConnected = true) :
    Sim B P e.ledger ((retransmit B e.now (packet, stream) : Eff _ ε _) e)
      (fun _ e' => e'.isConnected = e.isConnected ∧ e'.inflightQueue = e.inflightQueue ∧
        e'.now = e.now) := by
  unfold retransmit
  dsimp only
  cases (packet.setDup true).toBytes B.strict with
  | error error => exact .stay ⟨rfl, rfl, rfl⟩
  | ok bytes =>
    cases stream with
    | some stream => exact .done (.single .sent) ⟨rfl, rfl, rfl⟩
    | none =>
      have hsends : e.ledger.Sends P (packet.setDup true) .retransmission :=
        ⟨hc, hversion, id, packet, hsent, rfl⟩
      refine .bind (resend_sim hsends) (fun _ e₁ h => ?_) fun _ _ h => h
      rw [← h.2.2]
      exact .done (.single .sent) ⟨h.1, h.2.1, rfl⟩

theorem handleRetransmissions_sim (hc : e.isConnected = true) :
    Sim B P e.ledger ((handleRetransmissions B e.now : Eff _ ε _) e) Any := by
  unfold handleRetransmissions
  refine Reaches.read_bind ?_
  rcases e.inflightQueue.getExpiredWithStreamAt_cases e.now with
    ⟨hclock, error, hexpired⟩ | ⟨hclock, expired, inflight, hexpired, hsame, hlast, hsent⟩
  · rw [hexpired]
    exact Sim.panic hclock
  · rw [hexpired]
    have hview : ({ e with inflightQueue := inflight } : MqttEngine T).ledger =
        { e.ledger with lastUpdate := some e.now } := by
      simp only [ledger, ledgerWith, link, retry, hsame.snapshot, hsame.publishQuotaUsed, hsame.tags, hlast,
        hsame.limits.receiveMaximum, hsame.limits.mqttVersion, hsame.limits.retransmissionTimeout]
    refine Reaches.update_bind (Sim.run (.retimed hclock) hview ?_)
    have hturn : ∀ entry ∈ expired, ∀ e' : MqttEngine T,
        (e'.isConnected = true ∧ e'.inflightQueue = inflight ∧ e'.now = e.now) →
        Sim B P e'.ledger ((retransmit B e.now entry : Eff _ ε _) e')
          (fun _ e'' => e''.isConnected = true ∧ e''.inflightQueue = inflight ∧ e''.now = e.now) := by
      rintro ⟨packet, stream⟩ hmem e' ⟨hc', rfl, hnow⟩
      obtain ⟨hversion, id, hid⟩ := hsent _ hmem
      rw [← hnow]
      refine (retransmit_sim stream ?_ (hsame.snapshot ▸ hid) hc').weaken
        fun _ _ h => ⟨h.1.trans hc', h.2⟩
      rw [hsame.limits.mqttVersion]
      exact hversion
    exact (Reaches.forEach expired ({ e with inflightQueue := inflight } : MqttEngine T)
      ⟨hc, rfl, rfl⟩ hturn).any

theorem connectedTick_sim (hc : e.isConnected = true) (hwaits : e.Waits B) :
    Sim B P e.ledger ((connectedTick B e.now : Eff _ ε _) e) Any := by
  unfold connectedTick
  refine Reaches.read_bind ?_
  have hping : Sim B P e.ledger (Eff.onlyWhen (e.pingDue e.now) (sendPingInnerAt B e.now) e)
      (fun _ e' => e'.isConnected = true ∧ e'.Waits B ∧ e'.now = e.now) :=
    .onlyWhen (fun _ => sendPingInnerAt_sim hc hwaits) fun _ => .stay ⟨hc, hwaits, rfl⟩
  refine .attempt_bind hping ?_
  rintro _ e₁ ⟨hc₁, hwaits₁, hnow₁⟩
  refine .bind ((processQueue_sim e₁).keeps timeless_processQueue) ?_ fun _ _ _ => trivial
  rintro _ e₂ ⟨hc₂, hnow₂⟩
  rw [← hnow₁, ← hnow₂]
  exact handleRetransmissions_sim (hc₂ hc₁ hwaits₁)

theorem reconnectTimer_steps (e : MqttEngine T) :
    ReflTransGen (Step B.strict P) e.ledger (e.reconnectTimer e.now).ledger := by
  unfold reconnectTimer
  split
  next hdue =>
    obtain ⟨deadline, hdeadline, hreached⟩ := (Option.any_eq_true _ _).mp hdue
    exact .single (.remind deadline hdeadline (of_decide_eq_true hreached))
  next => exact .refl

theorem handleTickInner_sim (e : MqttEngine T) :
    Sim B P e.ledger ((handleTickInner B e.now : Eff _ ε _) e) Any := by
  unfold handleTickInner
  refine .bind ((checkDeadlines_sim e).keeps (timeless_checkDeadlines e.now)) ?_
    fun _ _ _ => trivial
  rintro _ e₁ ⟨-, hnow₁⟩
  refine .bind ((flushResponses_sim e₁).keeps timeless_flushResponses) ?_ fun _ _ _ => trivial
  rintro _ e₂ ⟨hflushes, hnow₂⟩
  refine Reaches.read_bind (.ite (fun _ => ?_) fun hlive => .ite (fun _ => ?_) fun _ => ?_)
  · refine Reaches.update_bind ?_
    rw [← hnow₁, ← hnow₂]
    exact Reaches.after (reconnectTimer_steps e₂) (takeEvents_sim _).any
  · rw [← hnow₁, ← hnow₂]
    refine .bind (connectionLostAt_sim (.self e₂)) (fun _ e₃ _ => ?_) fun _ _ _ => trivial
    exact Reaches.update_bind (after_event ⟨rfl, rfl, rfl, rfl, rfl⟩ rfl (takeEvents_sim _).any)
  · have hc₂ : e₂.isConnected = true := Decidable.not_not.mp hlive
    have hwaits : e₂.Waits B := by
      rcases hflushes with hclosed | ⟨-, -, hwaits⟩
      · cases hclosed.1.symm.trans hc₂
      · exact hwaits
    rw [← hnow₁, ← hnow₂]
    exact .bind (connectedTick_sim hc₂ hwaits) (fun _ e₃ _ => (takeEvents_sim e₃).any)
      fun _ _ _ => trivial

/-! ## The output -/

theorem resumeIncoming_sim (on : P.on none) (e : MqttEngine T) :
    Sim B P e.ledger ((resumeIncoming B : Eff _ ε _) e) Any := by
  refine Reaches.read_bind (.ite (fun _ => .stay trivial) fun _ => ?_)
  exact .bind (handleIncomingInner_sim on [] e) (fun _ e₁ _ => .done .refl trivial) fun _ _ _ => trivial

theorem outputLoop_sim (on : P.on none) (takes : P.takes) :
    ∀ (fuel : Nat) (bytes : Bytes) (e : MqttEngine T),
      Sim B P e.ledger ((outputLoop B fuel bytes : Eff _ ε _) e) Any
  | 0, _, _ => .stay trivial
  | fuel + 1, bytes, e => by
    unfold outputLoop
    refine Reaches.read_bind (Reaches.update_bind (.step_first (.flushed takes) ?_))
    let e₁ : MqttEngine T :=
      { e.record (.taken e.outgoingBuffer.flatten) with outgoingBuffer := [] }
    refine .bind (flushResponses_sim e₁) (fun _ e₂ _ => ?_) fun _ _ _ => trivial
    refine .bind (resumeIncoming_sim on e₂) (fun _ e₃ _ => ?_) fun _ _ _ => trivial
    refine .bind (processQueue_sim e₃) (fun _ e₄ _ => ?_) fun _ _ _ => trivial
    refine Reaches.read_bind (.ite (fun _ => .stay trivial) fun _ => ?_)
    exact outputLoop_sim on takes fuel _ e₄

theorem takeOutgoingInner_sim (on : P.on none) (takes : P.takes) (e : MqttEngine T) :
    Sim B P e.ledger ((takeOutgoingInner B : Eff _ ε _) e) Any :=
  Reaches.read_bind (outputLoop_sim on takes _ _ e)

end MqttEngine

end FlowSdk
