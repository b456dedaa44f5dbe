/-
  FlowSdk.Contract.Lifecycle — a connection that is over stays over.

  The flags of the engine agree with each other along every run. A connection that ends in any
  way (failed, refused, lost, closed by either side) leaves the input closed, it stays closed
  until a CONNECT is accepted, and closed input is not looked at: not by the rest of the call
  that closed it, not by later calls and not when back-pressure is released.

  Main results:
    1. `flags_step`              what the flags say of each other
    2. `settled_step`            a connection that ends closes the input
    3. `closed_input_terminal`   closed input is never read
-/
import FlowSdk.Contract.Rejected
import FlowSdk.Refine.Moment

set_option linter.unusedSectionVars false

namespace FlowSdk

open Machine Wire Ledger
open Relation (ReflTransGen)

variable {T : Type} [TimePoint T] {ε : Type} {B : Build} {strict : Bool} {P : Permit} {l l' : Ledger T}

/-! ## The flags -/

structure Flags (l : Ledger T) : Prop where
  connected : l.connected = true → l.connecting = false ∧ l.link.inputClosed = false
  connecting : l.connecting = true → l.link.inputClosed = false
  reauthenticating : l.reauthenticating = true → l.connected = true
  idle : l.connected = false → l.connecting = false → l.responses = []

namespace Flags

theorem finish (ih : Flags l) (id : UInt16) (ev : MqttEvent) : Flags (l.finish id ev) := { ih with }

/-- With the input closed there is no connection. -/
theorem of_closed (ih : Flags l) (h : l.link.inputClosed = true) :
    l.connected = false ∧ l.connecting = false ∧ l.responses = [] := by
  have hconnected : l.connected = false := by
    by_contra hc
    exact Bool.false_ne_true ((ih.connected (Bool.not_eq_false _ ▸ hc)).2.symm.trans h)
  have hconnecting : l.connecting = false := by
    by_contra hc
    exact Bool.false_ne_true ((ih.connecting (Bool.not_eq_false _ ▸ hc)).symm.trans h)
  exact ⟨hconnected, hconnecting, ih.idle hconnected hconnecting⟩

end Flags

theorem flags_closed {l : Ledger T} (h : l.connected = false ∧ l.connecting = false)
    (hreauth : l.reauthenticating = false) (hresponses : l.responses = []) : Flags l where
  connected hc := by cases h.1.symm.trans hc
  connecting hc := by cases h.2.symm.trans hc
  reauthenticating hr := by cases hreauth.symm.trans hr
  idle _ _ := hresponses

theorem flags_step (h : Step strict P l l') (stored : Stored strict P l) (ih : Flags l) :
    Flags l' := by
  cases h with
  | evict room full => exact (stored.not_full room full).elim
  | broken _ _ _ front unencodable => exact (stored.not_broken front unencodable).elim
  | stall _ _ _ _ possible => exact (stored.not_stalled possible).elim
  | accept id => cases id <;> exact { ih with }
  | requeue id => cases id <;> exact { ih with }
  | send priority item => cases item.packet.tracked <;> exact { ih with }
  | reject priority item rest id =>
    have hrest : Flags (l.dequeue rest (item.packet.size strict)) := { ih with }
    exact hrest.finish id _
  | untracked id packet rest bytes =>
    have hrest : Flags ({ l with replay := rest }.append .replay packet bytes) := { ih with }
    exact hrest.finish id _
  | abort id packet rest =>
    have hrest : Flags { l with replay := rest } := { ih with }
    exact hrest.finish id _
  | complete stream ack id packet ev =>
    have hrecord : Flags (l.record (.completed ack)) := { ih with }
    exact hrecord.finish id ev
  | expire id packet rest =>
    have hrest : Flags { l with restoring := rest } := { ih with }
    exact hrest.finish id _
  | connect packet bytes opens idle closed =>
    exact {
      connected := fun hc => by cases closed.1.symm.trans hc
      connecting := fun _ => rfl
      reauthenticating := fun hr => by cases hr
      idle := fun _ hc => by cases hc }
  | connack result limit reserve replaying connecting =>
    exact {
      connected := fun _ => ⟨rfl, ih.connecting connecting⟩
      connecting := fun hc => by cases hc
      reauthenticating := fun _ => rfl
      idle := fun hc _ => by cases hc }
  | refuse => exact flags_closed ⟨rfl, rfl⟩ rfl rfl
  | reset settled => exact flags_closed ⟨rfl, rfl⟩ rfl rfl
  | close settled => exact flags_closed ⟨rfl, rfl⟩ rfl rfl
  | disconnect => exact flags_closed ⟨rfl, rfl⟩ rfl rfl
  | reauthenticate active live => exact { ih with reauthenticating := live }
  | respond packets live =>
    refine { ih with idle := fun hconnected hconnecting => ?_ }
    rcases live with hlive | hlive
    · cases hconnected.symm.trans hlive
    · cases hconnecting.symm.trans hlive
  | answered packet rest front =>
    refine { ih with idle := fun hconnected hconnecting => ?_ }
    cases front.symm.trans (ih.idle hconnected hconnecting)
  | load outbound received control replay wide fits room fresh closed reserved empty unsent sessions
      idle starts stages =>
    exact {
      connected := fun hc => by cases closed.1.symm.trans hc
      connecting := fun hc => by cases closed.2.symm.trans hc
      reauthenticating := ih.reauthenticating
      idle := ih.idle }
  | migrate => exact flags_closed ⟨rfl, rfl⟩ rfl rfl
  | _ => exact { ih with }

/-! ## The end of a connection -/

/-- There is a connection, or the input is closed. -/
def Settled (l : Ledger T) : Prop :=
  l.connected = true ∨ l.connecting = true ∨ l.link.inputClosed = true

theorem settled_finish {id : UInt16} {ev : MqttEvent} (h : Settled l) : Settled (l.finish id ev) := h

theorem settled_step (h : Step strict P l l') (stored : Stored strict P l) (ih : Settled l) :
    Settled l' := by
  cases h with
  | evict room full => exact (stored.not_full room full).elim
  | broken _ _ _ front unencodable => exact (stored.not_broken front unencodable).elim
  | stall _ _ _ _ possible => exact (stored.not_stalled possible).elim
  | accept id => cases id <;> exact ih
  | requeue id => cases id <;> exact ih
  | send priority item => cases item.packet.tracked <;> exact ih
  | untracked id packet rest bytes =>
    exact settled_finish (l := { l with replay := rest }.append .replay packet bytes) ih
  | complete stream ack => exact settled_finish (l := l.record (.completed ack)) ih
  | connect => exact .inr (.inl rfl)
  | connack => exact .inl rfl
  | refuse => exact .inr (.inr rfl)
  | reset settled => exact .inr (.inr rfl)
  | close settled => exact .inr (.inr rfl)
  | disconnect => exact .inr (.inr rfl)
  | load => exact .inr (.inr rfl)
  | migrate => exact .inr (.inr rfl)
  | _ => exact ih

theorem closed_finish {id : UInt16} {ev : MqttEvent} (h : l.link.inputClosed = true) :
    (l.finish id ev).link.inputClosed = true := h

/-- Only a CONNECT opens the input again. -/
theorem closed_step (h : Step strict P l l') (stored : Stored strict P l) (hopens : ¬ P.opens)
    (ih : l.link.inputClosed = true) : l'.link.inputClosed = true := by
  cases h with
  | evict room full => exact (stored.not_full room full).elim
  | broken _ _ _ front unencodable => exact (stored.not_broken front unencodable).elim
  | accept id => cases id <;> exact ih
  | requeue id => cases id <;> exact ih
  | send priority item => cases item.packet.tracked <;> exact ih
  | untracked id packet rest bytes =>
    exact closed_finish (l := { l with replay := rest }.append .replay packet bytes) ih
  | complete stream ack => exact closed_finish (l := l.record (.completed ack)) ih
  | connect packet bytes opens => exact absurd opens hopens
  | refuse => rfl
  | reset settled => rfl
  | close settled => rfl
  | disconnect => rfl
  | load => rfl
  | migrate => rfl
  | _ => exact ih

/-! ## Closed input -/

namespace MqttEngine

variable {e : MqttEngine T}

theorem incomingLoop_closed (h : e.state.inputClosed = true) :
    ∀ fuel : Nat, (incomingLoop B fuel : Eff _ ε _) e = .done (.ok ()) e
  | 0 => rfl
  | fuel + 1 => by
    unfold incomingLoop
    rw [Eff.read_bind, if_pos (.inr h)]
    rfl

theorem handleIncomingInner_closed (h : e.state.inputClosed = true) (data : Bytes) :
    (handleIncomingInner B data : Eff _ ε _) e = .done (.ok e.events) { e with events := [] } := by
  unfold handleIncomingInner
  rw [Eff.read_bind, if_pos h]
  rfl

theorem resumeIncoming_closed (h : e.state.inputClosed = true) :
    (resumeIncoming B : Eff _ ε _) e = .done (.ok ()) e := by
  unfold resumeIncoming
  rw [Eff.read_bind, if_pos h]
  rfl

theorem processQueue_closed (h : e.isConnected = false) :
    (processQueue B : Eff _ ε _) e = .done (.ok ()) e := by
  unfold processQueue processQueueWithEncoding
  rw [Eff.read_bind, if_pos (by rw [h]; decide)]
  rfl

theorem handlePacket_closed (h : e.state.inputClosed = true) (packet : MqttPacket)
    (stream : Option Nat) : (handlePacket B packet stream : Eff _ ε _) e =
      .done (.ok (e.events, [])) { e with events := [] } := by
  have haccept : (acceptIncoming B packet.packetType : Eff _ ε _) e = .done (.ok false) e := by
    unfold acceptIncoming
    rw [Eff.read_bind, if_pos h]
    rfl
  unfold handlePacket
  rw [Eff.bind_of_ok haccept]
  rfl

theorem ingestStreamPacketInner_closed (h : e.state.inputClosed = true)
    (hconnected : e.isConnected = false) (packet : MqttPacket) (stream : Nat) :
    (ingestStreamPacketInner B packet stream : Eff _ ε _) e =
      .done (.ok (e.events, [])) { e with lastPacketReceived := e.now, events := [] } := by
  let e₁ : MqttEngine T := { e with lastPacketReceived := e.now, events := [] }
  have hhandled : (handlePacket B packet (some stream) : Eff _ ε _) e₁ = .done (.ok ([], [])) e₁ :=
    handlePacket_closed (e := e₁) h packet (some stream)
  have hfinish : (finishIngest B [] : Eff _ ε _) e₁ = .done (.ok ([], [])) e₁ := by
    show ((processQueue B : Eff (MqttEngine T) ε Unit) >>= _) e₁ = _
    rw [Eff.bind_of_ok (processQueue_closed (e := e₁) hconnected)]
    rfl
  show ((handlePacket B packet (some stream) : Eff (MqttEngine T) ε _) >>= _) e₁ = _
  rw [Eff.bind_of_ok hhandled]
  dsimp only
  rw [Eff.bind_of_ok hfinish]
  show Outcome.done (.ok (e.events ++ [] ++ [], [])) e₁ = _
  rw [List.append_nil, List.append_nil]

theorem takeOutgoingInner_closed (h : e.state.inputClosed = true)
    (hconnected : e.isConnected = false) (hresponses : e.state.responses = []) :
    (takeOutgoingInner B : Eff _ ε _) e = .done (.ok e.outgoingBuffer.flatten)
      { e.record (.taken e.outgoingBuffer.flatten) with outgoingBuffer := [] } := by
  let e₁ : MqttEngine T := { e.record (.taken e.outgoingBuffer.flatten) with outgoingBuffer := [] }
  have hflush : (flushResponses B : Eff _ ε _) e₁ = .done (.ok ()) e₁ :=
    flushResponses_waits (waits_nil (e := e₁) hresponses)
  show ((flushResponses B : Eff (MqttEngine T) ε Unit) >>= _) e₁ = _
  rw [Eff.bind_of_ok hflush, Eff.bind_of_ok (resumeIncoming_closed (e := e₁) h),
    Eff.bind_of_ok (processQueue_closed (e := e₁) hconnected)]
  rfl

/-! ## Runs -/

/-- There is a connection, or a CONNECT waits for its answer. -/
def Live (e : MqttEngine T) : Prop := e.isConnected = true ∨ e.state.connecting = true

variable {options : MqttClientOptions} {created : T} {start : MqttEngine T}
  {allowed : MqttEngine T → Call T → Prop}

theorem attends_free : Attends .free := ⟨trivial, trivial, trivial⟩

theorem Moment.flags (hnew : tryNewAt options created = .ok start)
    (moment : Moment B allowed start e) : Stored B.strict .free e.ledger ∧ Flags e.ledger := by
  obtain ⟨rfl, -⟩ := tryNewAt_ok hnew
  have hstart : Stored B.strict .free (newAt options created).ledger ∧
      Flags (newAt options created).ledger :=
    ⟨stored_blank _ _ _ _ _, flags_closed ⟨rfl, rfl⟩ rfl rfl⟩
  exact moment.invariant (I := fun l => Stored B.strict .free l ∧ Flags l)
    (fun e c _ => allowed_free c) attends_free
    (fun l l' hstep ih => ⟨stored_step hstep ih.1, flags_step hstep ih.1 ih.2⟩) hstart

/-- A connection that is over when some code has run has left the input closed. -/
theorem closed_of_steps {e' : MqttEngine T} (hstored : Stored B.strict .free e.ledger)
    (hsteps : ReflTransGen (Step B.strict .free) e.ledger e'.ledger) (hlive : e.Live)
    (hover : ¬ e'.Live) : e'.state.inputClosed = true := by
  have hsettled : Stored B.strict .free e'.ledger ∧ Settled e'.ledger :=
    invariant_steps (I := fun l => Stored B.strict .free l ∧ Settled l)
      (fun l l' hstep ih => ⟨stored_step hstep ih.1, settled_step hstep ih.1 ih.2⟩) hsteps
      ⟨hstored, hlive.imp_right .inl⟩
  rcases hsettled.2 with hc | hc | hc
  · exact absurd (.inl hc) hover
  · exact absurd (.inr hc) hover
  · exact hc

end MqttEngine

/-- The calls of CONNECT. -/
def Call.isConnect : Call T → Bool
  | .timed _ .connect | .host _ .connect => true
  | _ => false

/-- Everything is allowed, except CONNECT. -/
def Permit.shut : Permit := { Permit.free with opens := False }

namespace MqttEngine

variable {e : MqttEngine T}

theorem allowed_shut {c : Call T} (h : c.isConnect = false) : c.Allowed B .shut e := by
  have hfree : c.Allowed B .free e := allowed_free c
  have haction (action : Action) (hother : action ≠ .connect) : action.Allowed B .shut e :=
    allowed_action (P := .shut) { Permit.Lenient.free with } action
      (fun hconnect => absurd hconnect hother) (fun _ _ => .inl trivial) fun _ _ _ => trivial
  cases c with
  | timed now action =>
    refine ⟨trivial, haction action ?_⟩
    rintro rfl
    cases h
  | host now action =>
    refine ⟨trivial, haction action ?_⟩
    rintro rfl
    cases h
  | _ => exact hfree

/-- Closed input stays closed until a CONNECT is accepted. -/
theorem closed_after (hstored : Stored B.strict .free e.ledger) (h : e.state.inputClosed = true)
    {c : Call T}
    (hrejected : c.isConnect = true → ∃ error e', call B c e = .done (.error error) e') :
    (e.after B c).state.inputClosed = true := by
  cases hc : c.isConnect with
  | false =>
    have hsteps := (call_sim (B := B) (e := e) (allowed_shut hc)).steps
    rw [after_eq]
    have hstart : Stored B.strict .shut e.ledger ∧ e.ledger.link.inputClosed = true :=
      ⟨hstored.under id, h⟩
    exact (invariant_steps (I := fun l => Stored B.strict .shut l ∧ l.link.inputClosed = true)
      (fun l l' hstep ih => ⟨stored_step hstep ih.1, closed_step hstep ih.1 id ih.2⟩) hsteps hstart).2
  | true =>
    obtain ⟨error, e', hcall⟩ := hrejected hc
    have hconnect : ∃ now, c = .timed now .connect ∨ c = .host now .connect := by
      unfold Call.isConnect at hc
      split at hc
      · exact ⟨_, .inl rfl⟩
      · exact ⟨_, .inr rfl⟩
      · cases hc
    obtain ⟨now, hconnect⟩ := hconnect
    have he' : e.after B c = e' := by
      unfold after
      rw [hcall]
    rw [he', rejected_connect hconnect hcall]
    exact h

variable {options : MqttClientOptions} {created : T} {start : MqttEngine T}

/-- At every moment of a run the flags agree. A connection that ends, in a later call or with
the next packet, leaves the input closed; and with the input closed neither the rest of the
call nor a later call reads a packet, until a CONNECT is not rejected. -/
theorem closed_input_terminal (hnew : tryNewAt options created = .ok start)
    (moment : Moment B (fun _ _ => True) start e) :
    ((e.isConnected = true → e.state.connecting = false ∧ e.state.inputClosed = false) ∧
      (e.state.connecting = true → e.state.inputClosed = false) ∧
      (e.state.reauthenticating = true → e.isConnected = true)) ∧
    (e.Live →
      (∀ c, ¬ (e.after B c).Live → (e.after B c).state.inputClosed = true) ∧
      ∀ r e', (parseNext B : Eff _ MqttClientError _) e = .done r e' → ¬ e'.Live →
        e'.state.inputClosed = true) ∧
    (e.state.inputClosed = true →
      (∀ c : Call T, (c.isConnect = true → ∃ error e', call B c e = .done (.error error) e') →
        (e.after B c).state.inputClosed = true) ∧
      (∀ fuel, (incomingLoop B fuel : Eff _ MqttClientError _) e = .done (.ok ()) e) ∧
      (processQueue B : Eff _ MqttClientError _) e = .done (.ok ()) e ∧
      (∀ now data, perform B now (.handleIncoming data) e =
        .done (.ok (.events e.events)) { e with events := [] }) ∧
      (∀ now packet stream, perform B now (.ingestStreamPacket packet stream) e =
        .done (.ok (.ingested e.events [])) { e with lastPacketReceived := e.now, events := [] }) ∧
      ∀ now, perform B now .takeOutgoing e = .done (.ok (.bytes e.outgoingBuffer.flatten))
        { e.record (.taken e.outgoingBuffer.flatten) with outgoingBuffer := [] }) := by
  obtain ⟨hstored, hflags⟩ := moment.flags hnew
  refine ⟨⟨hflags.connected, hflags.connecting, hflags.reauthenticating⟩, fun hlive => ⟨?_, ?_⟩,
    fun hclosed => ?_⟩
  · intro c hover
    have hsteps := (call_sim (B := B) (e := e) (allowed_free c)).steps
    rw [← after_eq] at hsteps
    exact closed_of_steps hstored hsteps hlive hover
  · intro r e' hparse hover
    have hsim := parseNext_sim (B := B) (P := .free) (ε := MqttClientError) trivial e
    rw [hparse] at hsim
    exact closed_of_steps hstored hsim.steps hlive hover
  · obtain ⟨hconnected, -, hresponses⟩ := hflags.of_closed hclosed
    have hnone : e.state.responses = [] := List.map_eq_nil_iff.mp hresponses
    refine ⟨fun c => closed_after hstored hclosed, incomingLoop_closed hclosed,
      processQueue_closed hconnected, fun now data => ?_, fun now packet stream => ?_, fun now => ?_⟩
    · exact Eff.bind_of_ok (handleIncomingInner_closed hclosed data)
    · exact Eff.bind_of_ok (ingestStreamPacketInner_closed hclosed hconnected packet stream)
    · exact Eff.bind_of_ok (takeOutgoingInner_closed hclosed hconnected hnone)

/-- An engine that hung up before CONNACK. -/
def hungUp : MqttEngine Timestamp :=
  follow (.ordered true) (newAt {} 0) [.timed 0 .connect, .timed 0 (.disconnect 0 [])]

theorem closed_input_terminal_hungUp : hungUp.state.inputClosed = true ∧
    ∀ now data, perform (.ordered true) now (.handleIncoming data) hungUp =
      .done (.ok (.events hungUp.events)) { hungUp with events := [] } := by
  have hrun : Run (.ordered true) (fun _ _ => True) (newAt {} 0) hungUp :=
    Run.start.follow (by decide +kernel)
  have hclosed : hungUp.state.inputClosed = true := by decide +kernel
  have hmoment := Moment.between hrun (by decide +kernel)
  exact ⟨hclosed, ((closed_input_terminal tryNewAt_default hmoment).2.2 hclosed).2.2.2.1⟩

end MqttEngine

end FlowSdk
