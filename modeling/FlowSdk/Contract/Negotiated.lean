/-
  FlowSdk.Contract.Negotiated — what CONNACK decides holds for its connection only.

  Between the reset of a transport and the next CONNACK the limits of the connection are those
  of MQTT, the alias tables are empty and no QoS 1 exchange is open (`Pristine`). CONNACK
  overrides the limits that it names, and settling the session afterwards touches none of
  them. So right after a CONNACK the limits are a function of this CONNACK and the options.

  The limit on publications in flight is the exception: with `receive_maximum = 0` in the
  options, which stands for 65535, the minimum with the value of the broker is 0 and is
  ignored.

  Main results:
    1. `fresh_step`             before CONNACK nothing was negotiated
    2. `agreed_step`            settling the session leaves the limits alone
    3. `negotiated_by_connack`  the limits of a connection, from its CONNACK
    4. `zero_receive_maximum`   the limit of the broker that is ignored
-/
import FlowSdk.Contract.Lifecycle

set_option linter.unusedSectionVars false

namespace FlowSdk

open Machine Wire Ledger
open Relation (ReflTransGen)

variable {T : Type} [TimePoint T] {ε : Type} {B : Build} {strict : Bool} {P : Permit} {l l' : Ledger T}

/-! ## Before CONNACK -/

/-- No QoS 1 exchange of the broker is open. -/
def NoQos1 (received : AList (fun _ : ReceiveKey => ReceiveStage)) : Prop :=
  ∀ key, received.lookup key ≠ some (.publish 1)

/-- Nothing of an earlier connection is left. -/
structure Pristine (l : Ledger T) : Prop where
  settings : l.link.settings = .unset l.limits.keepAlive
  incoming : l.link.incomingAliases = ∅
  outgoing : l.link.outgoingAliases = ∅
  limit : l.limits.receiveMaximum > 0 → l.receiveMaximum = l.limits.receiveMaximum
  received : NoQos1 l.received

structure Fresh (l : Ledger T) : Prop where
  pristine : opened l.trace = false ∨ l.connecting = true → Pristine l
  live : l.connected = true ∨ l.connecting = true → opened l.trace = true

/-! ### Records -/

theorem opened_quiet {o : Obs} (h : o.quiet) (past : List Obs) : opened (o :: past) = opened past := by
  cases o with
  | event ev => rfl
  | pubrecSent id reason => rfl
  | _ => cases h

theorem opened_sends {packet : MqttPacket} {origin : Origin} (h : l.Sends P packet origin)
    (past : List Obs) : opened (.appended origin packet :: past) = opened past := by
  cases origin with
  | command =>
    rw [opened, decide_eq_false h.not_connect, Bool.false_or]
  | _ => rfl

theorem opened_disconnect {packet : MqttPacket} (h : packet.packetType = .disconnect)
    (past : List Obs) : opened (.appended .command packet :: past) = opened past := by
  rw [opened, h]
  rfl

/-! ### Incoming exchanges -/

section Received

variable {received : AList (fun _ : ReceiveKey => ReceiveStage)}

theorem noQos1_erase (key : ReceiveKey) (h : NoQos1 received) : NoQos1 (received.erase key) := by
  intro k
  by_cases hk : k = key
  · rw [hk, AList.lookup_erase]
    exact fun h => (by cases h)
  · rw [AList.lookup_erase_ne hk]
    exact h k

theorem noQos1_insert (key : ReceiveKey) {stage : ReceiveStage} (hstage : stage ≠ .publish 1)
    (h : NoQos1 received) : NoQos1 (received.insert key stage) := by
  intro k
  by_cases hk : k = key
  · rw [hk, AList.lookup_insert]
    exact fun heq => hstage (Option.some.inj heq)
  · rw [AList.lookup_insert_ne hk]
    exact h k

theorem noQos1_retain : NoQos1 (retain (fun _ stage => stage ≠ .publish 1) received) := by
  intro k h
  rw [lookup_retain] at h
  cases hk : received.lookup k with
  | none =>
    rw [hk] at h
    cases h
  | some stage =>
    rw [hk] at h
    by_cases hstage : stage = .publish 1
    · subst hstage
      cases h
    · simp [hstage] at h

end Received

/-! ### Steps -/

theorem pristine_reset (l : Ledger T) : Pristine (l.reset strict) where
  settings := rfl
  incoming := rfl
  outgoing := rfl
  limit h := if_pos h
  received := noQos1_retain

theorem Pristine.finish (h : Pristine l) (id : UInt16) (ev : MqttEvent) : Pristine (l.finish id ev) :=
  { h with }

namespace Fresh

theorem finish (ih : Fresh l) (id : UInt16) (ev : MqttEvent) : Fresh (l.finish id ev) :=
  ⟨fun h => (ih.pristine h).finish id ev, ih.live⟩

/-- On a connection nothing is said about what was negotiated. -/
theorem busy (ih : Fresh l) (flags : Flags l) (hc : l.connected = true) :
    ¬ (opened l.trace = false ∨ l.connecting = true) := by
  rintro (h | h)
  · cases h.symm.trans (ih.live (.inl hc))
  · cases h.symm.trans (flags.connected hc).1

/-- A ledger with another record of the same kind. -/
theorem recorded (ih : Fresh l) {o : Obs} (h : opened (o :: l.trace) = opened l.trace) :
    Fresh (l.record o) :=
  ⟨fun hidle => { ih.pristine (h ▸ hidle) with }, fun hlive => h.trans (ih.live hlive)⟩

/-- A ledger whose connection is over. -/
theorem closed (ih : Fresh l) : Fresh l.close :=
  ⟨fun h => by
    have hidle := h.resolve_right (fun h => (by cases h))
    exact { ih.pristine (.inl hidle) with },
   fun h => h.elim (fun h => (by cases h)) fun h => (by cases h)⟩

end Fresh

theorem fresh_reset (l : Ledger T) : Fresh (l.reset strict) :=
  ⟨fun _ => pristine_reset l, fun h => h.elim (fun h => (by cases h)) fun h => (by cases h)⟩

theorem fresh_step (h : Step strict P l l') (stored : Stored strict P l) (flags : Flags l)
    (hreopen : ¬ P.reopen) (hmigrate : ¬ P.migrate) (ih : Fresh l) : Fresh l' := by
  cases h with
  | evict room full => exact (stored.not_full room full).elim
  | broken _ _ _ front unencodable => exact (stored.not_broken front unencodable).elim
  | stall _ _ _ _ possible => exact (stored.not_stalled possible).elim
  | note o quiet => exact ih.recorded (opened_quiet quiet _)
  | append origin packet bytes encodes room sends =>
    have hsame : Fresh (l.record (.appended origin packet)) := ih.recorded (opened_sends sends _)
    exact ⟨fun h => { hsame.pristine h with }, hsame.live⟩
  | register topicAlias topic publishes allowed nonzero =>
    refine ⟨fun h => absurd ?_ nonzero, ih.live⟩
    rw [(ih.pristine h).settings] at allowed
    exact UInt16.le_zero_iff.mp allowed
  | resolve stream topicAlias topic connected =>
    exact ⟨fun h => absurd h (ih.busy flags connected), ih.live⟩
  | accept id => cases id <;> exact ⟨fun h => { ih.pristine h with }, ih.live⟩
  | requeue id => cases id <;> exact ⟨fun h => { ih.pristine h with }, ih.live⟩
  | send priority item rest bytes front drains =>
    cases item.packet.tracked <;>
      exact ⟨fun h => absurd h (ih.busy flags drains.connected), ih.live⟩
  | reject priority item rest id error front drains =>
    have hrest : Fresh (l.dequeue rest (item.packet.size strict)) :=
      ⟨fun h => absurd h (ih.busy flags drains.connected), ih.live⟩
    exact hrest.finish id _
  | untracked id packet rest bytes error front connected =>
    have hrest : Fresh ({ l with replay := rest }.append .replay packet bytes) :=
      ⟨fun h => absurd h (ih.busy flags connected), ih.live⟩
    exact hrest.finish id _
  | abort id packet rest error front connected =>
    have hrest : Fresh { l with replay := rest } :=
      ⟨fun h => absurd h (ih.busy flags connected), ih.live⟩
    exact hrest.finish id _
  | complete stream ack id packet ev => exact (ih.recorded rfl).finish id ev
  | expire id packet rest =>
    have hrest : Fresh { l with restoring := rest } :=
      ⟨fun h => { ih.pristine h with }, ih.live⟩
    exact hrest.finish id _
  | connect packet bytes opens idle closed unstale isConnect encodes room wide first =>
    have hpristine := ih.pristine (.inl (first.resolve_left hreopen))
    refine ⟨fun _ => { hpristine with }, fun _ => ?_⟩
    show opened (.appended .command packet :: l.trace) = true
    rw [opened, decide_eq_true isConnect, Bool.true_or]
  | connack result limit reserve replaying connecting =>
    have hopened := ih.live (.inr connecting)
    exact ⟨fun h => h.elim (fun h => (by cases h.symm.trans hopened)) fun h => (by cases h),
      fun _ => hopened⟩
  | refuse => exact fresh_reset _
  | reset settled => exact fresh_reset l
  | close settled => exact ih.closed.recorded rfl
  | disconnect packet bytes settled connected isDisconnect =>
    have hsame := ih.recorded (opened_disconnect isDisconnect l.trace)
    have hsent : Fresh (l.append .command packet bytes) :=
      ⟨fun h => { hsame.pristine h with }, hsame.live⟩
    exact hsent.closed.recorded rfl
  | deliver key message connected => exact ⟨fun h => absurd h (ih.busy flags connected), ih.live⟩
  | bind previous key stage same unknown stored =>
    refine ⟨fun h => ?_, ih.live⟩
    have hstage : stage ≠ .publish 1 := by
      rintro rfl
      exact (ih.pristine h).received previous stored
    exact { ih.pristine h with
      received := noQos1_insert key hstage (noQos1_erase previous (ih.pristine h).received) }
  | settle key =>
    exact ⟨fun h => { ih.pristine h with received := noQos1_erase key (ih.pristine h).received },
      ih.live⟩
  | confirm key =>
    exact ⟨fun h => { ih.pristine h with
      received := noQos1_insert key (fun h => nomatch h) (ih.pristine h).received }, ih.live⟩
  | refusePublish id =>
    exact ⟨fun h => { ih.pristine h with
      received := noQos1_erase (none, id) (ih.pristine h).received }, ih.live⟩
  | pubrel key =>
    exact ⟨fun h => { ih.pristine h with
      received := noQos1_insert key (fun h => nomatch h) (ih.pristine h).received }, ih.live⟩
  | release key =>
    exact ⟨fun h => { ih.pristine h with received := noQos1_erase key (ih.pristine h).received },
      ih.live⟩
  | discard => exact ⟨fun h => { ih.pristine h with received := fun _ h => nomatch h }, ih.live⟩
  | load outbound received control replay wide fits room fresh closed reserved empty unsent sessions
      idle starts stages =>
    exact ⟨fun h => { ih.pristine h with received := stages }, ih.live⟩
  | migrate limits timeout retry now received control replay migrates => exact absurd migrates hmigrate
  | _ => exact ⟨fun h => { ih.pristine h with }, ih.live⟩

/-! ## After CONNACK -/

/-- The limits of a connection that was opened with some settings and a limit on publications
in flight, before any packet of it was handled. -/
structure Agreed (settings : Settings) (limit : UInt16) (l : Ledger T) : Prop where
  settings : l.link.settings = settings
  incoming : l.link.incomingAliases = ∅
  outgoing : l.link.outgoingAliases = ∅
  limit : l.receiveMaximum = limit
  received : NoQos1 l.received

/-- The engine settles the session: no packet is handled and no command is carried out. -/
structure Quiet (P : Permit) : Prop where
  publishes : ¬ P.publishes
  opens : ¬ P.opens
  migrate : ¬ P.migrate
  on : ∀ stream, ¬ P.on stream

structure Settling (settings : Settings) (limit : UInt16) (l : Ledger T) : Prop where
  connecting : l.connecting = false
  agreed : l.connected = true → Agreed settings limit l

variable {settings : Settings} {limit : UInt16}

theorem Settling.finish (ih : Settling settings limit l) (id : UInt16) (ev : MqttEvent) :
    Settling settings limit (l.finish id ev) :=
  ⟨ih.connecting, fun h => { ih.agreed h with }⟩

theorem settling_closed {l : Ledger T} (h : l.connected = false ∧ l.connecting = false) :
    Settling settings limit l :=
  ⟨h.2, fun hc => by cases h.1.symm.trans hc⟩

theorem agreed_step (h : Step strict P l l') (stored : Stored strict P l) (quiet : Quiet P)
    (ih : Settling settings limit l) : Settling settings limit l' := by
  cases h with
  | evict room full => exact (stored.not_full room full).elim
  | broken _ _ _ front unencodable => exact (stored.not_broken front unencodable).elim
  | stall _ _ _ _ possible => exact (stored.not_stalled possible).elim
  | register topicAlias topic publishes => exact absurd publishes quiet.publishes
  | resolve stream topicAlias topic connected on => exact absurd on (quiet.on stream)
  | accept id => cases id <;> exact ⟨ih.connecting, fun h => { ih.agreed h with }⟩
  | requeue id => cases id <;> exact ⟨ih.connecting, fun h => { ih.agreed h with }⟩
  | send priority item =>
    cases item.packet.tracked <;> exact ⟨ih.connecting, fun h => { ih.agreed h with }⟩
  | reject priority item rest id =>
    have hrest : Settling settings limit (l.dequeue rest (item.packet.size strict)) :=
      ⟨ih.connecting, fun h => { ih.agreed h with }⟩
    exact hrest.finish id _
  | untracked id packet rest bytes =>
    have hrest : Settling settings limit ({ l with replay := rest }.append .replay packet bytes) :=
      ⟨ih.connecting, fun h => { ih.agreed h with }⟩
    exact hrest.finish id _
  | abort id packet rest =>
    have hrest : Settling settings limit { l with replay := rest } :=
      ⟨ih.connecting, fun h => { ih.agreed h with }⟩
    exact hrest.finish id _
  | complete stream ack id packet ev sent tag on => exact absurd on (quiet.on stream)
  | answer stream id packet ev sent tag on => exact absurd on (quiet.on stream)
  | expire id packet rest =>
    have hrest : Settling settings limit { l with restoring := rest } :=
      ⟨ih.connecting, fun h => { ih.agreed h with }⟩
    exact hrest.finish id _
  | connect packet bytes opens => exact absurd opens quiet.opens
  | connack result limit reserve replaying connecting => cases ih.connecting.symm.trans connecting
  | refuse => exact settling_closed ⟨rfl, rfl⟩
  | reset settled => exact settling_closed ⟨rfl, rfl⟩
  | close settled => exact settling_closed ⟨rfl, rfl⟩
  | disconnect => exact settling_closed ⟨rfl, rfl⟩
  | deliver key message connected unknown names qos handles => exact absurd handles.1 (quiet.on _)
  | bind previous key stage same unknown stored handles => exact absurd handles.1 (quiet.on _)
  | settle key stage stored ready on => exact absurd on (quiet.on _)
  | confirm key stage stored on => exact absurd on (quiet.on _)
  | refusePublish id reason negative on => exact absurd on (quiet.on _)
  | pubrel key manual handles => exact absurd handles.1 (quiet.on _)
  | release key automatic handles => exact absurd handles.1 (quiet.on _)
  | discard => exact ⟨ih.connecting, fun h => { ih.agreed h with received := fun _ h => nomatch h }⟩
  | load outbound received control replay wide fits room fresh closed => exact settling_closed closed
  | migrate limits timeout retry now received control replay migrates => exact absurd migrates quiet.migrate
  | _ => exact ⟨ih.connecting, fun h => { ih.agreed h with }⟩

/-! ## CONNACK -/

namespace MqttEngine

variable {e : MqttEngine T}

theorem connectionFailed_closed (error : MqttClientError) (e : MqttEngine T) :
    Ends ((connectionFailed B error : Eff _ ε _) e) (fun _ e' => e'.isConnected = false) := by
  refine .bind (failConnection_sim (P := .free) error (.self e)).ends ?_ fun _ _ h => h.1
  exact fun _ e₁ hclosed => .stay hclosed.1

/-- If a CONNACK opens a connection, then it was accepted, and the rest of its handling has
settled the session. -/
def Opened (B : Build) (P : Permit) (e : MqttEngine T) (result : ConnectionResult)
    (e' : MqttEngine T) : Prop :=
  e'.isConnected = true → ∃ mid limit reserve, Accepts result e mid limit reserve ∧
    ReflTransGen (Step B.strict P) (handOver (mid.replays result.sessionPresent) mid.ledger) e'.ledger

theorem Opened.of_closed {result : ConnectionResult} {e' : MqttEngine T}
    (h : e'.isConnected = false) : Opened B P e result e' :=
  fun hc => by cases h.symm.trans hc

theorem finishConnack_opened {e₂ : MqttEngine T} {limit : UInt16} {reserve : Nat}
    {result : ConnectionResult} (hsettles : Settles e e₂ limit reserve)
    (hsettings : e₂.state.settings = e.state.settings.override (result.properties.getD []))
    (hunlimited : receiveMaximumOf (result.properties.getD []) = none →
      limit = e.inflightQueue.receiveMaximum)
    (hnonzero : receiveMaximumOf (result.properties.getD []) ≠ some 0) :
    Ends ((finishConnack B result.reasonCode result.sessionPresent result.properties : Eff _ ε _) e₂)
      (fun _ => Opened B P e result) := by
  unfold finishConnack
  refine Reaches.update_bind ?_
  rw [Eff.bind_of_ok (noted_run _ _)]
  refine Reaches.update_bind (.ite (fun hzero => ?_) fun hzero => ?_)
  · obtain ⟨limit', haccepts⟩ := accepts_establish result hsettles hsettings hunlimited hnonzero
      hzero rfl
    refine .bind (restoreSession_sim (P := P) result.sessionPresent haccepts.isConnected).trail ?_ ?_
    · exact fun more e' h => .stay fun _ => ⟨_, limit', reserve, haccepts, h.2⟩
    · exact fun error e' h _ => ⟨_, limit', reserve, haccepts, h.2⟩
  · exact .bind (handleConnectionLostInner_sim (P := .free) (.self _)).ends
      (fun _ e' h => .stay (.of_closed h.1)) fun _ _ h => .of_closed h.1

theorem handleConnack_opened (v5 : Bool) (result : ConnectionResult)
    (hv3 : v5 = false → result.properties = none) (e : MqttEngine T) :
    Ends ((handleConnack B v5 result.reasonCode result.sessionPresent result.properties :
      Eff _ ε _) e) (fun _ => Opened B P e result) := by
  unfold handleConnack
  refine Reaches.read_bind ?_
  cases e.connackCheck B v5 result.reasonCode result.sessionPresent (result.properties.getD []) with
  | error error => exact (connectionFailed_closed error e).weaken fun _ _ h => .of_closed h
  | ok _ =>
    refine Reaches.update_bind ?_
    cases v5 with
    | false =>
      obtain ⟨limit, hlimit, hsettles⟩ := settles_endHandshake (Negotiates.refl e.endHandshake)
      have hnone : result.properties.getD [] = [] := by rw [hv3 rfl]; rfl
      refine finishConnack_opened hsettles ?_ ?_ ?_ <;> rw [hnone]
      · rfl
      · exact fun _ => hlimit
      · exact fun h => nomatch h
    | true =>
      rcases negotiate_run (B := B) (result.properties.getD []) e.endHandshake with
        ⟨error, e₂, hrun, -⟩ | ⟨reserve, e₂, hwide, hnegotiates, hlimited, hrun⟩
      · have hattempt : Eff.onlyWhen (true = true) (negotiate B (result.properties.getD []))
            e.endHandshake = .done (.error error) e₂ := hrun
        rw [Eff.bind_of_ok (Eff.attempt_of_done hattempt)]
        exact (connectionFailed_closed error e₂).weaken fun _ _ h => .of_closed h
      · have hattempt : Eff.onlyWhen (true = true) (negotiate B (result.properties.getD []))
            e.endHandshake = .done (.ok ()) { e₂ with state.controlReserve := reserve } := hrun
        rw [Eff.bind_of_ok (Eff.attempt_of_done hattempt)]
        exact finishConnack_opened (settles_reserve hnegotiates hwide) hlimited.settings
          hlimited.unlimited hlimited.nonzero

theorem acceptIncoming_ends (packetType : ControlPacketType) (e : MqttEngine T) :
    Ends ((acceptIncoming B packetType : Eff _ ε _) e) (fun r e' =>
      (r = .ok true → e' = e ∧ e.acceptable packetType = true) ∧
      (r ≠ .ok true → e'.isConnected = true → e' = e ∧ e.state.inputClosed = true)) := by
  unfold acceptIncoming
  refine Reaches.read_bind (.ite (fun hclosed => .stay ⟨fun h => (by cases h), fun _ _ => ⟨rfl, hclosed⟩⟩)
    fun _ => ?_)
  refine .ite (fun haccept => .stay ⟨fun _ => ⟨rfl, haccept⟩, fun h => absurd rfl h⟩) fun _ => ?_
  refine .bind (failConnection_sim (P := .free) _ (.self e)).ends ?_ ?_
  · exact fun _ e' h => .stay ⟨fun h => (by cases h), fun _ hc => (by cases h.1.symm.trans hc)⟩
  · exact fun _ e' h => ⟨fun h => (by cases h), fun _ hc => (by cases h.1.symm.trans hc)⟩

/-- A CONNACK of MQTT 5 that opens a connection was waited for. -/
theorem handlePacket_connack (ack : V5.MqttConnAck) (stream : Option Nat)
    (hclosed : e.state.inputClosed = true → e.isConnected = false) :
    Ends ((handlePacket B (.connAck5 ack) stream : Eff _ ε _) e) (fun _ e' => e'.isConnected = true →
      e.state.connecting = true ∧
        Opened B P e ⟨ack.reasonCode, ack.sessionPresent, ack.properties⟩ e') := by
  unfold handlePacket
  refine .bind (acceptIncoming_ends _ e) ?_ ?_
  · rintro accepted e₁ ⟨hok, hrefused⟩
    cases accepted with
    | true =>
      obtain ⟨rfl, haccept⟩ := hok rfl
      have hconnecting : e₁.state.connecting = true := (Bool.and_eq_true_iff.mp haccept).1
      refine (handleConnack_opened true ⟨ack.reasonCode, ack.sessionPresent, ack.properties⟩
        (fun h => (by cases h)) e₁).weaken fun _ e' h _ => ⟨hconnecting, h⟩
    | false =>
      refine .stay fun hc => ?_
      obtain ⟨rfl, hinput⟩ := hrefused (fun h => (by cases h)) hc
      cases (hclosed hinput).symm.trans hc
  · rintro error e₁ ⟨-, hrefused⟩ hc
    obtain ⟨rfl, hinput⟩ := hrefused (fun h => (by cases h)) hc
    cases (hclosed hinput).symm.trans hc

end MqttEngine

/-! ## Runs -/

theorem limits_step (h : Step strict P l l') (stored : Stored strict P l) (hmigrate : ¬ P.migrate) :
    l'.limits = l.limits := by
  cases h with
  | evict room full => exact (stored.not_full room full).elim
  | broken _ _ _ front unencodable => exact (stored.not_broken front unencodable).elim
  | accept id => cases id <;> rfl
  | requeue id => cases id <;> rfl
  | send priority item => cases item.packet.tracked <;> rfl
  | migrate limits timeout retry now received control replay migrates => exact absurd migrates hmigrate
  | _ => rfl

/-- The session goes on in another engine. -/
def Call.isMigrate : Call T → Bool
  | .migrate _ _ => true
  | _ => false

/-- Each CONNECT follows a reset of the transport; a run is about one engine. -/
def Documented (e : MqttEngine T) (c : Call T) : Prop :=
  (c.isConnect = true → opened e.trace = false) ∧ c.isMigrate = false

instance (e : MqttEngine T) (c : Call T) : Decidable (Documented e c) :=
  inferInstanceAs (Decidable (_ ∧ _))

/-- What documented calls are allowed to do. -/
def Permit.documented : Permit := { Permit.free with reopen := False, migrate := False }

/-- The engine settles the session. -/
def Permit.settling : Permit :=
  { Permit.free with publishes := False, opens := False, migrate := False, on := fun _ => False }

theorem quiet_settling : Quiet .settling := ⟨id, id, id, fun _ => id⟩

namespace MqttEngine

variable {e : MqttEngine T}

theorem allowed_documented {c : Call T} (h : Documented e c) : c.Allowed B .documented e := by
  have hfree : c.Allowed B .free e := allowed_free c
  have haction (action : Action) (hopened : action = .connect → opened e.trace = false) :
      action.Allowed B .documented e :=
    allowed_action (P := .documented) { Permit.Lenient.free with } action
      (fun hconnect => ⟨trivial, .inl trivial, .inr (hopened hconnect), .inl trivial⟩)
      (fun _ _ => .inl trivial) fun _ _ _ => trivial
  cases c with
  | timed now action =>
    refine ⟨trivial, haction action ?_⟩
    rintro rfl
    exact h.1 rfl
  | host now action =>
    refine ⟨trivial, haction action ?_⟩
    rintro rfl
    exact h.1 rfl
  | migrate => cases h.2
  | _ => exact hfree

variable {options : MqttClientOptions} {created : T} {start : MqttEngine T}

structure Documents (strict : Bool) (options : MqttClientOptions) (l : Ledger T) : Prop where
  stored : Stored strict .documented l
  flags : Flags l
  fresh : Fresh l
  limits : l.limits = options.limits

theorem Moment.documents (hnew : tryNewAt options created = .ok start)
    (moment : Moment B Documented start e) : Documents B.strict options e.ledger := by
  obtain ⟨rfl, -⟩ := tryNewAt_ok hnew
  have hfresh : Fresh (newAt options created).ledger :=
    ⟨fun _ => ⟨rfl, rfl, rfl, fun h => if_neg (UInt16.pos_iff_ne_zero.mp h), fun _ h => nomatch h⟩,
      fun h => h.elim (fun h => (by cases h)) fun h => (by cases h)⟩
  have hstart : Documents B.strict options (newAt options created).ledger :=
    ⟨stored_blank _ _ _ _ _, flags_closed ⟨rfl, rfl⟩ rfl rfl, hfresh, rfl⟩
  refine moment.invariant (fun e c h => allowed_documented h) ⟨trivial, trivial, trivial⟩ ?_ hstart
  exact fun l l' hstep ih => ⟨stored_step hstep ih.stored, flags_step hstep ih.stored ih.flags,
    fresh_step hstep ih.stored ih.flags id id ih.fresh,
    (limits_step hstep ih.stored id).trans ih.limits⟩

theorem min_largest (limit : UInt16) : min 65535 limit = limit := by
  show (if 65535 ≤ limit then 65535 else limit) = limit
  split
  · next h =>
    have hle := UInt16.le_iff_toNat_le.mp h
    have hlt := limit.toNat_lt
    refine UInt16.toNat_inj.mp ?_
    show 65535 = limit.toNat
    have h65535 : (65535 : UInt16).toNat = 65535 := rfl
    omega
  · rfl

/-- Settling the session leaves what CONNACK decided alone. -/
theorem agreed_of_opened {result : ConnectionResult} {mid e' : MqttEngine T} {limit : UInt16}
    {reserve : Nat} (hpristine : Pristine e.ledger) (hstored : Stored B.strict .settling e.ledger)
    (hconnecting : e.state.connecting = true) (hclosed : e.isConnected = false)
    (haccepts : Accepts result e mid limit reserve)
    (hsteps : ReflTransGen (Step B.strict .settling)
      (handOver (mid.replays result.sessionPresent) mid.ledger) e'.ledger)
    (hconnected : e'.isConnected = true) :
    Agreed ((Settings.unset e.options.keepAlive).override (result.properties.getD [])) limit
      e'.ledger := by
  have hstored' : Stored B.strict .settling (handOver (mid.replays result.sessionPresent) mid.ledger) :=
    stored_step (haccepts.step hconnecting hclosed (fun _ => .inl trivial) _) hstored
  have hagreed : Settling ((Settings.unset e.options.keepAlive).override (result.properties.getD []))
      limit (handOver (mid.replays result.sessionPresent) mid.ledger) := by
    rw [haccepts.view]
    refine ⟨rfl, fun _ => ⟨?_, hpristine.incoming, hpristine.outgoing, rfl, hpristine.received⟩⟩
    exact congrArg (Settings.override · (result.properties.getD [])) hpristine.settings
  exact (invariant_steps (I := fun l => Stored B.strict .settling l ∧ Settling _ limit l)
    (fun l l' hstep ih => ⟨stored_step hstep ih.1, agreed_step hstep ih.1 quiet_settling ih.2⟩) hsteps
    ⟨hstored', hagreed⟩).2.agreed hconnected

/-- Right after a CONNACK has opened a connection its limits are those that the CONNACK names,
with the defaults of MQTT for the others; the alias tables are empty, and no QoS 1 exchange of
an earlier connection is left. -/
theorem negotiated_by_connack (hnew : tryNewAt options created = .ok start)
    (hmaximum : 0 < options.receiveMaximum) (moment : Moment B Documented start e)
    (ack : V5.MqttConnAck) (stream : Option Nat) (e' : MqttEngine T)
    (answer : List MqttEvent × List Response)
    (hhandled : (handlePacket B (.connAck5 ack) stream : Eff _ MqttClientError _) e =
      .done (.ok answer) e')
    (hconnected : e'.isConnected = true) :
    ack.reasonCode = 0 ∧
    e'.state.settings = (Settings.unset options.keepAlive).override (ack.properties.getD []) ∧
    e'.inflightQueue.receiveMaximum =
      min ((receiveMaximumOf (ack.properties.getD [])).getD 65535) options.receiveMaximum ∧
    e'.state.incomingAliases = ∅ ∧ e'.state.outgoingAliases = ∅ ∧ NoQos1 e'.state.received := by
  have hrun := moment.documents hnew
  have hshut (h : e.state.inputClosed = true) : e.isConnected = false := (hrun.flags.of_closed h).1
  obtain ⟨hconnecting, hopened⟩ := (handlePacket_connack (P := .settling) ack stream hshut).result
    hhandled hconnected
  obtain ⟨mid, limit, reserve, haccepts, hsteps⟩ := hopened hconnected
  have hclosed : e.isConnected = false := by
    by_contra hc
    cases hconnecting.symm.trans (hrun.flags.connected (Bool.not_eq_false _ ▸ hc)).1
  have hpristine := hrun.fresh.pristine (.inr hconnecting)
  have hagreed := agreed_of_opened hpristine (hrun.stored.under id) hconnecting hclosed haccepts
    hsteps hconnected
  have hkeepAlive : e.options.keepAlive = options.keepAlive := congrArg Limits.keepAlive hrun.limits
  have hmax : e.options.receiveMaximum = options.receiveMaximum :=
    congrArg Limits.receiveMaximum hrun.limits
  refine ⟨haccepts.accepted, hkeepAlive ▸ hagreed.settings, hagreed.limit.trans ?_, hagreed.incoming,
    hagreed.outgoing, hagreed.received⟩
  cases hvalue : receiveMaximumOf (ack.properties.getD []) with
  | none =>
    have hpos : e.options.receiveMaximum > 0 := hmax ▸ hmaximum
    have hlimit : limit = options.receiveMaximum :=
      (haccepts.unlimited hvalue).trans ((hpristine.limit hpos).trans hmax)
    rw [hlimit]
    exact (min_largest options.receiveMaximum).symm
  | some v =>
    rw [haccepts.limited v hvalue (hmax ▸ hmaximum), hmax]
    rfl

/-- An engine that waits for CONNACK. -/
def waiting : MqttEngine Timestamp := follow (.ordered true) (newAt {} 0) [.timed 0 .connect]

set_option maxRecDepth 4000 in
theorem negotiated_by_connack_five :
    ∃ answer e', (handlePacket (.ordered true) (.connAck5 ⟨false, 0, some [.receiveMaximum 5]⟩)
        none : Eff _ MqttClientError _) waiting = .done (.ok answer) e' ∧
      e'.isConnected = true ∧ e'.inflightQueue.receiveMaximum = 5 := by
  have hrun : Run (.ordered true) Documented (newAt {} 0) waiting :=
    Run.start.follow (by decide +kernel)
  have hmoment := Moment.between hrun (by decide +kernel)
  exact ⟨_, _, rfl, rfl, (negotiated_by_connack tryNewAt_default (by decide) hmoment
    ⟨false, 0, some [.receiveMaximum 5]⟩ none _ _ rfl rfl).2.2.1⟩

/-- The bytes of a CONNACK that limits the publications in flight to five. -/
def connackFive : Bytes := [0x20, 6, 0, 0, 3, 0x21, 0, 5]

/-- With `receive_maximum = 0` the limit of the broker is ignored. -/
theorem zero_receive_maximum :
    let e := follow (.ordered true) (newAt { receiveMaximum := 0 } (0 : Timestamp))
      [.timed 0 .connect, .timed 0 (.handleIncoming connackFive)]
    Run (.ordered true) Documented (newAt { receiveMaximum := 0 } 0) e ∧ e.isConnected = true ∧
      .event (.connected ⟨0, false, some [.receiveMaximum 5]⟩) ∈ e.trace ∧
      e.inflightQueue.receiveMaximum = 65535 := by
  refine ⟨Run.start.follow ?_, ?_⟩ <;> decide +kernel

end MqttEngine

end FlowSdk
