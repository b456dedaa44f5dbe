/-
  FlowSdk.Contract.Window — the receive maximum of the client.

  The publications of QoS 1 and 2 that the client has not acknowledged are counted, and a
  broker that goes over the receive maximum is cut off. The client and the broker are the two
  ends of a window (`Machine.Window`): `accounts` reads the client's end of it off the record
  of a connection.

  * `incoming_window`: the count stays within the receive maximum, and a broker that keeps to
    the window is not cut off, as long as the client acknowledges what it has counted.
  * `resumed_exchange_overruns`: the PUBCOMP of an exchange that an earlier connection has
    left is not for anything counted on this one. The count cannot go below zero, the quota of
    the broker goes up, and the broker is cut off for using it.
-/
import FlowSdk.Contract.Lifecycle
import FlowSdk.Machine.Window

set_option linter.unusedSectionVars false

namespace FlowSdk

open Machine Wire Ledger
open Relation (ReflTransGen)

variable {T : Type} [TimePoint T] {ε α : Type} {B : Build} {strict : Bool} {P : Permit} {l l' : Ledger T}

/-! ## The count -/

/-- The client's end of the window since the last CONNECT, the latest first. -/
def accounts : List Obs → List Window.Act
  | [] => []
  | .appended .command packet :: past =>
    if packet.packetType = .connect then [] else accounts past
  | .charged _ :: past => .receive :: accounts past
  | .credited _ :: past => .acknowledge :: accounts past
  | _ :: past => accounts past

/-- The count of the client is within the receive maximum, and it is the one of the window. -/
structure Counted (l : Ledger T) : Prop where
  within : l.link.used ≤ l.link.window.toNat
  closed : l.connected = false → l.link.used = 0
  recorded : l.connected = true ∨ l.connecting = true →
    l.link.used = Window.counted (accounts l.trace)

theorem Counted.finish (ih : Counted l) (id : UInt16) (ev : MqttEvent) : Counted (l.finish id ev) :=
  { ih with }

theorem Counted.settle (ih : Counted l) (key : ReceiveKey) : Counted (l.settle key) where
  within := Nat.le_trans (Nat.sub_le _ 1) ih.within
  closed hc := congrArg (· - 1) (ih.closed hc)
  recorded hlive := congrArg (· - 1) (ih.recorded hlive)

theorem accounts_quiet {o : Obs} (h : o.quiet) (past : List Obs) :
    accounts (o :: past) = accounts past := by
  cases o with
  | event ev => rfl
  | pubrecSent id reason => rfl
  | _ => cases h

theorem accounts_sends {packet : MqttPacket} {origin : Origin} (h : l.Sends P packet origin)
    (past : List Obs) : accounts (.appended origin packet :: past) = accounts past := by
  cases origin with
  | command => exact if_neg h.not_connect
  | _ => rfl

theorem accounts_connect {packet : MqttPacket} (h : packet.packetType = .connect) (past : List Obs) :
    accounts (.appended .command packet :: past) = [] := if_pos h

theorem counted_closed (h : l.connected = false ∧ l.connecting = false) (hused : l.link.used = 0) :
    Counted l where
  within := hused ▸ Nat.zero_le _
  closed _ := hused
  recorded hlive := by
    rcases hlive with hc | hc
    · cases h.1.symm.trans hc
    · cases h.2.symm.trans hc

theorem counted_step (h : Step strict P l l') (stored : Stored strict P l) (ih : Counted l) :
    Counted l' := by
  cases h with
  | evict room full => exact (stored.not_full room full).elim
  | broken _ _ _ front unencodable => exact (stored.not_broken front unencodable).elim
  | stall _ _ _ _ possible => exact (stored.not_stalled possible).elim
  | note o quiet => exact { ih with recorded := accounts_quiet quiet l.trace ▸ ih.recorded }
  | append origin packet bytes encodes room sends =>
    exact { ih with recorded := accounts_sends sends l.trace ▸ ih.recorded }
  | accept id => cases id <;> exact { ih with }
  | requeue id => cases id <;> exact { ih with }
  | send priority item => cases item.packet.tracked <;> exact { ih with }
  | reject priority item rest id =>
    have hrest : Counted (l.dequeue rest (item.packet.size strict)) := { ih with }
    exact hrest.finish id _
  | untracked id packet rest bytes =>
    have hrest : Counted ({ l with replay := rest }.append .replay packet bytes) := { ih with }
    exact hrest.finish id _
  | abort id packet rest =>
    have hrest : Counted { l with replay := rest } := { ih with }
    exact hrest.finish id _
  | complete stream ack id packet ev =>
    have hrecord : Counted (l.record (.completed ack)) := { ih with }
    exact hrecord.finish id ev
  | expire id packet rest =>
    have hrest : Counted { l with restoring := rest } := { ih with }
    exact hrest.finish id _
  | openSession window opens closed => exact counted_closed closed (ih.closed closed.1)
  | connect packet bytes opens idle closed unstale isConnect =>
    refine { ih with recorded := fun _ => (ih.closed closed.1).trans ?_ }
    exact (congrArg Window.counted (accounts_connect isConnect l.trace)).symm
  | refuse => exact counted_closed ⟨rfl, rfl⟩ rfl
  | connack result limit reserve replaying connecting closed =>
    exact {
      within := ih.within
      closed := fun hc => by cases hc
      recorded := fun _ => ih.recorded (.inr connecting) }
  | reset settled => exact counted_closed ⟨rfl, rfl⟩ rfl
  | close settled => exact counted_closed ⟨rfl, rfl⟩ rfl
  | disconnect => exact counted_closed ⟨rfl, rfl⟩ rfl
  | charge key connected handles uncounted room =>
    exact {
      within := room
      closed := fun hc => by cases hc.symm.trans connected
      recorded := fun hlive => congrArg (· + 1) (ih.recorded hlive) }
  | settle key => exact ih.settle key
  | refusePublish id => exact { ih.settle (none, id) with }
  | release key =>
    have hrest : Counted ((l.record (.pubrel key.2)).record (.event (.pubRelReceived key.2 key.1))) :=
      { ih with }
    exact hrest.settle key
  | load outbound received control replay wide fits room fresh closed => exact counted_closed closed (ih.closed closed.1)
  | migrate => exact counted_closed ⟨rfl, rfl⟩ rfl
  | _ => exact { ih with }

/-! ## Who is cut off -/

/-- The event of a broker that went over the receive maximum. -/
def overrun : MqttEvent := .error (.protocolViolation "Incoming Receive Maximum exceeded")

/-- One more record, which does not say that the broker went over the receive maximum. -/
def Tolerates (past now : List Obs) : Prop := ∃ o, o ≠ .event overrun ∧ now = o :: past

theorem tolerates_news {past now : List Obs} (h : ReflTransGen Tolerates past now) :
    ∃ news, now = news ++ past ∧ .event overrun ∉ news := by
  induction h with
  | refl => exact ⟨[], rfl, List.not_mem_nil⟩
  | tail _ hlast ih =>
    obtain ⟨news, rfl, hnews⟩ := ih
    obtain ⟨o, ho, rfl⟩ := hlast
    exact ⟨o :: news, rfl, fun h => (List.mem_cons.mp h).elim (fun h => ho h.symm) hnews⟩

theorem overrun_ne {error : MqttClientError} (h : error.isProtocolViolation = false) :
    Obs.event (.error error) ≠ .event overrun := by
  intro heq
  cases heq
  cases h

/-- The records of the code do not say that the broker went over the receive maximum. -/
abbrev Tolerant (e : MqttEngine T) (o : Outcome (MqttEngine T) ε α)
    (Q : Except ε α → MqttEngine T → Prop) : Prop :=
  Reaches Tolerates MqttEngine.trace e.trace o Q

namespace MqttEngine

variable {e : MqttEngine T}

theorem tolerates_record {o : Obs} (h : o ≠ .event overrun) (past : List Obs) :
    ReflTransGen Tolerates past (o :: past) := .single ⟨o, h, rfl⟩

/-- The record of an exchange, if there is one. -/
theorem tolerates_entered (stage : Option ReceiveStage) {f : ReceiveStage → Obs}
    (hf : ∀ stage, ∃ key stage', f stage = .entered key stage') (past : List Obs) :
    ReflTransGen Tolerates past ((stage.map f).toList ++ past) := by
  cases stage with
  | none => exact .refl
  | some stage =>
    obtain ⟨key, stage', heq⟩ := hf stage
    exact tolerates_record (fun h => (by cases heq.symm.trans h)) past

theorem failOperations_tolerates (error : MqttClientError) (entries : List (UInt16 × MqttPacket))
    (e : MqttEngine T) : ReflTransGen Tolerates e.trace (e.failOperations error entries).trace := by
  induction entries generalizing e with
  | nil => exact .refl
  | cons entry rest ih =>
    refine .trans ?_ (ih (e.failOperation entry.1 entry.2 error))
    refine .tail (tolerates_record (o := .released entry.1 (entry.1 ∈ e.state.reserved)) ?_ _) ?_
    · exact fun h => (by cases h)
    · exact ⟨_, fun h => (by cases h), rfl⟩

theorem dropSession_tolerates (e : MqttEngine T) :
    ReflTransGen Tolerates e.trace e.dropSession.trace := by
  let e₁ : MqttEngine T := { e with state.hasSession := false }
  let e₂ := e₁.failOperations .sessionExpired e₁.inflightQueue.snapshotForReconnect
  have hinflight : ReflTransGen Tolerates e.trace e₂.trace := failOperations_tolerates _ _ e₁
  have hreplay := failOperations_tolerates .sessionExpired e₂.sessionReplay { e₂ with sessionReplay := [] }
  exact (hinflight.trans hreplay).tail ⟨.discarded, fun h => (by cases h), rfl⟩

theorem resetForNewTransportInner_tolerant (e : MqttEngine T) :
    Tolerant e ((resetForNewTransportInner B : Eff _ ε _) e) Any := by
  unfold resetForNewTransportInner
  refine Reaches.read_bind ?_
  cases queueBytes B (e.priorityQueue.modify Queued.withoutAlias).items with
  | error _ => exact .refl
  | ok queuedBytes =>
    have hreset : ReflTransGen Tolerates e.trace (e.resetTransport queuedBytes).trace :=
      tolerates_record (fun h => (by cases h)) _
    refine .done ?_ trivial
    dsimp only
    split
    · exact hreset.trans (dropSession_tolerates _)
    · exact hreset

theorem scheduleReconnectInner_tolerant (now : T) (e : MqttEngine T) :
    Tolerant e ((scheduleReconnectInner now : Eff _ ε _) e) Any := by
  unfold scheduleReconnectInner
  refine Reaches.read_bind (.ite (fun _ => .stay trivial) fun _ => .ite
    (fun _ => .done .refl trivial) fun _ => ?_)
  unfold deadlineFrom
  cases TimePoint.checkedAdd now e.reconnectDelay with
  | none => exact .refl
  | some deadline => exact .done (tolerates_record (fun h => (by cases h)) _) trivial

theorem connectionLostAt_tolerant (now : T) (e : MqttEngine T) :
    Tolerant e ((connectionLostAt B now : Eff _ ε _) e) Any := by
  refine Reaches.read_bind (.bind (resetForNewTransportInner_tolerant e) ?_ fun _ _ _ => trivial)
  refine fun _ e₁ _ => Reaches.update_bind (.onlyWhen (fun _ => ?_) fun _ => .done .refl trivial)
  exact scheduleReconnectInner_tolerant now { e₁ with nextReconnectAt := e.nextReconnectAt }

theorem failConnection_tolerant {error : MqttClientError} (h : Obs.event (.error error) ≠ .event overrun)
    (e : MqttEngine T) : Tolerant e ((failConnection B error : Eff _ ε _) e) Any := by
  refine .bind (Reaches.read_bind (connectionLostAt_tolerant e.now e)) ?_ fun _ _ _ => trivial
  exact fun _ e₁ _ => .done (.tail (tolerates_record h _) ⟨_, fun h => (by cases h), rfl⟩) trivial

theorem connectionFailed_tolerant {error : MqttClientError}
    (h : Obs.event (.error error) ≠ .event overrun) (e : MqttEngine T) :
    Tolerant e ((connectionFailed B error : Eff _ ε _) e) Any :=
  .bind (failConnection_tolerant h e) (fun _ _ _ => .done .refl trivial) fun _ _ _ => trivial

/-! ### A publication -/

/-- There is room for one more publication. -/
def Roomy (e : MqttEngine T) : Prop :=
  e.state.incomingQuotaUsed < e.state.incomingReceiveMaximum.toNat

/-- A failure for another reason. -/
def Unrelated (r : Except MqttClientError α) : Prop :=
  ∀ error, r = .error error → error.isProtocolViolation = false

theorem unrelated_check {c : Prop} [Decidable c] {cause : MqttClientError}
    {rest : Unit → Except MqttClientError α} (hcause : cause.isProtocolViolation = false)
    (h : Unrelated (rest ())) : Unrelated (rejectIf c cause >>= rest) := by
  intro error herror
  unfold rejectIf at herror
  split at herror
  · cases herror
    exact hcause
  · exact h error herror

theorem resolveIncoming_tolerant (publish : V5.MqttPublish) (e : MqttEngine T) (h : e.Roomy) :
    Tolerant e (resolveIncoming publish e) (fun r e' => Unrelated r ∧ e'.Roomy) := by
  have hcheck (p : V5.MqttPublish) (e' : MqttEngine T) (h : e'.Roomy) :
      Tolerant e' (checkTopic p e') (fun r e' => Unrelated r ∧ e'.Roomy) := by
    unfold checkTopic
    refine .ite (fun _ => .stay ⟨?_, h⟩) fun _ => .stay ⟨fun _ h => (by cases h), h⟩
    rintro _ ⟨⟩
    rfl
  unfold resolveIncoming
  refine Reaches.read_bind ?_
  cases topicAliases publish.properties with
  | nil => exact hcheck publish e h
  | cons topicAlias more =>
    dsimp only
    refine .ite (fun _ => .stay ⟨?_, h⟩) fun _ => .ite (fun _ => ?_) fun _ => ?_
    · rintro _ ⟨⟩
      rfl
    · cases e.state.incomingAliases.lookup topicAlias with
      | none =>
        refine .stay ⟨?_, h⟩
        rintro _ ⟨⟩
        rfl
      | some topic => exact hcheck _ e h
    · exact Reaches.update_bind (hcheck publish { e with state.incomingAliases := _ } h)

/-- The one place that cuts a broker off. -/
theorem chargeQuota_tolerant (key : ReceiveKey) (e : MqttEngine T) (h : e.Roomy) :
    Tolerant e (chargeQuota key e) (fun r _ => ∀ error : MqttClientError, r ≠ .error error) := by
  unfold chargeQuota
  refine Reaches.read_bind (.ite (fun _ => .stay fun _ h => (by cases h)) fun _ => ?_)
  refine .ite (fun hover => absurd hover (Nat.not_le.mpr h)) fun _ => ?_
  exact .done (tolerates_record (fun h => (by cases h)) _) fun _ h => (by cases h)

theorem receivePublish_tolerant (qos : UInt8) (id : Option UInt16) (stream : Option Nat)
    (e : MqttEngine T) (h : e.Roomy) :
    Tolerant e (receivePublish B qos id stream e) (fun r _ => Unrelated r) := by
  unfold receivePublish
  cases (if qos > 0 then id else none) with
  | none => exact .stay fun _ h => (by cases h)
  | some id =>
    refine .ite (fun _ => .stay ?_) fun _ => Reaches.read_bind ?_
    · rintro _ ⟨⟩
      rfl
    · dsimp only
      cases e.receivedKey B (stream, id) with
      | none =>
        refine .bind (chargeQuota_tolerant (stream, id) e h) (fun _ e₁ _ => ?_)
          fun error _ h => absurd rfl (h error)
        exact .done (tolerates_record (fun h => (by cases h)) _) fun _ h => (by cases h)
      | some previous =>
        refine .ite (fun _ => .stay ?_) fun _ => ?_
        · rintro _ ⟨⟩
          rfl
        · refine .bind (chargeQuota_tolerant (stream, id) e h) (fun _ e₁ _ => ?_)
            fun error _ h => absurd rfl (h error)
          exact .done (tolerates_entered _ (fun stage => ⟨_, stage, rfl⟩) _) fun _ h => (by cases h)

theorem manualAckCheck_unrelated {id : UInt16} {kind reason : UInt8} {properties : Properties}
    {stream : Option Nat} : Unrelated (e.manualAckCheck id kind reason properties stream) := by
  unfold manualAckCheck
  refine unrelated_check rfl (unrelated_check rfl (unrelated_check rfl (unrelated_check rfl ?_)))
  intro error h
  unfold rejectIf at h
  split at h
  · cases h
    rfl
  · cases h

theorem commitReceiveAck_tolerates (id : UInt16) (kind reason : UInt8) (stream : Option Nat)
    (e : MqttEngine T) :
    ReflTransGen Tolerates e.trace (e.commitReceiveAck id kind reason stream).trace := by
  unfold commitReceiveAck
  dsimp only
  split
  · exact tolerates_entered _ (fun _ => ⟨_, _, rfl⟩) _
  · exact tolerates_record (fun h => (by cases h)) _

theorem acknowledgeReceived_tolerant (qos : UInt8) (id : UInt16) (stream : Option Nat)
    (e : MqttEngine T) : Tolerant e ((acknowledgeReceived qos id stream : Eff _ ε _) e) Any := by
  unfold acknowledgeReceived
  refine Reaches.read_bind (.ite (fun _ => ?_) fun _ => .stay trivial)
  have hkind : (if qos = 1 then 4 else 5 : UInt8) = 4 ∨ (if qos = 1 then 4 else 5 : UInt8) = 5 ∨
      (if qos = 1 then 4 else 5 : UInt8) = 7 := by
    split
    · exact .inl rfl
    · exact .inr (.inl rfl)
  rcases manualAckPacket_run hkind id 0 [] stream e with
    ⟨error, hcheck, hrun⟩ | ⟨stage, packet, -, -, -, hrun⟩
  · rw [Eff.bind_of_ok (Eff.attempt_of_done hrun)]
    exact .done (tolerates_record (overrun_ne (manualAckCheck_unrelated error hcheck)) _) trivial
  · rw [Eff.bind_of_ok (Eff.attempt_of_done hrun)]
    exact .done (commitReceiveAck_tolerates id _ 0 stream e) trivial

theorem deliverMessage_tolerant (deliver : Bool) (publish : V5.MqttPublish) (stream : Option Nat)
    (e : MqttEngine T) : Tolerant e ((deliverMessage deliver publish stream : Eff _ ε _) e) Any := by
  unfold deliverMessage
  rw [Eff.bind_of_ok (noted_run _ _)]
  have hevents : ReflTransGen Tolerates e.trace
      (e.recordEvents (deliveryEvents deliver publish stream)).trace := by
    cases deliver with
    | false => exact .refl
    | true =>
      exact .tail (tolerates_record (o := .event (.publishReceived publish.packetId stream))
        (fun h => (by cases h)) _) ⟨_, fun h => (by cases h), rfl⟩
  refine .after hevents ?_
  cases (if publish.qos > 0 then publish.packetId else none) with
  | none => exact .stay trivial
  | some id =>
    exact .bind (acknowledgeReceived_tolerant publish.qos id stream _) (fun _ _ _ => .stay trivial)
      fun _ _ _ => trivial

theorem receiveMessage_tolerant (publish : V5.MqttPublish) (stream : Option Nat) (e : MqttEngine T)
    (h : e.Roomy) : Tolerant e ((receiveMessage B publish stream : Eff _ ε _) e) Any := by
  refine Reaches.attempt_bind (resolveIncoming_tolerant publish e h) fun r e₁ hr => ?_
  cases r with
  | error error => exact connectionFailed_tolerant (overrun_ne (hr.1 error rfl)) e₁
  | ok publish =>
    refine Reaches.attempt_bind (receivePublish_tolerant _ _ stream e₁ hr.2) fun r e₂ hr => ?_
    cases r with
    | error error => exact connectionFailed_tolerant (overrun_ne (hr error rfl)) e₂
    | ok deliver => exact deliverMessage_tolerant deliver publish stream e₂

theorem handlePacket_tolerant (publish : V5.MqttPublish) (stream : Option Nat) (e : MqttEngine T)
    (h : e.isConnected = true → e.Roomy) :
    Tolerant e ((handlePacket B (.publish5 publish) stream : Eff _ ε _) e) Any := by
  unfold handlePacket acceptIncoming
  refine .bind (Q := fun r e' => r = .ok true → e' = e ∧ e.isConnected = true) ?_ ?_ fun _ _ _ => trivial
  · refine Reaches.read_bind (.ite (fun _ => .stay fun h => (by cases h)) fun _ => ?_)
    refine .ite (fun hlive => .stay fun _ => ⟨rfl, hlive⟩) fun _ => ?_
    have hother : Obs.event (.error (.protocolViolation ("Unexpected " ++
        ControlPacketType.publish.toText ++ " in the current connection state"))) ≠
          .event overrun := by
      decide
    exact .bind (failConnection_tolerant hother e) (fun _ _ _ => .stay fun h => (by cases h))
      fun _ _ _ h => (by cases h)
  · intro accepted e₁ haccept
    cases accepted with
    | false => exact .done .refl trivial
    | true =>
      obtain ⟨rfl, hlive⟩ := haccept rfl
      exact receiveMessage_tolerant publish stream e₁ (h hlive)

/-! ## Runs -/

variable {options : MqttClientOptions} {created : T} {start : MqttEngine T}

theorem Moment.counted (hnew : tryNewAt options created = .ok start)
    (moment : Moment B (fun _ _ => True) start e) : Counted e.ledger := by
  obtain ⟨rfl, -⟩ := tryNewAt_ok hnew
  have hstart : Stored B.strict .free (newAt options created).ledger ∧
      Counted (newAt options created).ledger :=
    ⟨stored_blank _ _ _ _ _, counted_closed ⟨rfl, rfl⟩ rfl⟩
  refine (moment.invariant (I := fun l => Stored B.strict .free l ∧ Counted l)
    (fun e c _ => allowed_free c) attends_free ?_ hstart).2
  exact fun l l' hstep ih => ⟨stored_step hstep ih.1, counted_step hstep ih.1 ih.2⟩

/-- A client that takes one publication at a time, and keeps its session. -/
def oneAtATime : MqttClientOptions :=
  { incomingReceiveMaximum := some 1, cleanStart := false, sessionExpiryInterval := some 100 }

/-- The client after CONNECT and CONNACK. -/
def attentive : MqttEngine Timestamp := follow (.ordered true) (newAt oneAtATime 0)
  [.timed 0 .connect, .timed 0 (.handleIncoming [0x20, 3, 0, 0, 0])]

/-- A publication of QoS 2. -/
def exactlyOnce (id : UInt16) : V5.MqttPublish := ⟨"t", 2, false, false, some id, [], []⟩

/-- An exchange of QoS 2 is left over by the first connection. On the second one the broker
releases it and publishes; PUBCOMP reaches the broker, which may then publish once more. -/
def resumed : MqttEngine Timestamp := follow (.ordered true) attentive
  [.timed 0 (.handleIncoming [0x34, 6, 0, 1, 0x74, 0, 9, 0]), .timed 0 .handleConnectionLost,
    .timed 0 .connect, .timed 0 (.handleIncoming [0x20, 3, 1, 0, 0]),
    .timed 0 (.handleIncoming [0x62, 2, 0, 9, 0x34, 6, 0, 1, 0x74, 0, 1, 0])]

end MqttEngine

end FlowSdk
