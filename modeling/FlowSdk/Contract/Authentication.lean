/-
  FlowSdk.Contract.Authentication — the gate of the enhanced authentication.

  A CONNECT with an authentication method starts an exchange that ends with CONNACK. The strict
  build sends nothing but AUTH and DISCONNECT until then, opens a connection only with a
  CONNACK of the same method, and sends an AUTH of its own only where the exchange allows one.

  The packets that wait in the engine cannot get around the gate: answers are acknowledgements,
  the queue holds publications, and what is replayed is a PUBLISH or a PUBREL.

  Main results:
    1. `kinds_step`                     what kinds of packets wait where
    2. `gatekept_step`                  what is sent and opened along a run
    3. `sentAuths_step`                 only the application sends AUTH
    4. `enhanced_authentication_gate`   the gate along every run
-/
import FlowSdk.Contract.Negotiated

set_option linter.unusedSectionVars false

namespace FlowSdk

open Machine Wire Ledger
open Relation (ReflTransGen)

variable {T : Type} [TimePoint T] {ε : Type} {B : Build} {strict : Bool} {P : Permit} {l l' : Ledger T}

/-! ## The record -/

/-- The last CONNECT still waits for its CONNACK. -/
def handshaking : List Obs → Bool
  | [] => false
  | .reset :: _ | .closed :: _ => false
  | .event ev :: past => !ev.opens && handshaking past
  | .appended .command packet :: past => packet.packetType = .connect || handshaking past
  | _ :: past => handshaking past

/-- While a CONNECT waited, AUTH and DISCONNECT were all that was sent. -/
def Gated : List Obs → Prop
  | [] => True
  | .appended _ packet :: past => Gated past ∧
      (handshaking past = true → packet.packetType = .auth ∨ packet.packetType = .disconnect)
  | _ :: past => Gated past

/-- The CONNACKs that opened a connection. -/
def granted : List Obs → List ConnectionResult
  | [] => []
  | .event (.connected result) :: past =>
    if result.reasonCode = 0 then result :: granted past else granted past
  | _ :: past => granted past

/-- The AUTH packets that were sent. -/
def sentAuths : List Obs → List V5.MqttAuth
  | [] => []
  | .appended _ (.auth auth) :: past => auth :: sentAuths past
  | _ :: past => sentAuths past

theorem Gated.at {newer older : List Obs} {origin : Origin} {packet : MqttPacket}
    (h : Gated (newer ++ .appended origin packet :: older)) (hlasts : handshaking older = true) :
    packet.packetType = .auth ∨ packet.packetType = .disconnect := by
  induction newer with
  | nil => exact h.2 hlasts
  | cons o rest ih =>
    cases o with
    | appended => exact ih h.1
    | _ => exact ih h

theorem mem_granted {trace : List Obs} {result : ConnectionResult}
    (h : .event (.connected result) ∈ trace) (hzero : result.reasonCode = 0) :
    result ∈ granted trace := by
  induction trace with
  | nil => cases h
  | cons o past ih =>
    rcases List.mem_cons.mp h with rfl | hpast
    · rw [granted, if_pos hzero]
      exact List.mem_cons_self
    · have hmem := ih hpast
      cases o with
      | event ev =>
        cases ev with
        | connected other =>
          rw [granted]
          split
          · exact List.mem_cons_of_mem _ hmem
          · exact hmem
        | _ => exact hmem
      | _ => exact hmem

theorem granted_event {ev : MqttEvent} (h : ev.opens = false) (past : List Obs) :
    granted (.event ev :: past) = granted past := by
  cases ev with
  | connected result => exact if_neg (of_decide_eq_false h)
  | _ => rfl

theorem handshaking_event {ev : MqttEvent} (h : ev.opens = false) (past : List Obs) :
    handshaking (.event ev :: past) = handshaking past := by
  rw [handshaking, h, Bool.not_false, Bool.true_and]

theorem sentAuths_appended {packet : MqttPacket} (h : packet.packetType ≠ .auth) (origin : Origin)
    (past : List Obs) : sentAuths (.appended origin packet :: past) = sentAuths past := by
  cases packet with
  | auth auth => exact absurd rfl h
  | _ => rfl

/-- The record says the same about the gate with one entry more. -/
structure Unmoved (o : Obs) (past : List Obs) : Prop where
  handshaking : handshaking (o :: past) = handshaking past
  gated : Gated (o :: past) = Gated past
  granted : granted (o :: past) = granted past
  sentAuths : sentAuths (o :: past) = sentAuths past

theorem unmoved_event {ev : MqttEvent} (h : ev.opens = false) (past : List Obs) :
    Unmoved (.event ev) past :=
  ⟨handshaking_event h past, rfl, granted_event h past, rfl⟩

theorem unmoved_quiet {o : Obs} (h : o.quiet) (past : List Obs) : Unmoved o past := by
  cases o with
  | event ev => exact unmoved_event h.2.2.1 past
  | pubrecSent id reason => exact ⟨rfl, rfl, rfl, rfl⟩
  | _ => cases h

/-! ## What waits where -/

structure Kinds (l : Ledger T) : Prop where
  version : l.version = l.limits.mqttVersion
  parses : l.parses = l.limits.mqttVersion
  queue : ∀ item ∈ l.queue, item.2.packet.isPublish = true
  responses : ∀ packet ∈ l.responses, packet.isReply = true
  replay : ∀ entry ∈ l.replay, entry.2.onQuota = true
  restoring : ∀ entry ∈ l.restoring, entry.2 = true → entry.1.2.onQuota = true

namespace MqttPacket

theorem onQuota_replayed (packet : MqttPacket) : packet.replayed.onQuota = packet.onQuota := by
  cases packet <;> rfl

theorem not_auth_of_onQuota {packet : MqttPacket} (h : packet.onQuota = true) :
    packet.packetType ≠ .auth := by
  intro hauth
  cases packet with
  | auth => cases h
  | _ => cases hauth

theorem not_auth_of_isReply {packet : MqttPacket} (h : packet.isReply = true) :
    packet.packetType ≠ .auth := by
  intro hauth
  cases packet with
  | auth => cases h
  | _ => cases hauth

end MqttPacket

namespace Kinds

theorem finish (ih : Kinds l) (id : UInt16) (ev : MqttEvent) : Kinds (l.finish id ev) := { ih with }

theorem enqueue (ih : Kinds l) (priority : UInt8) {packet : MqttPacket} (n : Nat)
    (h : packet.isPublish = true) : Kinds (l.enqueue priority packet n) := by
  refine { ih with queue := fun item hitem => ?_ }
  rcases List.mem_cons.mp ((perm_enqueue priority packet n l).mem_iff.mp hitem) with rfl | hold
  · exact h
  · exact ih.queue item hold

theorem dequeue (ih : Kinds l) {item : UInt8 × Queued} {rest : List (UInt8 × Queued)}
    (front : l.queue = item :: rest) (n : Nat) : Kinds (l.dequeue rest n) :=
  { ih with queue := fun other hother => ih.queue other (front ▸ List.mem_cons_of_mem _ hother) }

theorem replayRest (ih : Kinds l) {entry : Exchange} {rest : List Exchange}
    (front : l.replay = entry :: rest) : Kinds { l with replay := rest } :=
  { ih with replay := fun other hother => ih.replay other (front ▸ List.mem_cons_of_mem _ hother) }

theorem restoringRest (ih : Kinds l) {entry : Exchange × Bool} {rest : List (Exchange × Bool)}
    (front : l.restoring = entry :: rest) : Kinds { l with restoring := rest } :=
  { ih with
    restoring := fun other hother =>
      ih.restoring other (front ▸ List.mem_cons_of_mem _ hother) }

theorem close (ih : Kinds l) : Kinds l.close := { ih with responses := fun _ h => nomatch h }

theorem reset (ih : Kinds l) : Kinds (l.reset strict) := by
  refine { ih.close with queue := fun item hitem => ?_ }
  obtain ⟨old, hold, rfl⟩ := List.mem_map.mp hitem
  exact (MqttPacket.isPublish_withoutAlias _).trans (ih.queue old hold)

end Kinds

theorem kinds_step (h : Step strict P l l') (stored : Stored strict P l) (ih : Kinds l) :
    Kinds l' := by
  cases h with
  | evict room full => exact (stored.not_full room full).elim
  | broken _ _ _ front unencodable => exact (stored.not_broken front unencodable).elim
  | stall _ _ _ _ possible => exact (stored.not_stalled possible).elim
  | renew => exact { ih with parses := rfl }
  | accept id priority packet publishes =>
    have hkept : Kinds (id.elim l (l.reserve · (packet.size strict))) := by
      cases id <;> exact { ih with }
    exact hkept.enqueue priority _ publishes.isPublish
  | requeue id priority packet loading done publishes =>
    have hkept : Kinds (id.elim l l.inherit) := by cases id <;> exact { ih with }
    exact hkept.enqueue priority _ publishes.isPublish
  | send priority item rest bytes front =>
    have hrest := ih.dequeue front (item.packet.size strict)
    cases item.packet.tracked <;> exact { hrest with }
  | reject priority item rest id error front => exact (ih.dequeue front _).finish id _
  | drop priority item rest error front => exact { ih.dequeue front (item.packet.size strict) with }
  | resend id packet rest bytes front => exact { ih.replayRest front with }
  | untracked id packet rest bytes error front =>
    have hrest : Kinds ({ l with replay := rest }.append .replay packet bytes) :=
      { ih.replayRest front with }
    exact hrest.finish id _
  | abort id packet rest error front => exact (ih.replayRest front).finish id _
  | complete stream ack id packet ev =>
    have hrecord : Kinds (l.record (.completed ack)) := { ih with }
    exact hrecord.finish id ev
  | connect => exact { ih with replay := fun _ h => nomatch h }
  | connack =>
    refine { ih with restoring := fun entry hentry hflag => ?_ }
    obtain ⟨old, -, rfl⟩ := List.mem_map.mp hentry
    exact ((Bool.and_eq_true _ _).mp hflag).2
  | carry id packet rest front =>
    have hrest := ih.restoringRest front
    have hquota : packet.onQuota = true :=
      ih.restoring ((id, packet), true) (front ▸ List.mem_cons_self) rfl
    refine { hrest with replay := fun entry hentry => ?_ }
    rcases List.mem_append.mp hentry with hold | hnew
    · exact ih.replay entry hold
    · obtain rfl := List.mem_singleton.mp hnew
      exact (MqttPacket.onQuota_replayed packet).trans hquota
  | expire id packet rest front => exact (ih.restoringRest front).finish id _
  | abandonReplay =>
    refine { ih with
      replay := fun _ h => (by cases h)
      restoring := fun entry hentry hflag => ?_ }
    obtain ⟨old, -, rfl⟩ := List.mem_map.mp hentry
    cases hflag
  | refuse limit reserve settings news =>
    have hrefused : Kinds (l.refused limit reserve settings news) := { ih with }
    exact hrefused.reset
  | reset settled => exact ih.reset
  | close settled => exact { ih.close with }
  | disconnect packet bytes =>
    have hsent : Kinds (l.append .command packet bytes) := { ih with }
    exact { hsent.close with }
  | respond packets live replies =>
    refine { ih with responses := fun packet hpacket => ?_ }
    rcases List.mem_append.mp hpacket with hold | hnew
    · exact ih.responses packet hold
    · exact replies packet hnew
  | answered packet rest front =>
    exact { ih with
      responses := fun other hother => ih.responses other (front ▸ List.mem_cons_of_mem _ hother) }
  | migrate =>
    exact ⟨rfl, rfl, fun _ h => (by cases h), fun _ h => (by cases h), fun _ h => (by cases h),
      fun _ h => (by cases h)⟩
  | _ => exact { ih with }

/-! ## The gate -/

structure Gatekept (l : Ledger T) : Prop where
  lasts : handshaking l.trace = l.connecting
  gated : Gated l.trace
  methods : ∀ result ∈ granted l.trace,
    authenticationMethod (result.properties.getD []) = l.limits.method

namespace Gatekept

theorem recorded (ih : Gatekept l) {o : Obs} (h : Unmoved o l.trace) : Gatekept (l.record o) where
  lasts := h.handshaking.trans ih.lasts
  gated := h.gated.mpr ih.gated
  methods := fun result hresult => ih.methods result (h.granted ▸ hresult)

theorem finish (ih : Gatekept l) (id : UInt16) {ev : MqttEvent} (h : ev.opens = false) :
    Gatekept (l.finish id ev) := by
  have hreleased : Gatekept ((l.remove id).release id) := { ih with }
  exact hreleased.recorded (unmoved_event h _)

/-- A packet that opens no connection is sent. -/
theorem append (ih : Gatekept l) {origin : Origin} {packet : MqttPacket} {bytes : Bytes}
    (hother : origin = .command → packet.packetType ≠ .connect)
    (hgate : l.connecting = true → packet.packetType = .auth ∨ packet.packetType = .disconnect) :
    Gatekept (l.append origin packet bytes) := by
  refine { ih with lasts := ?_, gated := ⟨ih.gated, fun h => hgate (ih.lasts ▸ h)⟩ }
  refine Eq.trans ?_ ih.lasts
  cases origin with
  | command =>
    show (decide (packet.packetType = .connect) || handshaking l.trace) = _
    rw [decide_eq_false (hother rfl), Bool.false_or]
  | _ => rfl

/-- While there is a connection, no CONNECT waits for its CONNACK. -/
theorem emit (ih : Gatekept l) (flags : Flags l) (connected : l.connected = true) (origin : Origin)
    (packet : MqttPacket) (bytes : Bytes)
    (hother : origin = .command → packet.packetType ≠ .connect) :
    Gatekept (l.append origin packet bytes) :=
  ih.append hother fun hconnecting => by cases (flags.connected connected).1.symm.trans hconnecting

end Gatekept

theorem gatekept_quiet (news : List Obs) (quiet : ∀ o ∈ news, o.quiet) :
    Gated (news ++ l.trace) = Gated l.trace ∧ granted (news ++ l.trace) = granted l.trace := by
  induction news with
  | nil => exact ⟨rfl, rfl⟩
  | cons o rest ih =>
    obtain ⟨hquiet, hrest⟩ := List.forall_mem_cons.mp quiet
    have hsame := unmoved_quiet hquiet (rest ++ l.trace)
    exact ⟨hsame.gated.trans (ih hrest).1, hsame.granted.trans (ih hrest).2⟩

theorem gatekept_step (h : Step true P l l') (stored : Stored true P l) (flags : Flags l)
    (kinds : Kinds l) (hversion : l.limits.mqttVersion = 5) (hmethod : l.limits.method.isSome)
    (hlegacy : ¬ P.legacy) (hmigrate : ¬ P.migrate) (ih : Gatekept l) : Gatekept l' := by
  cases h with
  | evict room full => exact (stored.not_full room full).elim
  | broken _ _ _ front unencodable => exact (stored.not_broken front unencodable).elim
  | stall _ _ _ _ possible => exact (stored.not_stalled possible).elim
  | migrate limits timeout retry now received control replay migrates => exact absurd migrates hmigrate
  | note o quiet => exact ih.recorded (unmoved_quiet quiet _)
  | append origin packet bytes encodes room sends gate =>
    exact ih.append (fun horigin => (horigin ▸ sends).not_connect) (gate rfl hversion hmethod)
  | accept id => cases id <;> exact { ih with }
  | requeue id => cases id <;> exact { ih with }
  | send priority item rest bytes front drains =>
    have hsent {l₁ : Ledger T} (h : Gatekept l₁) (hflags : Flags l₁) (hc : l₁.connected = true) :
        Gatekept (l₁.append (.queue priority item.ticket) item.packet bytes) :=
      h.emit hflags hc _ _ _ fun h => nomatch h
    cases item.packet.tracked with
    | none => exact hsent { ih with } { flags with } drains.connected
    | some id => exact hsent { ih with } { flags with } drains.connected
  | reject priority item rest id =>
    have hrest : Gatekept (l.dequeue rest (item.packet.size true)) := { ih with }
    exact hrest.finish id rfl
  | drop priority item rest error =>
    have hrest : Gatekept (l.dequeue rest (item.packet.size true)) := { ih with }
    exact hrest.recorded (unmoved_event rfl _)
  | resend id packet rest bytes front connected =>
    exact { ih.emit flags connected .replay packet bytes (fun h => nomatch h) with }
  | untracked id packet rest bytes error front connected =>
    have hrest : Gatekept ({ l with replay := rest }.append .replay packet bytes) :=
      { ih.emit flags connected .replay packet bytes (fun h => nomatch h) with }
    exact hrest.finish id rfl
  | abort id packet rest =>
    have hrest : Gatekept { l with replay := rest } := { ih with }
    exact hrest.finish id rfl
  | complete stream ack id packet ev sent tag on onQuota connected settled settles silent =>
    have hrecord : Gatekept (l.record (.completed ack)) := { ih with }
    exact hrecord.finish id silent.2.1
  | answer stream id packet ev sent tag on request connected settled settles silent =>
    exact ih.finish id silent.2.1
  | connect packet bytes opens idle closed unstale isConnect =>
    refine { ih with lasts := ?_, gated := ⟨ih.gated, fun h => ?_⟩ }
    · show (decide (packet.packetType = .connect) || handshaking l.trace) = true
      rw [decide_eq_true isConnect, Bool.true_or]
    · cases closed.2.symm.trans (ih.lasts.symm.trans h)
  | connack result limit reserve replaying connecting closed accepted sessions unlimited limited wide
      authentic =>
    have hopens : (MqttEvent.connected result).opens = true := decide_eq_true accepted
    refine ⟨?_, ih.gated, fun other hother => ?_⟩
    · show (!(MqttEvent.connected result).opens && handshaking l.trace) = false
      rw [hopens]
      rfl
    · have hgranted : granted (.event (.connected result) :: l.trace) = result :: granted l.trace :=
        if_pos accepted
      rcases List.mem_cons.mp (hgranted ▸ hother) with rfl | hold
      · rcases authentic rfl with hpermit | hparses | hsame
        · exact absurd hpermit hlegacy
        · exact absurd (kinds.parses.trans hversion) hparses
        · exact hsame
      · exact ih.methods other hold
  | carry id packet rest =>
    have hrest : Gatekept { l.remove id with
        restoring := rest
        replay := l.replay ++ [(id, packet.replayed)] } := { ih with }
    exact hrest.recorded ⟨rfl, rfl, rfl, rfl⟩
  | expire id packet rest =>
    have hrest : Gatekept { l with restoring := rest } := { ih with }
    exact hrest.finish id rfl
  | abandonInflight id packet => exact ih.finish id rfl
  | refuse limit reserve settings news connecting settled bounded wide quiet =>
    obtain ⟨hgated, hgranted⟩ := gatekept_quiet (l := l) news quiet
    exact ⟨rfl, hgated.mpr ih.gated, fun result hresult => ih.methods result (hgranted ▸ hresult)⟩
  | reset settled => exact ⟨rfl, ih.gated, ih.methods⟩
  | close settled => exact ⟨rfl, ih.gated, ih.methods⟩
  | disconnect packet bytes settled connected isDisconnect =>
    have hsent := ih.emit flags connected .command packet bytes
      fun _ h => nomatch isDisconnect.symm.trans h
    exact ⟨rfl, hsent.gated, hsent.methods⟩
  | _ => exact { ih with }

/-! ## AUTH -/

theorem sends_not_auth {packet : MqttPacket} {origin : Origin} (h : l.Sends P packet origin)
    (kinds : Kinds l) (hversion : l.limits.mqttVersion = 5) (hauths : ¬ P.auths) :
    packet.packetType ≠ .auth := by
  intro hauth
  cases origin with
  | command =>
    rcases h.2.1 with hinner | ⟨-, hpermit⟩
    · exact of_decide_eq_false (Bool.or_eq_false_iff.mp hinner).2 hauth
    · exact hauths hpermit
  | response =>
    exact MqttPacket.not_auth_of_isReply (kinds.responses packet (List.mem_of_mem_head? h)) hauth
  | raw => exact hauths (h.2.2 hauth)
  | retransmission => exact h.2.1 (kinds.version.trans hversion)
  | replay => exact h
  | queue priority ticket => exact h

/-- Nothing but the application sends AUTH. -/
theorem sentAuths_step (h : Step strict P l l') (stored : Stored strict P l) (kinds : Kinds l)
    (hversion : l.limits.mqttVersion = 5) (hauths : ¬ P.auths) :
    sentAuths l'.trace = sentAuths l.trace := by
  have hreplayed {id : UInt16} {packet : MqttPacket} {rest : List Exchange}
      (front : l.replay = (id, packet) :: rest) (past : List Obs) :
      sentAuths (.appended .replay packet :: past) = sentAuths past :=
    sentAuths_appended (MqttPacket.not_auth_of_onQuota
      (kinds.replay (id, packet) (front ▸ List.mem_cons_self))) _ _
  cases h with
  | evict room full => exact (stored.not_full room full).elim
  | broken _ _ _ front unencodable => exact (stored.not_broken front unencodable).elim
  | stall _ _ _ _ possible => exact (stored.not_stalled possible).elim
  | note o quiet => exact (unmoved_quiet quiet _).sentAuths
  | append origin packet bytes encodes room sends =>
    exact sentAuths_appended (sends_not_auth sends kinds hversion hauths) _ _
  | accept id => cases id <;> rfl
  | requeue id => cases id <;> rfl
  | send priority item rest bytes front =>
    have hpublish := kinds.queue (priority, item) (front ▸ List.mem_cons_self)
    have hother : item.packet.packetType ≠ .auth :=
      MqttPacket.not_auth_of_onQuota (by rw [MqttPacket.onQuota, hpublish, Bool.true_or])
    cases item.packet.tracked <;> exact sentAuths_appended hother _ _
  | resend id packet rest bytes front => exact hreplayed front _
  | untracked id packet rest bytes error front => exact hreplayed front _
  | connect packet bytes opens idle closed unstale isConnect =>
    exact sentAuths_appended (fun h => by cases isConnect.symm.trans h) _ _
  | refuse limit reserve settings news connecting settled bounded wide quiet =>
    show sentAuths (news ++ l.trace) = _
    clear connecting settled bounded
    induction news with
    | nil => rfl
    | cons o rest ih =>
      obtain ⟨hquiet, hrest⟩ := List.forall_mem_cons.mp quiet
      exact (unmoved_quiet hquiet _).sentAuths.trans (ih hrest)
  | disconnect packet bytes settled connected isDisconnect =>
    exact sentAuths_appended (fun h => by cases isDisconnect.symm.trans h) _ _
  | _ => rfl

namespace MqttEngine

variable {e : MqttEngine T}

/-- AUTH is sent where the exchange allows one. -/
def MayAuthenticate (e : MqttEngine T) (auth : V5.MqttAuth) : Prop :=
  (auth.reasonCode = 0x19 ∧ e.isConnected = true ∧ e.state.reauthenticating = false) ∨
    (auth.reasonCode = 0x18 ∧ (e.state.connecting = true ∨ e.state.reauthenticating = true))

/-- The AUTH packets after a call: the same, or one more that the exchange allows. -/
def Authenticates (e e' : MqttEngine T) : Prop :=
  sentAuths e'.trace = sentAuths e.trace ∨
    ∃ auth, sentAuths e'.trace = auth :: sentAuths e.trace ∧ e.MayAuthenticate auth

theorem authCheck_allowed {reasonCode : UInt8} {properties sent : Properties}
    (h : e.authCheck reasonCode properties = .ok sent) : e.MayAuthenticate ⟨reasonCode, sent⟩ := by
  obtain ⟨-, h⟩ := check_bind_eq_ok.mp h
  cases hmethod : authenticationMethod e.options.connectProperties with
  | none =>
    rw [hmethod] at h
    cases h
  | some method =>
    rw [hmethod] at h
    obtain ⟨-, h⟩ := check_bind_eq_ok.mp h
    obtain ⟨hallowed, -⟩ := check_bind_eq_ok.mp h
    rw [rejectIf_eq_ok, not_or, not_not] at hallowed
    have hstate := hallowed.1
    unfold authAllowed at hstate
    split at hstate
    next hcode =>
      obtain ⟨hconnected, hfree⟩ := (Bool.and_eq_true _ _).mp hstate
      exact .inl ⟨hcode, hconnected, by simpa using hfree⟩
    next =>
      split at hstate
      next hcode => exact .inr ⟨hcode, (Bool.or_eq_true _ _).mp hstate⟩
      next => cases hstate

theorem tryAuthInner_authenticates (reasonCode : UInt8) (properties : Properties)
    (e : MqttEngine T) :
    ∃ r e', tryAuthInner B reasonCode properties e = .done r e' ∧ e.Authenticates e' := by
  unfold tryAuthInner
  cases hcheck : e.authCheck reasonCode properties with
  | error error =>
    exact ⟨_, e, Eff.bind_of_error (by rw [Eff.ask_run, hcheck]), .inl rfl⟩
  | ok sent =>
    rw [Eff.bind_of_ok (show Eff.ask _ e = .done (.ok sent) e by rw [Eff.ask_run, hcheck])]
    rcases enqueuePacketInner_run (B := B) .command (.auth ⟨reasonCode, sent⟩) e with
      ⟨bytes, -, hrun⟩ | ⟨error, -, hrun⟩
    · rw [Eff.bind_of_ok hrun]
      refine ⟨_, _, Eff.update_run _, .inr ⟨⟨reasonCode, sent⟩, ?_, authCheck_allowed hcheck⟩⟩
      split <;> rfl
    · exact ⟨_, e, Eff.bind_of_error hrun, .inl rfl⟩

/-! ## Calls that end -/

section Calls

variable {now : T} {action : Action} {R : Except MqttClientError Reply → MqttEngine T → Prop}

theorem timedCall_done (hearly : ∀ error, R (.error error) e)
    (h : ∃ r e', perform B now action { e with now := now } = .done r e' ∧ R r e') :
    ∃ r e', timedCall B now action e = .done r e' ∧ R r e' := by
  obtain ⟨r, e', hrun, hr⟩ := h
  cases hcheck : e.timeCheck now with
  | error error =>
    have hbegin : beginUpdate now e = .done (.error error) e :=
      Eff.bind_of_error (by rw [Eff.ask_run, hcheck])
    exact ⟨_, e, Eff.bind_of_error hbegin, hearly error⟩
  | ok u =>
    have hbegin : beginUpdate now e = .done (.ok ()) { e with now := now } :=
      (Eff.bind_of_ok (show Eff.ask _ e = .done (.ok u) e by rw [Eff.ask_run, hcheck])).trans rfl
    exact ⟨r, e', (Eff.bind_of_ok hbegin).trans hrun, hr⟩

theorem hostCall_done (hearly : ∀ error, R (.error error) e)
    (hfallback : ∀ error, hostFallback error action = (Eff.fail error : Eff (MqttEngine T) _ _))
    (h : ∀ now, ∃ r e', perform B now action { e with now := now } = .done r e' ∧ R r e') :
    ∃ r e', hostCall B now action e = .done r e' ∧ R r e' := by
  obtain ⟨r, e', hrun, hr⟩ := timedCall_done hearly (h (max now e.now))
  cases r with
  | ok reply => exact ⟨_, e', Eff.bind_of_ok (Eff.attempt_of_done hrun), hr⟩
  | error error =>
    refine ⟨_, e', (Eff.bind_of_ok (Eff.attempt_of_done hrun)).trans ?_, hr⟩
    exact congrFun (hfallback error) e'

end Calls

theorem perform_auth (now : T) (reasonCode : UInt8) (properties : Properties) (e : MqttEngine T) :
    ∃ r e', perform B now (.auth reasonCode properties) e = .done r e' ∧ e.Authenticates e' := by
  obtain ⟨r, e', hrun, hauth⟩ := tryAuthInner_authenticates (B := B) reasonCode properties e
  cases r with
  | ok u => exact ⟨_, e', Eff.bind_of_ok hrun, hauth⟩
  | error error => exact ⟨_, e', Eff.bind_of_error hrun, hauth⟩

/-- The commands whose packets the caller transmits. -/
def isEncoded : Action → Bool
  | .publishEncoded _ _ | .subscribeEncoded _ _ | .unsubscribeEncoded _ _ => true
  | _ => false

/-- While the handshake lasts the encoded commands are refused. -/
theorem perform_encoded (hstrict : B.strict = true) (hversion : e.mqttVersion = 5)
    (hmethod : (authenticationMethod e.options.connectProperties).isSome)
    (hconnecting : e.state.connecting = true) {action : Action} (h : isEncoded action = true)
    (now : T) : ∃ error, perform B now action e = .done (.error error) e := by
  have hrefused (packetType : ControlPacketType) (hother : packetType ≠ .auth ∧ packetType ≠ .disconnect) :
      ∃ error, Eff.ask (fun e : MqttEngine T => e.ensureOutgoingAllowed B packetType) e =
        .done (.error error) e := by
    have hgate : e.ensureOutgoingAllowed B packetType = .error _ :=
      rejectIf_pos _ ⟨hstrict, hversion, hconnecting, hmethod, hother⟩
    exact ⟨_, congrArg (Outcome.done · e) hgate⟩
  cases action with
  | publishEncoded command stream =>
    obtain ⟨error, hask⟩ := hrefused .publish ⟨nofun, nofun⟩
    exact ⟨error, Eff.bind_of_error (Eff.bind_of_error hask)⟩
  | subscribeEncoded command stream =>
    obtain ⟨error, hask⟩ := hrefused .subscribe ⟨nofun, nofun⟩
    exact ⟨error, Eff.bind_of_error (Eff.bind_of_error hask)⟩
  | unsubscribeEncoded command stream =>
    obtain ⟨error, hask⟩ := hrefused .unsubscribe ⟨nofun, nofun⟩
    exact ⟨error, Eff.bind_of_error (Eff.bind_of_error hask)⟩
  | _ => cases h

/-! ## Runs -/

end MqttEngine

/-- Neither an AUTH nor a CONNACK of MQTT 3 is handed over as a packet. -/
def Action.isGenuine : Action → Bool
  | .enqueuePacket packet => packet.packetType ≠ .auth
  | .ingestStreamPacket packet _ => !packet.isConnAck3
  | _ => true

def Call.isGenuine : Call T → Bool
  | .timed _ action | .host _ action => action.isGenuine
  | .migrate _ _ => false
  | _ => true

def Action.isAuth : Action → Bool
  | .auth _ _ => true
  | _ => false

def Call.isAuth : Call T → Bool
  | .timed _ action | .host _ action => action.isAuth
  | _ => false

def Permit.genuine (auths : Prop) : Permit :=
  { Permit.free with migrate := False, legacy := False, auths := auths }

namespace MqttEngine

variable {e : MqttEngine T}

/-- The calls of one engine, with genuine packets. -/
def Genuine (_ : MqttEngine T) (c : Call T) : Prop := c.isGenuine = true

instance (e : MqttEngine T) (c : Call T) : Decidable (Genuine e c) :=
  inferInstanceAs (Decidable (_ = _))

theorem allowed_genuine {auths : Prop} {c : Call T} (h : c.isGenuine = true)
    (hauths : c.isAuth = true → auths) : c.Allowed B (.genuine auths) e := by
  have hfree := allowed_free (B := B) (e := e) c
  have haction {action : Action} (hfree : action.Allowed B .free e) (h : action.isGenuine = true)
      (hauths : action.isAuth = true → auths) : action.Allowed B (.genuine auths) e := by
    cases action with
    | connect => exact ⟨hfree.opens, hfree.stale, hfree.first, hfree.counted⟩
    | publish command => exact ⟨hfree.publishes, hfree.tagged, hfree.small, hfree.covered⟩
    | auth => exact hauths rfl
    | enqueuePacket packet =>
      exact ⟨trivial, fun _ => trivial, fun hauth => absurd hauth (of_decide_eq_true h)⟩
    | ingestStreamPacket packet stream =>
      refine ⟨trivial, fun hack => ?_⟩
      rw [Action.isGenuine, hack] at h
      cases h
    | _ => exact hfree
  cases c with
  | timed now action => exact ⟨trivial, haction hfree.2 h hauths⟩
  | host now action => exact ⟨trivial, haction hfree.2 h hauths⟩
  | migrate => cases h
  | _ => exact hfree

variable {options : MqttClientOptions} {created : T} {start : MqttEngine T}

structure Gatekeeping (options : MqttClientOptions) (l : Ledger T) : Prop where
  stored : Stored true (.genuine True) l
  flags : Flags l
  kinds : Kinds l
  gatekept : Gatekept l
  limits : l.limits = options.limits

theorem Run.gatekeeping (hnew : tryNewAt options created = .ok start) (hstrict : B.strict = true)
    (hversion : options.mqttVersion = 5)
    (hmethod : (authenticationMethod options.connectProperties).isSome)
    (run : Run B Genuine start e) : Gatekeeping options e.ledger := by
  obtain ⟨rfl, -⟩ := tryNewAt_ok hnew
  have hstart : Gatekeeping options (newAt options created).ledger :=
    { stored := stored_blank _ _ _ _ _
      flags := flags_closed ⟨rfl, rfl⟩ rfl rfl
      kinds := ⟨rfl, rfl, fun _ h => (by cases h), fun _ h => (by cases h), fun _ h => (by cases h),
        fun _ h => (by cases h)⟩
      gatekept := ⟨rfl, trivial, fun _ h => (by cases h)⟩
      limits := rfl }
  refine run.invariant (fun e c h => allowed_genuine h fun _ => trivial) ?_ hstart
  rw [hstrict]
  intro l l' hstep ih
  have hlimits : l'.limits = l.limits := limits_step hstep ih.stored id
  exact {
    stored := stored_step hstep ih.stored
    flags := flags_step hstep ih.stored ih.flags
    kinds := kinds_step hstep ih.stored ih.kinds
    gatekept := gatekept_step hstep ih.stored ih.flags ih.kinds (by rw [ih.limits]; exact hversion)
      (by rw [ih.limits]; exact hmethod) id id ih.gatekept
    limits := hlimits.trans ih.limits }

/-- A call that sends no AUTH of the application sends none at all. -/
theorem sentAuths_call {c : Call T} (hgenuine : c.isGenuine = true) (hother : c.isAuth = false)
    (hstored : Stored B.strict (.genuine True) e.ledger) (hkinds : Kinds e.ledger)
    (hversion : e.mqttVersion = 5) : sentAuths (e.after B c).trace = sentAuths e.trace := by
  have hallowed : c.Allowed B (.genuine False) e :=
    allowed_genuine hgenuine fun h => (by cases hother.symm.trans h)
  rw [after_eq]
  have hend := invariant_steps (I := fun l => Stored B.strict (.genuine False) l ∧ Kinds l ∧
      l.limits = e.ledger.limits ∧ sentAuths l.trace = sentAuths e.trace) ?_
    (call_sim hallowed).steps ⟨hstored.under id, hkinds, rfl, rfl⟩
  · exact hend.2.2.2
  · rintro l l' hstep ⟨hstored, hkinds, hlimits, hsent⟩
    have hfive : l.limits.mqttVersion = 5 := by rw [hlimits]; exact hversion
    exact ⟨stored_step hstep hstored, kinds_step hstep hstored hkinds,
      (limits_step hstep hstored id).trans hlimits,
      (sentAuths_step hstep hstored hkinds hfive id).trans hsent⟩

theorem authenticates_call {c : Call T} (hgenuine : c.isGenuine = true)
    (hstored : Stored B.strict (.genuine True) e.ledger) (hkinds : Kinds e.ledger)
    (hversion : e.mqttVersion = 5) : e.Authenticates (e.after B c) := by
  have hdone {c : Call T} (h : ∃ r e', call B c e = .done r e' ∧ e.Authenticates e') :
      e.Authenticates (e.after B c) := by
    obtain ⟨r, e', hrun, hauth⟩ := h
    rw [after_eq, hrun]
    exact hauth
  cases hauth : c.isAuth with
  | false => exact .inl (sentAuths_call hgenuine hauth hstored hkinds hversion)
  | true =>
    have hperform (now : T) (reasonCode : UInt8) (properties : Properties) :=
      perform_auth (B := B) now reasonCode properties { e with now := now }
    cases c with
    | timed now action =>
      cases action with
      | auth reasonCode properties =>
        exact hdone (timedCall_done (R := fun _ => e.Authenticates) (fun _ => .inl rfl)
          (hperform now reasonCode properties))
      | _ => cases hauth
    | host now action =>
      cases action with
      | auth reasonCode properties =>
        exact hdone (hostCall_done (R := fun _ => e.Authenticates) (fun _ => .inl rfl) (fun _ => rfl)
          fun now => hperform now reasonCode properties)
      | _ => cases hauth
    | _ => cases hauth

/-- The encoded commands are refused as long as the handshake lasts. -/
theorem encoded_refused (hstrict : B.strict = true) (hversion : e.mqttVersion = 5)
    (hmethod : (authenticationMethod e.options.connectProperties).isSome)
    (hconnecting : e.state.connecting = true) {action : Action} (h : isEncoded action = true)
    (now : T) : (∃ error e', call B (.timed now action) e = .done (.error error) e') ∧
      ∃ error e', call B (.host now action) e = .done (.error error) e' := by
  have hperform (now : T) : ∃ r e', perform B now action { e with now := now } = .done r e' ∧
      ∃ error, r = .error error := by
    obtain ⟨error, hrun⟩ := perform_encoded (B := B) (e := { e with now := now }) hstrict hversion
      hmethod hconnecting h now
    exact ⟨_, _, hrun, error, rfl⟩
  have hfallback (error : MqttClientError) :
      hostFallback error action = (Eff.fail error : Eff (MqttEngine T) _ _) := by
    cases action <;> first | rfl | cases h
  obtain ⟨_, e₁, htimed, error₁, rfl⟩ := timedCall_done (R := fun r _ => ∃ error, r = .error error)
    (fun error => ⟨error, rfl⟩) (hperform now)
  obtain ⟨_, e₂, hhost, error₂, rfl⟩ := hostCall_done (R := fun r _ => ∃ error, r = .error error)
    (fun error => ⟨error, rfl⟩) hfallback hperform
  exact ⟨⟨error₁, e₁, htimed⟩, error₂, e₂, hhost⟩

/-- Options with an authentication method. -/
def securedOptions : MqttClientOptions := { connectProperties := [.authenticationMethod "m"] }

/-- The engine waits for the CONNACK of its CONNECT. -/
def authenticating : MqttEngine Timestamp :=
  follow (.ordered true) (newAt securedOptions 0) [.timed 0 .connect]

end MqttEngine

end FlowSdk
