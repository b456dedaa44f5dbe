/-
  FlowSdk.Refine.Packets — handling a packet that came in, as steps.

  A CONNACK is one step up to the event that announces it, and then one step for each exchange
  of the session. An acknowledgement passes its check before it changes anything; what the
  check has found in flight is what the step needs.
-/
import FlowSdk.Refine.Receive

set_option linter.unusedSectionVars false

namespace FlowSdk

open Machine Wire Ledger
open Relation (ReflTransGen)

variable {T : Type} [TimePoint T] {ε α : Type} {B : Build} {P : Permit} {e : MqttEngine T}

namespace MqttEngine

/-! ## Negotiation -/

/-- A ledger whose limit on publications in flight and settings were negotiated. -/
def tuned (limit : UInt16) (settings : Settings) (l : Ledger T) : Ledger T :=
  { l with receiveMaximum := limit, link := { l.link with settings := settings } }

/-- Of what the ledger shows, only the limit on publications in flight and the settings of the
connection may have changed. -/
def Negotiates (e e' : MqttEngine T) : Prop :=
  ∃ limit, (∀ restoring, e'.ledgerWith restoring =
      tuned limit e'.state.settings (e.ledgerWith restoring)) ∧
    e'.options.limits = e.options.limits ∧
    (e.inflightQueue.receiveMaximum ≤ e.options.receiveMaximum → limit ≤ e.options.receiveMaximum)

theorem Negotiates.refl (e : MqttEngine T) : e.Negotiates e :=
  ⟨e.inflightQueue.receiveMaximum, fun _ => rfl, rfl, fun h => h⟩

theorem Negotiates.receiveMaximum {e' : MqttEngine T} (h : e.Negotiates e') :
    e'.options.receiveMaximum = e.options.receiveMaximum := by
  obtain ⟨-, -, hlimits, -⟩ := h
  exact congrArg Limits.receiveMaximum hlimits

theorem Negotiates.trans {e' e'' : MqttEngine T} (h : e.Negotiates e') (h' : e'.Negotiates e'') :
    e.Negotiates e'' := by
  have hmax := h.receiveMaximum
  obtain ⟨limit, hview, hlimits, hle⟩ := h
  obtain ⟨limit', hview', hlimits', hle'⟩ := h'
  refine ⟨limit', fun restoring => ?_, hlimits'.trans hlimits, fun hstart => ?_⟩
  · rw [hview' restoring, hview restoring]
    rfl
  · have hnow : e'.inflightQueue.receiveMaximum = limit :=
      congrArg Ledger.receiveMaximum (hview [])
    rw [hnow, hmax] at hle'
    exact hle' (hle hstart)

theorem min_le_limit (v limit : UInt16) : min v limit ≤ limit := by
  show (if v ≤ limit then v else limit) ≤ limit
  split
  next h => exact h
  next => exact UInt16.le_refl _

theorem negotiates_updateReceiveMaximum (v : UInt16) (e : MqttEngine T) :
    e.Negotiates { e with
      inflightQueue := e.inflightQueue.updateReceiveMaximum (min v e.options.receiveMaximum) } := by
  unfold InflightQueue.updateReceiveMaximum
  split
  · exact ⟨min v e.options.receiveMaximum, fun _ => rfl, rfl, fun _ => min_le_limit _ _⟩
  · exact ⟨e.inflightQueue.receiveMaximum, fun _ => rfl, rfl, fun h => h⟩

theorem negotiateProperty_ok {property : Property} {e' : MqttEngine T}
    (h : e.negotiateProperty property = .ok e') : e.Negotiates e' ∧
      e'.state.settings = e.state.settings.apply property ∧
      ((∃ v, v ≠ 0 ∧ property = .receiveMaximum v) ∨
        (∀ v, property ≠ .receiveMaximum v) ∧
          e'.inflightQueue.receiveMaximum = e.inflightQueue.receiveMaximum) := by
  have hsame (e₁ : MqttEngine T) (hview : ∀ restoring, e₁.ledgerWith restoring =
      tuned e.inflightQueue.receiveMaximum e₁.state.settings (e.ledgerWith restoring))
      (hlimits : e₁.options.limits = e.options.limits) : e.Negotiates e₁ :=
    ⟨_, hview, hlimits, fun h => h⟩
  cases property
  case receiveMaximum v =>
    simp only [negotiateProperty] at h
    split at h
    · cases h
    next hv =>
      cases h
      exact ⟨negotiates_updateReceiveMaximum v e, rfl, .inl ⟨v, hv, rfl⟩⟩
  all_goals
    simp only [negotiateProperty] at h
    first
    | cases h
      exact ⟨hsame _ (fun _ => rfl) rfl, rfl, .inr ⟨fun _ h => (by cases h), rfl⟩⟩
    | split at h
      · cases h
      · cases h
        exact ⟨hsame _ (fun _ => rfl) rfl, rfl, .inr ⟨fun _ h => (by cases h), rfl⟩⟩
    | cases h

/-- What a CONNACK whose properties were accepted says about the connection. -/
structure Limited (properties : Properties) (e e' : MqttEngine T) : Prop where
  unlimited : receiveMaximumOf properties = none →
    e'.inflightQueue.receiveMaximum = e.inflightQueue.receiveMaximum
  nonzero : receiveMaximumOf properties ≠ some 0
  settings : e'.state.settings = e.state.settings.override properties

theorem negotiateLoop_sim : ∀ (seen : List PropertyID) (properties : Properties) (e : MqttEngine T),
    ∃ r e', negotiateLoop seen properties e = .done r e' ∧ e.Negotiates e' ∧
      (∀ u, r = .ok u → Limited properties e e')
  | _, [], e => ⟨.ok (), e, rfl, .refl e, fun _ _ => ⟨fun _ => rfl, (fun h => nomatch h), rfl⟩⟩
  | seen, property :: rest, e => by
    unfold negotiateLoop
    by_cases hseen : property.id ≠ .userProperty ∧ property.id ∈ seen
    · rw [if_pos hseen]
      exact ⟨_, e, rfl, .refl e, fun _ h => (by cases h)⟩
    rw [if_neg hseen]
    cases hproperty : e.negotiateProperty property with
    | error error =>
      exact ⟨.error error, e, Eff.bind_of_error (by rw [Eff.ask_run, hproperty]), .refl e,
        fun _ h => (by cases h)⟩
    | ok e₁ =>
      rw [Eff.bind_of_ok (show Eff.ask _ e = .done (.ok e₁) e by rw [Eff.ask_run, hproperty])]
      obtain ⟨hfirst, hsettings, hvalue⟩ := negotiateProperty_ok hproperty
      obtain ⟨r, e₂, hrun, hrest, hlimited⟩ := negotiateLoop_sim (property.id :: seen) rest e₁
      refine ⟨r, e₂, hrun, hfirst.trans hrest, fun u hu => ?_⟩
      have hall : e₂.state.settings = e.state.settings.override (property :: rest) := by
        rw [(hlimited u hu).settings, hsettings]
        rfl
      rcases hvalue with ⟨v, hv, rfl⟩ | ⟨hother, hmax⟩
      · exact ⟨fun h => (by cases h), fun h => hv (Option.some.inj h), hall⟩
      · have hfind : receiveMaximumOf (property :: rest) = receiveMaximumOf rest := by
          cases property
          case receiveMaximum v => exact absurd rfl (hother v)
          all_goals rfl
        obtain ⟨hunlimited, hnonzero, -⟩ := hlimited u hu
        exact ⟨fun h => (hunlimited (hfind ▸ h)).trans hmax, hfind ▸ hnonzero, hall⟩

theorem connectReserve_wide {options : MqttClientOptions} {reserve : Nat}
    (h : connectReserve B options = .ok reserve) : 6 ≤ reserve := by
  simp only [connectReserve, bind_eq_ok] at h
  obtain ⟨packet, -, bytes, -, heq⟩ := h
  cases heq
  exact Nat.le_max_right _ _

/-- The negotiation, whether it succeeds or not. -/
theorem negotiate_run (properties : Properties) (e : MqttEngine T) :
    (∃ error e', negotiate B properties e = .done (.error error) e' ∧ e.Negotiates e') ∨
    ∃ reserve e', 6 ≤ reserve ∧ e.Negotiates e' ∧ Limited properties e e' ∧
      negotiate B properties e = .done (.ok ()) { e' with state.controlReserve := reserve } := by
  unfold negotiate
  obtain ⟨r, e₁, hrun, hnegotiates, hlimited⟩ := negotiateLoop_sim [] properties e
  cases r with
  | error error =>
    rw [Eff.bind_of_error hrun]
    exact .inl ⟨error, e₁, rfl, hnegotiates⟩
  | ok u =>
    rw [Eff.bind_of_ok hrun]
    cases hreserve : e₁.reserveCheck B with
    | error error =>
      refine .inl ⟨error, e₁, ?_, hnegotiates⟩
      exact Eff.bind_of_error (by rw [Eff.ask_run, hreserve])
    | ok reserve =>
      have hwide : 6 ≤ reserve := by
        obtain ⟨found, hfound, hrest⟩ := bind_eq_ok.mp hreserve
        obtain ⟨-, heq⟩ := check_bind_eq_ok.mp hrest
        cases heq
        exact connectReserve_wide hfound
      refine .inr ⟨reserve, e₁, hwide, hnegotiates, hlimited u rfl, ?_⟩
      rw [Eff.bind_of_ok (show Eff.ask _ e₁ = .done (.ok reserve) e₁ by rw [Eff.ask_run, hreserve])]
      rfl

/-! ## Restoring the session -/

/-- An exchange that is handed over to the replay. -/
def carryOver (e : MqttEngine T) (id : UInt16) (packet : MqttPacket) : MqttEngine T :=
  { (e.record (.carried id packet.replayed)).acknowledged id with
    sessionReplay := e.sessionReplay ++ [(id, packet.replayed)] }

theorem ledger_carryOver (rest : List (Exchange × Bool)) (id : UInt16) (packet : MqttPacket)
    (e : MqttEngine T) : (e.carryOver id packet).ledgerWith rest =
      { (e.ledgerWith rest).remove id with
        replay := e.sessionReplay ++ [(id, packet.replayed)] }.record
          (.carried id packet.replayed) := by
  have hview := ledger_acknowledged rest (e.record (.carried id packet.replayed)) id
  show ({ ((e.record (.carried id packet.replayed)).acknowledged id).ledgerWith rest with
    replay := e.sessionReplay ++ [(id, packet.replayed)] } : Ledger T) = _
  rw [hview]
  rfl

/-- Replayed if the session goes on and the exchange is a publication, given up otherwise. -/
theorem restoreEntry_cases (replaying : Bool) (id : UInt16) (packet : MqttPacket)
    (e : MqttEngine T) :
    (replaying = true ∧ packet.onQuota = true ∧
      e.restoreEntry replaying (id, packet) = e.carryOver id packet) ∨
    ((replaying && packet.onQuota) = false ∧
      e.restoreEntry replaying (id, packet) = e.failOperation id packet .sessionExpired) := by
  by_cases hcarried : replaying ∧ (packet.isPublish ∨ packet.isPubRel)
  · refine .inl ⟨hcarried.1, ?_, if_pos hcarried⟩
    rw [MqttPacket.onQuota, Bool.or_eq_true]
    exact hcarried.2
  · refine .inr ⟨?_, if_neg hcarried⟩
    rw [Bool.and_eq_false_iff, MqttPacket.onQuota, Bool.or_eq_false_iff]
    by_cases hreplaying : replaying = true
    · have hneither := not_or.mp fun h => hcarried ⟨hreplaying, h⟩
      exact .inr ⟨Bool.eq_false_iff.mpr hneither.1, Bool.eq_false_iff.mpr hneither.2⟩
    · exact .inl (Bool.eq_false_iff.mpr hreplaying)

theorem restoreEntry_step (replaying : Bool) (entry : Exchange) (rest : List (Exchange × Bool))
    (e : MqttEngine T) (hsessions : replaying → e.options.sessionless = false) :
    Step B.strict P (e.ledgerWith ((entry, replaying && entry.2.onQuota) :: rest))
      ((e.restoreEntry replaying entry).ledgerWith rest) := by
  obtain ⟨id, packet⟩ := entry
  rcases e.restoreEntry_cases replaying id packet with ⟨hreplaying, hquota, heq⟩ | ⟨hflag, heq⟩
  · rw [heq, ledger_carryOver, hreplaying, hquota]
    exact .carry id packet rest rfl (hsessions hreplaying)
  · rw [heq, hflag, ledger_failOperation]
    exact .expire id packet rest rfl

@[simp] theorem options_restoreEntry (replaying : Bool) (entry : Exchange) (e : MqttEngine T) :
    (e.restoreEntry replaying entry).options = e.options := by
  obtain ⟨id, packet⟩ := entry
  rcases e.restoreEntry_cases replaying id packet with ⟨-, -, heq⟩ | ⟨-, heq⟩ <;>
    exact (congrArg MqttEngine.options heq).trans rfl

@[simp] theorem isConnected_restoreEntry (replaying : Bool) (entry : Exchange) (e : MqttEngine T) :
    (e.restoreEntry replaying entry).isConnected = e.isConnected := by
  obtain ⟨id, packet⟩ := entry
  rcases e.restoreEntry_cases replaying id packet with ⟨-, -, heq⟩ | ⟨-, heq⟩ <;>
    exact (congrArg MqttEngine.isConnected heq).trans rfl

@[simp] theorem isConnected_restoreEntries (replaying : Bool) : ∀ (entries : List Exchange)
    (e : MqttEngine T), (restoreEntries replaying e entries).isConnected = e.isConnected
  | [], _ => rfl
  | entry :: rest, e => by
    rw [restoreEntries, isConnected_restoreEntries replaying rest, isConnected_restoreEntry]

theorem restoreEntries_steps (replaying : Bool) : ∀ (entries : List Exchange) (e : MqttEngine T),
    (replaying → e.options.sessionless = false) → ReflTransGen (Step B.strict P)
      (e.ledgerWith (entries.map (fun entry => (entry, replaying && entry.2.onQuota))))
      (restoreEntries replaying e entries).ledger
  | [], _, _ => .refl
  | entry :: rest, e, hsessions => by
    refine .head (restoreEntry_step replaying entry _ e hsessions) ?_
    exact restoreEntries_steps replaying rest _ (by rwa [options_restoreEntry])

theorem configuredSubscriptions_sim (hc : e.isConnected = true) :
    Sim B P e.ledger ((configuredSubscriptions B : Eff _ ε _) e)
      (fun _ e' => e'.isConnected = true) := by
  unfold configuredSubscriptions
  refine Reaches.read_bind (.ite (fun _ => .done .refl hc) fun _ => ?_)
  refine .ite (fun _ => .stay hc) fun _ => ?_
  refine .attempt_bind (subscribeInner_sim _ (.inr (.inl hc))) ?_
  rintro (error | id) e₁ ⟨-, hconnected⟩
  · exact (noted_sim e₁ (List.forall_mem_singleton.mpr (MqttEvent.plain_error error))).weaken
      fun _ _ h => h.trans (hconnected hc)
  · exact .stay (hconnected hc)

theorem startSession_sim (resumed : Bool) (hc : e.isConnected = true) :
    Sim B P e.ledger ((startSession B resumed : Eff _ ε _) e) (fun _ e' => e'.isConnected = true) := by
  unfold startSession
  refine .ite (fun _ => .stay hc) fun _ => Reaches.update_bind ?_
  exact Sim.run .discard rfl (configuredSubscriptions_sim hc)

theorem replays_sessions {sessionPresent : Bool} (h : e.replays sessionPresent = true) :
    e.options.sessionless = false := by
  unfold replays resumes at h
  cases hs : e.options.sessionless with
  | false => rfl
  | true =>
    rw [hs] at h
    simp at h

/-- The exchanges of the last connection are about to be settled. -/
def handOver (replaying : Bool) (l : Ledger T) : Ledger T :=
  { l with restoring := settleOrder replaying l.previous, previous := [] }

theorem restoreSession_sim (sessionPresent : Bool) (hc : e.isConnected = true) :
    Sim B P (handOver (e.replays sessionPresent) e.ledger)
      ((restoreSession B sessionPresent : Eff _ ε _) e) (fun _ e' => e'.isConnected = true) := by
  let entries := if e.replays sessionPresent then replayOrder e.previousInflight
    else e.previousInflight
  have hsteps := restoreEntries_steps (B := B) (P := P) (e.replays sessionPresent) entries
    { e with previousInflight := [] } fun h => replays_sessions h
  refine .after hsteps ?_
  refine Reaches.read_bind (Reaches.update_bind ?_)
  refine .bind (startSession_sim _ ((isConnected_restoreEntries _ _ _).trans hc)) ?_
    fun _ _ hc₁ => hc₁
  intro events e₁ hc₁
  exact .bind (processReplay_sim e₁ hc₁) (fun _ _ h => .stay h.1) fun _ _ h => h.1

/-! ## CONNACK -/

/-- What is left of the handshake when the negotiation is over. -/
structure Settles (e e' : MqttEngine T) (limit : UInt16) (reserve : Nat) : Prop where
  view : ∀ restoring, e'.ledgerWith restoring = tuned limit e'.state.settings
    { e.ledgerWith restoring with connecting := false, controlReserve := reserve }
  wide : reserve = e.state.controlReserve ∨ 6 ≤ reserve
  bounded : e.inflightQueue.receiveMaximum ≤ e.options.receiveMaximum →
    limit ≤ e.options.receiveMaximum

theorem Settles.options {e' : MqttEngine T} {limit : UInt16} {reserve : Nat}
    (h : Settles e e' limit reserve) : e'.options.limits = e.options.limits :=
  congrArg Ledger.limits (h.view [])

/-- The handshake ends without a connection, whatever was noted of it. -/
theorem resets_refused {e' : MqttEngine T} {limit : UInt16} {reserve : Nat} {news : List Obs}
    (hview : e'.ledger = e.ledger.refused limit reserve e'.state.settings news)
    (hconnecting : e.state.connecting = true)
    (hbounded : e.inflightQueue.receiveMaximum ≤ e.options.receiveMaximum →
      limit ≤ e.options.receiveMaximum)
    (hwide : reserve = e.state.controlReserve ∨ 6 ≤ reserve) (hquiet : ∀ o ∈ news, o.quiet) :
    Resets B P e.ledger e' := by
  refine ⟨?_, ?_⟩ <;> rw [hview]
  · exact .refuse limit reserve e'.state.settings news hconnecting rfl hbounded hwide hquiet
  · exact fun hpossible => .stall limit reserve e'.state.settings news hpossible

theorem Settles.refuse {e' : MqttEngine T} {limit : UInt16} {reserve : Nat}
    (h : Settles e e' limit reserve) (hconnecting : e.state.connecting = true) :
    Resets B P e.ledger e' := by
  have hview : e'.ledger = e.ledger.refused limit reserve e'.state.settings [] := h.view []
  exact resets_refused hview hconnecting h.bounded h.wide (List.forall_mem_nil _)

theorem settles_endHandshake {e' : MqttEngine T} (h : e.endHandshake.Negotiates e') :
    ∃ limit, limit = e'.inflightQueue.receiveMaximum ∧ Settles e e' limit e.state.controlReserve := by
  obtain ⟨limit, hview, -, hbounded⟩ := h
  exact ⟨limit, (congrArg Ledger.receiveMaximum (hview [])).symm, hview, .inl rfl, hbounded⟩

theorem settles_reserve {e' : MqttEngine T} {reserve : Nat} (h : e.endHandshake.Negotiates e')
    (hwide : 6 ≤ reserve) : Settles e { e' with state.controlReserve := reserve }
      e'.inflightQueue.receiveMaximum reserve := by
  obtain ⟨limit, hview, -, hbounded⟩ := h
  have hlimit : e'.inflightQueue.receiveMaximum = limit :=
    congrArg Ledger.receiveMaximum (hview [])
  refine ⟨fun restoring => ?_, .inr hwide, hlimit ▸ hbounded⟩
  show ({ e'.ledgerWith restoring with controlReserve := reserve } : Ledger T) = _
  rw [hview restoring, hlimit]
  rfl

/-- The limit that is applied once more. -/
theorem limitInflight_view (properties : Properties) (e : MqttEngine T) :
    e.Negotiates (e.limitInflight properties) ∧
      (receiveMaximumOf properties = none → e.limitInflight properties = e) ∧
      (∀ v ∈ receiveMaximumOf properties, v ≠ 0 → e.options.receiveMaximum > 0 →
        (e.limitInflight properties).inflightQueue.receiveMaximum =
          min v e.options.receiveMaximum) := by
  unfold limitInflight
  cases receiveMaximumOf properties with
  | none => exact ⟨.refl e, fun _ => rfl, fun _ h => (by cases h)⟩
  | some v =>
    refine ⟨negotiates_updateReceiveMaximum v e, fun h => (by cases h), ?_⟩
    rintro _ ⟨⟩ hv hmax
    have hpos : min v e.options.receiveMaximum > 0 := by
      show (if v ≤ e.options.receiveMaximum then v else e.options.receiveMaximum) > 0
      split
      · exact UInt16.pos_iff_ne_zero.mpr hv
      · exact hmax
    show (InflightQueue.updateReceiveMaximum _ _).receiveMaximum = _
    rw [InflightQueue.updateReceiveMaximum, if_pos hpos]

theorem establish_view {reasonCode : UInt8} (hzero : reasonCode = 0) (ev : MqttEvent)
    (restoring : List (Exchange × Bool)) (e : MqttEngine T) :
    ((e.establish reasonCode).recordEvents [ev]).ledgerWith restoring =
      { e.ledgerWith restoring with
        connected := true
        retry := (e.ledgerWith restoring).retry.restart }.record (.event ev) := by
  subst hzero
  rfl

theorem options_establish (reasonCode : UInt8) (ev : MqttEvent) (e : MqttEngine T) :
    ((e.establish reasonCode).recordEvents [ev]).options = e.options := by
  unfold establish
  dsimp only
  split <;> rfl

theorem settings_establish (reasonCode : UInt8) (e : MqttEngine T) :
    (e.establish reasonCode).state.settings = e.state.settings := by
  unfold establish
  dsimp only
  split <;> rfl

theorem settings_limitInflight (properties : Properties) (e : MqttEngine T) :
    (e.limitInflight properties).state.settings = e.state.settings := by
  unfold limitInflight
  split <;> rfl

/-- The CONNACK has the method of CONNECT, or is one of MQTT 3. -/
def Authentic (B : Build) (P : Permit) (e : MqttEngine T) (properties : Option Properties) : Prop :=
  B.strict = true → P.legacy ∨ e.parser.mqttVersion ≠ 5 ∨
    authenticationMethod (properties.getD []) = authenticationMethod e.options.connectProperties

/-- The broker accepted the connection, and its exchanges are about to be settled. -/
structure Accepts (result : ConnectionResult) (e e' : MqttEngine T) (limit : UInt16)
    (reserve : Nat) : Prop where
  view : e'.ledger = { e.ledger with
    connected := true
    connecting := false
    receiveMaximum := limit
    link := { e.link with settings := e.state.settings.override (result.properties.getD []) }
    retry := e.retry.restart
    controlReserve := reserve }.record (.event (.connected result))
  accepted : result.reasonCode = 0
  options : e'.options.limits = e.options.limits
  unlimited : receiveMaximumOf (result.properties.getD []) = none →
    limit = e.inflightQueue.receiveMaximum
  limited : ∀ v ∈ receiveMaximumOf (result.properties.getD []), e.options.receiveMaximum > 0 →
    limit = min v e.options.receiveMaximum
  wide : reserve = e.state.controlReserve ∨ 6 ≤ reserve

theorem Accepts.isConnected {result : ConnectionResult} {e' : MqttEngine T} {limit : UInt16}
    {reserve : Nat} (h : Accepts result e e' limit reserve) : e'.isConnected = true :=
  congrArg Ledger.connected h.view

theorem Accepts.step {result : ConnectionResult} {e' : MqttEngine T} {limit : UInt16}
    {reserve : Nat} (h : Accepts result e e' limit reserve) (hconnecting : e.state.connecting = true)
    (hclosed : e.isConnected = false) (authentic : Authentic B P e result.properties)
    (sessionPresent : Bool) :
    Step B.strict P e.ledger (handOver (e'.replays sessionPresent) e'.ledger) := by
  rw [h.view]
  refine .connack result limit reserve (e'.replays sessionPresent) hconnecting hclosed h.accepted
    (fun hreplays => ?_) h.unlimited h.limited h.wide authentic
  have hsame : e'.options.sessionless = e.options.sessionless := congrArg Limits.sessionless h.options
  exact hsame.symm.trans (replays_sessions hreplays)

/-- The CONNACK of a connection that the broker accepts. -/
theorem accepts_establish {e₂ : MqttEngine T} {limit : UInt16} {reserve : Nat}
    (result : ConnectionResult) (hsettles : Settles e e₂ limit reserve)
    (hsettings : e₂.state.settings = e.state.settings.override (result.properties.getD []))
    (hunlimited : receiveMaximumOf (result.properties.getD []) = none →
      limit = e.inflightQueue.receiveMaximum)
    (hnonzero : receiveMaximumOf (result.properties.getD []) ≠ some 0)
    (hzero : result.reasonCode = 0) {e₄ : MqttEngine T}
    (he₄ : ((e₂.establish result.reasonCode).recordEvents [.connected result]).limitInflight
      (result.properties.getD []) = e₄) :
    ∃ limit', Accepts result e e₄ limit' reserve := by
  obtain ⟨⟨limit', hview, hlimits, -⟩, hnone, hsome⟩ := limitInflight_view
    (result.properties.getD []) ((e₂.establish result.reasonCode).recordEvents [.connected result])
  rw [he₄] at hview hlimits hnone hsome
  have hsame : e₄.state.settings = e₂.state.settings := by
    rw [← he₄, settings_limitInflight]
    exact settings_establish result.reasonCode e₂
  have hview₄ : e₄.ledger = { e.ledger with
      connected := true
      connecting := false
      receiveMaximum := limit'
      link := { e.link with settings := e.state.settings.override (result.properties.getD []) }
      retry := e.retry.restart
      controlReserve := reserve }.record (.event (.connected result)) := by
    rw [ledger, hview [], establish_view hzero, hsettles.view [], hsame, hsettings]
    rfl
  rw [options_establish] at hlimits hsome
  have hmax : e₂.options.receiveMaximum = e.options.receiveMaximum :=
    congrArg Limits.receiveMaximum hsettles.options
  have hlimit' : e₄.inflightQueue.receiveMaximum = limit' := congrArg Ledger.receiveMaximum hview₄
  refine ⟨limit', hview₄, hzero, hlimits.trans hsettles.options, fun h => ?_, fun v hv hpos => ?_,
    hsettles.wide⟩
  · have hlimit₂ : e₂.inflightQueue.receiveMaximum = limit :=
      congrArg Ledger.receiveMaximum (hsettles.view [])
    have hlast := congrArg Ledger.receiveMaximum
      (establish_view hzero (.connected result) [] e₂)
    have hkept := congrArg (fun e : MqttEngine T => e.inflightQueue.receiveMaximum) (hnone h)
    exact hlimit'.symm.trans (hkept.trans (hlast.trans (hlimit₂.trans (hunlimited h))))
  · have hmin := hsome v hv (fun h0 => hnonzero (h0 ▸ hv)) (hmax.symm ▸ hpos)
    rw [hmax] at hmin
    exact hlimit'.symm.trans hmin

/-- The CONNACK of a connection that the broker refuses. -/
theorem establish_refuse {e₂ : MqttEngine T} {limit : UInt16} {reserve : Nat}
    (result : ConnectionResult) (hconnecting : e.state.connecting = true) (hclosed : e.isConnected = false)
    (hsettles : Settles e e₂ limit reserve) (hzero : result.reasonCode ≠ 0) {e₄ : MqttEngine T}
    (he₄ : ((e₂.establish result.reasonCode).recordEvents [.connected result]).limitInflight
      (result.properties.getD []) = e₄) :
    Resets B P e.ledger e₄ := by
  have hestablish : e₂.establish result.reasonCode = { e₂ with isConnected := false } := by
    unfold establish
    rw [decide_eq_false hzero, if_neg hzero]
  obtain ⟨⟨limit', hview, -, hbounded⟩, -, -⟩ := limitInflight_view
    (result.properties.getD []) ((e₂.establish result.reasonCode).recordEvents [.connected result])
  rw [he₄, hestablish] at hview
  have hmax : e₂.options.receiveMaximum = e.options.receiveMaximum :=
    congrArg Limits.receiveMaximum hsettles.options
  have hlimit₂ : e₂.inflightQueue.receiveMaximum = limit :=
    congrArg Ledger.receiveMaximum (hsettles.view [])
  have hplain : (MqttEvent.connected result).plain := ⟨rfl, rfl, decide_eq_false hzero, rfl, rfl⟩
  have hview₄ : e₄.ledger = e.ledger.refused limit' reserve e₄.state.settings
      [.event (.connected result)] := by
    rw [ledger, hview [], Ledger.refused]
    show tuned limit' e₄.state.settings (({ e₂.ledgerWith [] with connected := false } :
      Ledger T).record (.event (.connected result))) = _
    rw [hsettles.view [], ← hclosed]
    rfl
  refine resets_refused hview₄ hconnecting (fun hstart => ?_) hsettles.wide
    (List.forall_mem_singleton.mpr hplain)
  rw [hestablish] at hbounded
  have hle : limit' ≤ e₂.options.receiveMaximum := hbounded (by
    show e₂.inflightQueue.receiveMaximum ≤ e₂.options.receiveMaximum
    rw [hlimit₂, hmax]
    exact hsettles.bounded hstart)
  rw [hmax] at hle
  exact hle

theorem finishConnack_sim {e₂ : MqttEngine T} {limit : UInt16} {reserve : Nat} {reasonCode : UInt8}
    {sessionPresent : Bool} {properties : Option Properties} (hconnecting : e.state.connecting = true)
    (hclosed : e.isConnected = false) (hsettles : Settles e e₂ limit reserve)
    (hsettings : e₂.state.settings = e.state.settings.override (properties.getD []))
    (hunlimited : receiveMaximumOf (properties.getD []) = none →
      limit = e.inflightQueue.receiveMaximum)
    (hnonzero : receiveMaximumOf (properties.getD []) ≠ some 0)
    (authentic : reasonCode = 0 → Authentic B P e properties) :
    Sim B P e.ledger ((finishConnack B reasonCode sessionPresent properties : Eff _ ε _) e₂)
      Replies := by
  let result : ConnectionResult := ⟨reasonCode, sessionPresent, properties⟩
  unfold finishConnack
  refine Reaches.update_bind ?_
  rw [Eff.bind_of_ok (noted_run _ _)]
  refine Reaches.update_bind ?_
  refine .ite (fun hzero => ?_) fun hzero => ?_
  · obtain ⟨limit', haccepts⟩ := accepts_establish result hsettles hsettings hunlimited hnonzero
      hzero rfl
    refine .bind (.step_first (haccepts.step hconnecting hclosed (authentic hzero) sessionPresent)
      (restoreSession_sim sessionPresent haccepts.isConnected)) (fun more e₅ _ => .stay (.none _ _))
      fun error e' _ => .error error e'
  · have hresets := establish_refuse (B := B) (P := P) result hconnecting hclosed hsettles hzero rfl
    exact .bind (handleConnectionLostInner_sim hresets) (fun _ e' _ => .stay (.none _ _))
      fun error e' _ => .error error e'

/-- A CONNACK of MQTT 3 was read by a parser of that version, or the caller may hand it over. -/
def Legacy (B : Build) (P : Permit) (e : MqttEngine T) : Prop :=
  B.strict = true → P.legacy ∨ e.parser.mqttVersion ≠ 5

theorem connackCheck_authentic {reasonCode : UInt8} {sessionPresent : Bool}
    {properties : Option Properties} {u : Unit}
    (h : e.connackCheck B true reasonCode sessionPresent (properties.getD []) = .ok u)
    (hzero : reasonCode = 0) : Authentic B P e properties := by
  obtain ⟨-, hmethod⟩ := check_bind_eq_ok.mp h
  rw [rejectIf_eq_ok] at hmethod
  intro hstrict
  refine .inr (.inr ?_)
  by_contra hne
  exact hmethod ⟨rfl, hstrict, .inl ⟨hzero, hne⟩⟩

theorem handleConnack_sim (v5 : Bool) (reasonCode : UInt8) (sessionPresent : Bool)
    (properties : Option Properties) (hv3 : v5 = false → properties = none ∧ Legacy B P e)
    (hconnecting : e.state.connecting = true) (hclosed : e.isConnected = false) :
    Sim B P e.ledger ((handleConnack B v5 reasonCode sessionPresent properties : Eff _ ε _) e)
      Replies := by
  unfold handleConnack
  refine Reaches.read_bind ?_
  cases hcheck : e.connackCheck B v5 reasonCode sessionPresent (properties.getD []) with
  | error error => exact connectionFailed_sim error (.self e)
  | ok _ =>
    refine Reaches.update_bind ?_
    cases v5 with
    | false =>
      obtain ⟨limit, hlimit, hsettles⟩ := settles_endHandshake (Negotiates.refl e.endHandshake)
      obtain ⟨rfl, legacy⟩ := hv3 rfl
      exact finishConnack_sim hconnecting hclosed hsettles rfl (fun _ => hlimit) (fun h => nomatch h)
        fun _ hstrict => (legacy hstrict).imp_right .inl
    | true =>
      rcases negotiate_run (B := B) (properties.getD []) e.endHandshake with
        ⟨error, e₂, hrun, hnegotiates⟩ | ⟨reserve, e₂, hwide, hnegotiates, hlimited, hrun⟩
      · have hattempt : Eff.onlyWhen (true = true) (negotiate B (properties.getD []))
            e.endHandshake = .done (.error error) e₂ := hrun
        rw [Eff.bind_of_ok (Eff.attempt_of_done hattempt)]
        obtain ⟨limit, -, hsettles⟩ := settles_endHandshake hnegotiates
        exact connectionFailed_sim error (hsettles.refuse hconnecting)
      · have hattempt : Eff.onlyWhen (true = true) (negotiate B (properties.getD []))
            e.endHandshake = .done (.ok ()) { e₂ with state.controlReserve := reserve } := hrun
        rw [Eff.bind_of_ok (Eff.attempt_of_done hattempt)]
        exact finishConnack_sim hconnecting hclosed (settles_reserve hnegotiates hwide)
          hlimited.settings hlimited.unlimited hlimited.nonzero (connackCheck_authentic hcheck)

/-! ## Acknowledgements -/

/-- An acknowledgement that passed its check answers a packet in flight. -/
theorem validateAck_sent {packet : MqttPacket} {stream : Option Nat} {id : UInt16} {kind : UInt8}
    {u : Unit} (h : e.validateAck packet stream = .ok u) (htarget : ackTarget packet = some (id, kind)) :
    ∃ entry, e.inflightQueue.get id = some entry ∧ ackMatches entry.packet kind = true ∧
      entry.stream = stream := by
  unfold validateAck at h
  rw [htarget] at h
  dsimp only at h
  cases hget : e.inflightQueue.get id with
  | none =>
    rw [hget] at h
    cases h
  | some entry =>
    rw [hget] at h
    dsimp only at h
    split at h
    · cases h
    next hmatches =>
      push Not at hmatches
      exact ⟨entry, rfl, hmatches⟩

theorem onQuota_of_ackMatches {sent : MqttPacket} {kind : UInt8} (h : ackMatches sent kind = true)
    (hkind : kind = 4 ∨ kind = 5 ∨ kind = 7) : sent.onQuota = true := by
  cases sent
  case publish5 | publish3 | pubRel5 | pubRel3 => rfl
  all_goals rcases hkind with rfl | rfl | rfl <;> simp [ackMatches] at h

theorem request_of_ackMatches {sent : MqttPacket} {kind : UInt8} (h : ackMatches sent kind = true)
    (hkind : kind = 9 ∨ kind = 11) : sent.onQuota = false := by
  cases sent
  case subscribe5 | subscribe3 | unsubscribe5 | unsubscribe3 => rfl
  all_goals rcases hkind with rfl | rfl <;> simp [ackMatches] at h

theorem tags_of_get {id : UInt16} {entry : InflightEntry T}
    (hget : e.inflightQueue.get id = some entry) : e.ledger.tags id = some entry.stream := by
  show (e.inflightQueue.get id).map InflightEntry.stream = _
  rw [hget, Option.map_some]

theorem ledger_finished (id : UInt16) (ev : MqttEvent) (e : MqttEngine T) :
    (((e.acknowledged id).finishOperation id).recordEvents [ev]).ledger = e.ledger.finish id ev := by
  rw [Ledger.finish, ledger, ledger, ← ledger_acknowledged]
  rfl

theorem completePublish_sim {ack : MqttPacket} {id : UInt16} {reasonCode : UInt8}
    {properties : Option Properties} {entry : InflightEntry T}
    (hget : e.inflightQueue.get id = some entry) (on : P.on entry.stream)
    (hquota : entry.packet.onQuota = true) (hc : e.isConnected = true) :
    Sim B P e.ledger ((completePublish ack id reasonCode properties : Eff _ ε _) e) Replies := by
  unfold completePublish
  refine Reaches.read_bind ?_
  rcases e.inflightQueue.acknowledge_cases id with ⟨hnew, -⟩ | ⟨found, -, hfound, -⟩
  · exact absurd (InflightQueue.get_eq_none.mpr hnew) (by rw [hget]; exact Option.some_ne_none _)
  · have hpair : e.inflightQueue.acknowledge id = (some found, (e.inflightQueue.acknowledge id).2) :=
      Prod.ext hfound rfl
    rw [hpair]
    refine Reaches.update_bind ?_
    rw [Eff.bind_of_ok (noted_run _ _)]
    refine .done (.single ?_) (.none _ _)
    have hview := ledger_finished id (.published ⟨some id, some reasonCode, properties, found.qos⟩)
      (e.record (.completed ack))
    refine hview ▸ Step.complete entry.stream ack id entry.packet _ ?_ (tags_of_get hget) on hquota hc
      rfl rfl ⟨rfl, rfl, rfl⟩
    exact InflightQueue.mem_snapshot.mpr ⟨entry, hget, rfl⟩

theorem completeRequest_sim {id : UInt16} {event : MqttEvent} {entry : InflightEntry T}
    (hget : e.inflightQueue.get id = some entry) (on : P.on entry.stream)
    (hrequest : entry.packet.onQuota = false)
    (hc : e.isConnected = true) (hsettles : event.settles = some id)
    (hsilent : event.delivers = none ∧ event.opens = false ∧ event.releases = none) :
    Sim B P e.ledger ((completeRequest id event : Eff _ ε _) e) Replies := by
  unfold completeRequest
  refine Reaches.update_bind ?_
  rw [Eff.bind_of_ok (noted_run _ _)]
  refine .done (.single ?_) (.none _ _)
  refine ledger_finished id event e ▸ Step.answer entry.stream id entry.packet event ?_
    (tags_of_get hget) on hrequest hc rfl hsettles hsilent
  exact InflightQueue.mem_snapshot.mpr ⟨entry, hget, rfl⟩

theorem releasePublish_sim {id : UInt16} {rel : Response} {entry : InflightEntry T}
    (hget : e.inflightQueue.get id = some entry) (on : P.on entry.stream)
    (hquota : entry.packet.onQuota = true) (hc : e.isConnected = true) (hrel : rel.val.isPubRel = true) (hnames : rel.val.relId = some id)
    (hreply : rel.val.isReply = true) :
    Sim B P e.ledger ((releasePublish id rel : Eff _ ε _) e) Replies := by
  unfold releasePublish
  refine Reaches.read_bind ?_
  rcases e.inflightQueue.transitionPubrelAt_cases id rel.val e.now with
    ⟨hclock, error, htransition⟩ | ⟨inflight, htransition, hsnapshot, hused, htags, hlast, hlimits⟩
  · rw [htransition]
    exact Sim.panic hclock
  · rw [htransition]
    refine Reaches.update_bind (.done (.single ?_) (.one _ hreply hc))
    have hview : ({ e.record (.pubrec id) with inflightQueue := inflight } : MqttEngine T).ledger =
        (e.ledger.advance id rel.val).record (.pubrec id) := by
      simp only [ledger, ledgerWith, Ledger.advance, hsnapshot, hused, htags, hlast,
        hlimits.receiveMaximum, hlimits.mqttVersion, hlimits.retransmissionTimeout]
      rfl
    rw [hview]
    exact .pubrec entry.stream id entry.packet rel.val
      (InflightQueue.mem_snapshot.mpr ⟨entry, hget, rfl⟩) (tags_of_get hget) on hquota hrel hnames hc rfl

/-! ## AUTH -/

theorem authReceived_sim (reasonCode : UInt8) (properties : Properties) (e : MqttEngine T) :
    Sim B P e.ledger ((authReceived B reasonCode properties : Eff _ ε _) e)
      (fun r _ => ∀ event, r = .ok (some event) → event.plain) := by
  unfold authReceived
  refine Reaches.read_bind (.ite (fun _ => ?_) fun _ => ?_)
  · exact .bind (failConnection_sim _ (.self e)) (fun _ _ _ => .stay fun _ h => (by cases h))
      fun _ _ _ _ h => (by cases h)
  · refine Reaches.update_bind (.done ?_ ?_)
    · split
      · exact .single (.reauthenticate false fun h => (by cases h))
      · exact .refl
    · rintro _ ⟨⟩
      exact ⟨rfl, rfl, rfl, rfl, rfl⟩

/-! ## The dispatch -/

theorem dispatch_sim {packet : MqttPacket} {stream : Option Nat} {u : Unit}
    (handles : e.ledger.Handles P stream) (haccept : e.acceptable packet.packetType = true)
    (hcheck : e.validateAck packet stream = .ok u) (legacy : packet.isConnAck3 → Legacy B P e) :
    Sim B P e.ledger ((dispatch B packet stream : Eff _ ε _) e) Replies := by
  have hconnack (h : e.acceptable .connack = true) :
      e.state.connecting = true ∧ e.isConnected = false := by
    have h' := (Bool.and_eq_true _ _).mp h
    exact ⟨h'.1, by simpa using h'.2⟩
  have hcomplete {id : UInt16} {kind reason : UInt8} {properties : Option Properties}
      (htarget : ackTarget packet = some (id, kind)) (hkind : kind = 4 ∨ kind = 5 ∨ kind = 7)
      (hc : e.isConnected = true) : Sim B P e.ledger
        ((completePublish packet id reason properties : Eff _ ε _) e) Replies := by
    obtain ⟨entry, hget, hmatches, hstream⟩ := validateAck_sent hcheck htarget
    have on : P.on entry.stream := hstream ▸ handles.1
    exact completePublish_sim hget on (onQuota_of_ackMatches hmatches hkind) hc
  have hrequest {id : UInt16} {kind : UInt8} {event : MqttEvent}
      (htarget : ackTarget packet = some (id, kind)) (hkind : kind = 9 ∨ kind = 11)
      (hc : e.isConnected = true) (hsettles : event.settles = some id)
      (hsilent : event.delivers = none ∧ event.opens = false ∧ event.releases = none) :
      Sim B P e.ledger ((completeRequest id event : Eff _ ε _) e) Replies := by
    obtain ⟨entry, hget, hmatches, hstream⟩ := validateAck_sent hcheck htarget
    have on : P.on entry.stream := hstream ▸ handles.1
    exact completeRequest_sim hget on (request_of_ackMatches hmatches hkind) hc hsettles hsilent
  have hrelease {id : UInt16} {rel : Response} (htarget : ackTarget packet = some (id, 5))
      (hc : e.isConnected = true) (hrel : rel.val.isPubRel = true) (hnames : rel.val.relId = some id)
      (hreply : rel.val.isReply = true) :
      Sim B P e.ledger ((releasePublish id rel : Eff _ ε _) e) Replies := by
    obtain ⟨entry, hget, hmatches, hstream⟩ := validateAck_sent hcheck htarget
    have on : P.on entry.stream := hstream ▸ handles.1
    exact releasePublish_sim hget on (onQuota_of_ackMatches hmatches (.inr (.inl rfl))) hc hrel
      hnames hreply
  have hnothing : Sim B P e.ledger (.done (.ok ([], [])) e : Outcome _ ε _) Replies :=
    .stay (.none _ _)
  cases packet with
  | connAck5 ack =>
    obtain ⟨hconnecting, hclosed⟩ := hconnack haccept
    exact handleConnack_sim true _ _ _ (fun h => (by cases h)) hconnecting hclosed
  | connAck3 ack =>
    obtain ⟨hconnecting, hclosed⟩ := hconnack haccept
    exact handleConnack_sim false _ _ _ (fun _ => ⟨rfl, legacy rfl⟩) hconnecting hclosed
  | pubAck5 ack => exact hcomplete rfl (.inl rfl) haccept
  | pubAck3 ack => exact hcomplete rfl (.inl rfl) haccept
  | publish5 p => exact receiveMessage_sim p handles haccept
  | publish3 p => exact receiveMessage_sim _ handles haccept
  | subAck5 ack => exact hrequest rfl (.inl rfl) haccept rfl ⟨rfl, rfl, rfl⟩
  | subAck3 ack => exact hrequest rfl (.inl rfl) haccept rfl ⟨rfl, rfl, rfl⟩
  | unsubAck5 ack => exact hrequest rfl (.inr rfl) haccept rfl ⟨rfl, rfl, rfl⟩
  | unsubAck3 ack => exact hrequest rfl (.inr rfl) haccept rfl ⟨rfl, rfl, rfl⟩
  | pingResp5 =>
    exact .step_first .pong
      (reported_sim .pingResponse ⟨rfl, rfl, rfl, rfl, rfl⟩ { e with pingSentAt := none })
  | pingResp3 =>
    exact .step_first .pong
      (reported_sim .pingResponse ⟨rfl, rfl, rfl, rfl, rfl⟩ { e with pingSentAt := none })
  | pubRec5 rec =>
    refine .ite (fun _ => hcomplete rfl (.inr (.inl rfl)) haccept) fun _ => ?_
    exact hrelease rfl haccept rfl rfl rfl
  | pubRec3 rec => exact hrelease rfl haccept rfl rfl rfl
  | pubRel5 rel => exact receivePubrel_sim _ haccept handles
  | pubRel3 rel => exact receivePubrel_sim _ haccept handles
  | pubComp5 comp => exact hcomplete rfl (.inr (.inr rfl)) haccept
  | pubComp3 comp => exact hcomplete rfl (.inr (.inr rfl)) haccept
  | auth auth =>
    refine .bind (authReceived_sim _ _ e) (fun event e₁ hplain => ?_) fun error e' _ => .error error e'
    refine .bind (noted_sim e₁ fun ev hev => ?_) (fun _ _ _ => .stay (.none _ _))
      fun error e' _ => .error error e'
    cases event with
    | none => cases hev
    | some event =>
      obtain rfl := List.mem_singleton.mp hev
      exact hplain ev rfl
  | disconnect5 d =>
    refine .bind (handleConnectionLostInner_sim (.self e)) (fun _ e₁ _ => ?_) fun error e' _ => .error error e'
    exact reported_sim _ ⟨rfl, rfl, rfl, rfl, rfl⟩ e₁
  | _ => exact hnothing

theorem ackFailed_sim (error : MqttClientError) (e : MqttEngine T) :
    Sim B P e.ledger ((ackFailed B error : Eff _ ε _) e) Replies := by
  unfold ackFailed
  refine Reaches.read_bind (.ite (fun _ => connectionFailed_sim error (.self e)) fun _ => ?_)
  exact reported_sim _ (MqttEvent.plain_error error) e

theorem handlePacket_sim (packet : MqttPacket) {stream : Option Nat}
    (handles : e.ledger.Handles P stream) (legacy : packet.isConnAck3 → Legacy B P e) :
    Sim B P e.ledger ((handlePacket B packet stream : Eff _ ε _) e) Replies := by
  unfold handlePacket
  refine .bind (acceptIncoming_sim packet.packetType e) ?_ fun error e' _ => .error error e'
  rintro accepted e₁ haccepted
  cases accepted with
  | true =>
    obtain ⟨rfl, haccept⟩ := haccepted rfl
    refine Reaches.read_bind ?_
    cases hcheck : e₁.validateAck packet stream with
    | error error => exact ackFailed_sim error e₁
    | ok _ => exact dispatch_sim handles haccept hcheck legacy
  | false =>
    refine .bind (takeEvents_sim e₁) ?_ fun error e' _ => .error error e'
    rintro events _ rfl
    exact .stay (.none _ _)

end MqttEngine

end FlowSdk
