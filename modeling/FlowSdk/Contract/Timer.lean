/-
  FlowSdk.Contract.Timer — a tick does nothing before the time that was announced.

  A tick finds the engine idle, so what it can still do is due to a timer. Each of the timers is
  one of the times that `next_tick_at` takes the earliest of, and a tick before that time has no
  effect.

  Main results:
    1. `quiet_of_nextTickAt`   before the time that was announced no timer is due
    2. `quiet_tick`            a tick before every timer only moves the clock
    3. `timers_announced`      what a tick does by a timer was announced
-/
import FlowSdk.Contract.Idle

set_option linter.unusedSectionVars false

namespace FlowSdk

open Machine Wire

variable {T : Type} [TimePoint T] {ε : Type} {B : Build}

/-- What a timer leaves behind in a tick: a reconnect is needed, an operation has taken too
long, a PINGREQ was not answered, a PINGREQ or an exchange is sent again. -/
def Obs.isTimer : Obs → Bool
  | .event .reconnectNeeded => true
  | .event (.operationFailed _ _ cause) => cause.isOperationTimeout
  | .event (.disconnected none) => true
  | .appended .command packet => packet.packetType = .pingreq
  | .appended .retransmission _ => true
  | _ => false

namespace MqttEngine

variable {e e' : MqttEngine T}

/-! ## A tick before its time -/

/-- No timer of the engine is due. -/
structure Quiet (now : T) (e : MqttEngine T) : Prop where
  operations : ∀ d ∈ e.expiries, now < d
  reconnect : e.isConnected = false → ∀ d ∈ e.nextReconnectAt, now < d
  answered : e.isConnected = true → ¬ e.pingTimedOut now
  ping : e.isConnected = true → ¬ e.pingDue now
  resend : e.isConnected = true → ∀ d ∈ e.inflightQueue.nextExpiration, now < d

theorem lt_of_min? {times : List T} {now : T} (h : ∀ d ∈ times.min?, now < d) :
    ∀ d ∈ times, now < d := by
  intro d hd
  cases hmin : times.min? with
  | none =>
    rw [List.min?_eq_none_iff] at hmin
    rw [hmin] at hd
    cases hd
  | some first =>
    have hfirst : first ≤ d := (List.le_min?_iff hmin).mp (le_refl _) d hd
    exact lt_of_lt_of_le (h first hmin) hfirst

theorem lt_of_earliest {next resendAt : Option T} {now : T}
    (h : ∀ d ∈ earliest next resendAt, now < d) :
    (∀ d ∈ next, now < d) ∧ ∀ d ∈ resendAt, now < d := by
  unfold earliest at h
  cases resendAt with
  | none => exact ⟨h, nofun⟩
  | some resend =>
    cases next with
    | none => exact ⟨nofun, h⟩
    | some at_ =>
      by_cases hlt : resend < at_
      · have hresend : now < resend := h resend (by simp [hlt])
        exact ⟨fun d hd => by cases hd; exact hresend.trans hlt, fun d hd => by cases hd; exact hresend⟩
      · have hat : now < at_ := h at_ (by simp [hlt])
        refine ⟨fun d hd => by cases hd; exact hat, fun d hd => ?_⟩
        cases hd
        exact lt_of_lt_of_le hat (not_lt.mp hlt)

theorem deadlineFrom_value {start deadline : T} {duration : Nat}
    (h : (deadlineFrom start duration : Eff (MqttEngine T) ε T) e = .done (.ok deadline) e') :
    TimePoint.checkedAdd start duration = some deadline := by
  unfold deadlineFrom at h
  cases hadd : TimePoint.checkedAdd start duration with
  | none =>
    rw [hadd] at h
    cases h
  | some found =>
    rw [hadd] at h
    cases h
    rfl

/-- The keep-alive acts at the time that `next_tick_at` announces for it. -/
theorem keepAliveAt_reached [LawfulTimePoint T] {now : T} {next : Option T}
    (sent : e.lastPacketSent ≤ now) (pinged : ∀ sentAt ∈ e.pingSentAt, sentAt ≤ now)
    (hnext : (e.keepAliveAt : Eff _ ε _) e = .done (.ok next) e')
    (h : e.pingTimedOut now ∨ e.pingDue now) : ∃ d ∈ next, d ≤ now := by
  unfold keepAliveAt at hnext
  rcases h with ⟨hkeep, hany⟩ | ⟨hnone, hauto, hkeep, hidle⟩
  · obtain ⟨sentAt, hsent, hlate⟩ := (Option.any_eq_true _ _).mp hany
    rw [if_pos hkeep, hsent] at hnext
    dsimp only at hnext
    rcases hrun : (deadlineFrom sentAt
        (fromSecs e.state.keepAlive.toNat * e.options.pingTimeoutMultiplier) :
          Eff (MqttEngine T) ε T) e with ⟨_ | deadline, e₁⟩ | e₁
    · rw [Eff.bind_of_error hrun] at hnext
      cases hnext
    · rw [Eff.bind_of_ok hrun] at hnext
      cases hnext
      exact ⟨deadline, rfl, (LawfulTimePoint.elapsed (pinged sentAt hsent)
        (deadlineFrom_value hrun)).mp (of_decide_eq_true hlate)⟩
    · rw [Eff.bind_of_panic hrun] at hnext
      cases hnext
  · rw [if_pos hkeep, Option.isNone_iff_eq_none.mp hnone] at hnext
    dsimp only at hnext
    rw [if_pos hauto] at hnext
    rcases hrun : (deadlineFrom e.lastPacketSent (fromSecs e.state.keepAlive.toNat) :
        Eff (MqttEngine T) ε T) e with ⟨_ | deadline, e₁⟩ | e₁
    · rw [Eff.bind_of_error hrun] at hnext
      cases hnext
    · rw [Eff.bind_of_ok hrun] at hnext
      cases hnext
      exact ⟨deadline, rfl, (LawfulTimePoint.elapsed sent (deadlineFrom_value hrun)).mp hidle⟩
    · rw [Eff.bind_of_panic hrun] at hnext
      cases hnext

/-- Before the time that was announced no timer is due. -/
theorem quiet_of_nextTickAt [LawfulTimePoint T] {now : T} {next : Option T}
    (sent : e.lastPacketSent ≤ now) (pinged : ∀ sentAt ∈ e.pingSentAt, sentAt ≤ now)
    (hnext : (nextTickAt : Eff _ ε _) e = .done (.ok next) e) (hlate : ∀ d ∈ next, now < d) :
    e.Quiet now := by
  unfold nextTickAt at hnext
  rw [Eff.read_bind] at hnext
  by_cases hc : e.isConnected = true
  · rw [if_neg (not_not.mpr hc)] at hnext
    rcases hrun : (e.keepAliveAt : Eff _ ε _) e with ⟨_ | keep, e₁⟩ | e₁
    · rw [Eff.bind_of_error hrun] at hnext
      cases hnext
    · rw [Eff.bind_of_ok hrun] at hnext
      cases hnext
      have hall := lt_of_min? hlate
      have hfirst : ∀ d ∈ earliest keep e.inflightQueue.nextExpiration, now < d :=
        fun d hd => hall d (List.mem_append_left _ (Option.mem_toList.mpr hd))
      obtain ⟨hkeep, hresend⟩ := lt_of_earliest hfirst
      have hnot (h : e.pingTimedOut now ∨ e.pingDue now) : False := by
        obtain ⟨d, hd, hle⟩ := keepAliveAt_reached sent pinged hrun h
        exact absurd (hkeep d hd) (not_lt.mpr hle)
      exact ⟨fun d hd => hall d (List.mem_append_right _ hd), fun h => (by cases hc.symm.trans h),
        fun _ h => hnot (.inl h), fun _ h => hnot (.inr h), fun _ => hresend⟩
    · rw [Eff.bind_of_panic hrun] at hnext
      cases hnext
  · rw [if_pos hc] at hnext
    cases hnext
    have hall := lt_of_min? hlate
    exact ⟨fun d hd => hall d (List.mem_append_right _ hd),
      fun _ d hd => hall d (List.mem_append_left _ (Option.mem_toList.mpr hd)),
      fun h => absurd h hc, fun h => absurd h hc, fun h => absurd h hc⟩

theorem checkDeadlines_quiet {now : T} (h : ∀ d ∈ e.expiries, now < d) :
    (checkDeadlines B now : Eff _ ε _) e = .done (.ok ()) e := by
  have hnone : (B.iter e.state.deadlines.entries).filterMap (fun entry =>
      if now < entry.2.1 then none else some (entry.1, entry.2.2)) = [] := by
    refine List.filterMap_eq_nil_iff.mpr fun entry hentry => if_pos (h _ ?_)
    exact List.mem_map_of_mem ((B.iter_perm _).mem_iff.mp hentry)
  have hrun : (checkDeadlines B now : Eff _ ε _) e =
      (Eff.forEach (expireDeadline B now) ((B.iter e.state.deadlines.entries).filterMap (fun entry =>
        if now < entry.2.1 then none else some (entry.1, entry.2.2))) : Eff _ ε _) e := rfl
  rw [hrun, hnone]
  rfl

theorem expireLoop_early {q : InflightQueue T} {now : T} (h : ∀ d ∈ q.nextExpiration, now < d)
    (fuel : Nat) (deadline : Option T) (expired : List (MqttPacket × Option Nat)) :
    (q.expireLoop now deadline fuel expired).1 = expired := by
  cases fuel with
  | zero => rfl
  | succ fuel =>
    unfold InflightQueue.expireLoop
    split
    · rfl
    next id due rest timed => rw [if_pos (h due (by simp [InflightQueue.nextExpiration, timed]))]

theorem getExpired_quiet {q q' : InflightQueue T} {now : T} {expired : List (MqttPacket × Option Nat)}
    (h : ∀ d ∈ q.nextExpiration, now < d) (hok : q.getExpiredWithStreamAt now = .ok (expired, q')) :
    expired = [] := by
  obtain ⟨deadline, -, heq⟩ := bind_eq_ok.mp hok
  have hfirst := congrArg Prod.fst (Except.ok.inj heq)
  exact hfirst.symm.trans (expireLoop_early (q := { q with lastUpdate := some now }) h _ deadline [])

/-- What a quiet tick leaves behind. -/
def Undisturbed (e e' : MqttEngine T) : Prop :=
  (e'.trace = e.trace ∨ e'.trace = .drain :: e.trace) ∧
    e'.streamRetransmissions = e.streamRetransmissions

theorem handleRetransmissions_quiet {now : T} (h : ∀ d ∈ e.inflightQueue.nextExpiration, now < d) :
    Ends ((handleRetransmissions B now : Eff _ ε _) e)
      (fun _ e' => e'.trace = e.trace ∧ e'.streamRetransmissions = e.streamRetransmissions) := by
  refine Reaches.read_bind ?_
  cases hexpired : e.inflightQueue.getExpiredWithStreamAt now with
  | error error => exact .refl
  | ok result =>
    obtain ⟨expired, inflight⟩ := result
    obtain rfl := getExpired_quiet h hexpired
    exact .stay ⟨rfl, rfl⟩

theorem connectedTick_quiet {now : T} (hidle : e.Idle B) (hquiet : e.Quiet now)
    (hc : e.isConnected = true) :
    Ends ((connectedTick B now : Eff _ ε _) e) (fun _ e' => e.Undisturbed e') := by
  unfold connectedTick
  rw [Eff.read_bind]
  have hping : (Eff.attempt (Eff.onlyWhen (e.pingDue now) (sendPingInnerAt B now)) : Eff _ ε _) e =
      .done (.ok (.ok ())) e := by
    rw [Eff.onlyWhen, if_neg (hquiet.ping hc)]
    rfl
  rw [Eff.bind_of_ok hping]
  rcases processQueue_idle (ε := ε) hidle with hrun | hrun
  · rw [Eff.bind_of_ok hrun]
    exact (handleRetransmissions_quiet (hquiet.resend hc)).weaken fun _ _ h => ⟨.inl h.1, h.2⟩
  · rw [Eff.bind_of_ok hrun]
    exact (handleRetransmissions_quiet (e := e.record .drain) (hquiet.resend hc)).weaken
      fun _ _ h => ⟨.inr h.1, h.2⟩

/-- A tick before every timer has no effect. -/
theorem quiet_tick {now : T} (hidle : e.Idle B) (hquiet : e.Quiet now) :
    Ends ((handleTickInner B now : Eff _ ε _) e) (fun _ e' => e.Undisturbed e') := by
  unfold handleTickInner
  rw [Eff.bind_of_ok (checkDeadlines_quiet hquiet.operations),
    Eff.bind_of_ok (flushResponses_waits hidle.waits), Eff.read_bind]
  by_cases hc : e.isConnected = true
  · rw [if_neg (not_not.mpr hc), if_neg (hquiet.answered hc)]
    exact .bind (connectedTick_quiet hidle hquiet hc) (fun _ _ h => .stay h) fun _ _ h => h
  · have htimer : e.reconnectTimer now = e := by
      refine if_neg fun hdue => ?_
      obtain ⟨at_, hat, hnot⟩ := (Option.any_eq_true _ _).mp hdue
      exact of_decide_eq_true hnot (hquiet.reconnect (Bool.eq_false_iff.mpr hc) at_ hat)
    rw [if_pos hc]
    refine Reaches.update_bind ?_
    rw [htimer]
    exact .stay ⟨.inl rfl, rfl⟩

/-! ## What was announced -/

/-- A timer has acted between two states; a packet of another stream is left to its transport. -/
def Fires (e e' : MqttEngine T) : Prop :=
  (∃ news, e'.trace = news ++ e.trace ∧ ∃ o ∈ news, o.isTimer = true) ∨
    e'.streamRetransmissions ≠ e.streamRetransmissions

theorem Undisturbed.not_fires (h : e.Undisturbed e') : ¬ e.Fires e' := by
  rintro (⟨news, htrace, o, ho, htimer⟩ | hstreams)
  · rcases h.1 with hsame | hdrain
    · have hnil : news = [] := List.append_left_eq_self.mp (htrace.symm.trans hsame)
      rw [hnil] at ho
      cases ho
    · have hdrained : news = [.drain] := List.append_cancel_right (htrace.symm.trans hdrain)
      rw [hdrained, List.mem_singleton] at ho
      rw [ho] at htimer
      cases htimer
  · exact hstreams h.2

/-- In every run: what a tick does by a timer, `next_tick_at` announced before it, for a time
that the tick has reached. -/
theorem timers_announced [LawfulTimePoint T] {options : MqttClientOptions} {created now : T}
    {start : MqttEngine T} (hnew : tryNewAt options created = .ok start)
    (run : Run B (fun e c => c.isMigrate = false ∧ e.returns B c = true) start e)
    (later : e.timeCheck now = .ok ()) {r : Except MqttClientError Reply}
    (hcall : call B (.timed now .handleTick) e = .done r e') (fires : e.Fires e') :
    ∃ d, (nextTickAt : Eff _ MqttClientError _) e = .done (.ok (some d)) e ∧ d ≤ now := by
  have htime := (run.onTime (fun _ _ h => h.1) hnew).timed
  obtain ⟨next, hnext⟩ := nextTickAt_done (ε := MqttClientError) htime
  by_contra hnone
  have hlate : ∀ d ∈ next, now < d := by
    intro d hd
    by_contra hreached
    exact hnone ⟨d, hd ▸ hnext, not_lt.mp hreached⟩
  have hle : e.now ≤ now := not_lt.mp (timeCheck_ok later).1
  have hquiet : e.Quiet now := quiet_of_nextTickAt (le_trans htime.sent hle)
    (fun sentAt hsent => le_trans (htime.pinged sentAt hsent) hle) hnext hlate
  have hidle := ((run.atRest hnew).moved now).idle
  have htick : Ends (call B (.timed now .handleTick) e) (fun _ e' => e.Undisturbed e') := by
    show Ends (timedCall B now .handleTick e) _
    rw [timedCall_accepted later]
    exact .bind (quiet_tick hidle { hquiet with }) (fun _ _ h => .stay h) fun _ _ h => h
  rw [hcall] at htick
  exact htick.2.not_fires fires

/-- The PINGREQ of the default keep-alive, a minute after CONNECT. -/
theorem timers_announced_ping :
    let e := follow (.ordered true) (newAt {} (0 : Timestamp))
      [.timed 5 .connect, .timed 7 (.handleIncoming [0x20, 3, 0, 0, 0])]
    e.Fires (e.after (.ordered true) (.timed 60000000005 .handleTick)) ∧
    ∃ d, (nextTickAt : Eff _ MqttClientError _) e = .done (.ok (some d)) e ∧ d ≤ 60000000005 := by
  intro e
  have hrun : Run (.ordered true) (fun e c => c.isMigrate = false ∧ e.returns (.ordered true) c = true)
      (newAt {} (0 : Timestamp)) e := Run.start.follow (by decide +kernel)
  have hfires : e.Fires (e.after (.ordered true) (.timed 60000000005 .handleTick)) :=
    .inl ⟨[.drain, .appended .command .pingReq5], by decide +kernel, .appended .command .pingReq5,
      by decide, rfl⟩
  have hreturns : e.returns (.ordered true) (.timed 60000000005 .handleTick) = true := by
    decide +kernel
  obtain ⟨r, hcall⟩ := call_of_returns hreturns
  exact ⟨hfires, timers_announced tryNewAt_default hrun (by decide +kernel) hcall hfires⟩

end MqttEngine

end FlowSdk
