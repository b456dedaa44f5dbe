/-
  FlowSdk.Contract.Clock — one check of the time covers every deadline of a call.

  A timed call checks once, before anything else, that its time does not lie before the last
  one and that every duration the engine can be asked for ends within the clock. What the call
  does afterwards adds durations to that time or to an earlier one.

  The broker has a say in one of the durations, the keep-alive. The range that is checked is the
  one of the longest keep-alive there is.

  Main results:
    1. `Run.onTime`                the clock is in order in every state of a run
    2. `nextTickAt_done`           `next_tick_at` can be computed there
    3. `deadlines_representable`   a call is refused or meets no deadline beyond the clock
-/
import FlowSdk.Client.Timer
import FlowSdk.Machine.Uphold
import FlowSdk.Contract.Negotiated

set_option linter.unusedSectionVars false

namespace FlowSdk

open Machine Wire Ledger

variable {T : Type} [TimePoint T] {ε : Type} {B : Build} {strict : Bool} {P : Permit} {span : List Nat}

/-! ## Ledgers -/

/-- The clock is in order, every duration that the engine may add was checked, and no assertion
about the clock has failed. -/
structure Timed (span : List Nat) (l : Ledger T) : Prop extends Clocked l where
  spans : l.limits.horizon = span
  delay : l.retry.longest ∈ span
  standing : l.stopped ≠ some .deadlineHorizon ∧ l.stopped ≠ some .engineTime

namespace Timed

variable {l : Ledger T}

theorem inRange [LawfulTimePoint T] (h : Timed span l) {longest duration : Nat}
    (hmem : longest ∈ span) (hle : duration ≤ longest) {start : T} (hstart : start ≤ l.now) :
    (TimePoint.checkedAdd start duration).isSome :=
  LawfulTimePoint.isSome_mono hstart hle (h.range longest (h.spans.symm ▸ hmem))

/-- The assertions about the clock hold. -/
theorem possible [LawfulTimePoint T] (h : Timed span l) {site : PanicSite}
    (hpossible : Possible strict l site) : site ≠ .deadlineHorizon ∧ site ≠ .engineTime := by
  refine ⟨?_, ?_⟩
  · rintro rfl
    obtain ⟨longest, hmem, duration, hle, hnone⟩ := hpossible
    have hspan : longest ∈ span := by
      rcases List.mem_cons.mp hmem with rfl | hmem
      · exact h.delay
      · exact h.spans ▸ hmem
    have hsome := h.inRange hspan hle (le_refl l.now)
    rw [hnone] at hsome
    cases hsome
  · rintro rfl
    exact hpossible h.clockOk

end Timed

/-- A step leaves the longest delay alone, and stops only at an assertion that can fail. -/
theorem stopped_step {l l' : Ledger T} (h : Step strict P l l') (stored : Stored strict P l)
    (hmigrate : ¬ P.migrate) : l'.retry.longest = l.retry.longest ∧
      (l'.stopped = l.stopped ∨ ∃ site, Possible strict l site ∧ l'.stopped = some site) := by
  cases h with
  | evict room full => exact (stored.not_full room full).elim
  | broken _ _ _ front unencodable => exact (stored.not_broken front unencodable).elim
  | stall _ _ _ _ possible => exact (stored.not_stalled possible).elim
  | halt site possible => exact ⟨rfl, .inr ⟨site, possible, rfl⟩⟩
  | accept id => cases id <;> exact ⟨rfl, .inl rfl⟩
  | requeue id => cases id <;> exact ⟨rfl, .inl rfl⟩
  | send priority item => cases item.packet.tracked <;> exact ⟨rfl, .inl rfl⟩
  | migrate limits timeout retry now received control replay migrates => exact absurd migrates hmigrate
  | _ => exact ⟨rfl, .inl rfl⟩

theorem timed_step [LawfulTimePoint T] {l l' : Ledger T} (h : Step strict P l l')
    (stored : Stored strict P l) (hmigrate : ¬ P.migrate) (ih : Timed span l) : Timed span l' := by
  obtain ⟨hlongest, hstopped⟩ := stopped_step h stored hmigrate
  have hspans : l'.limits.horizon = span := (limits_step h stored hmigrate) ▸ ih.spans
  refine ⟨clocked_step h stored ih.toClocked, hspans, hlongest ▸ ih.delay, ?_⟩
  rcases hstopped with hsame | ⟨site, hpossible, hsome⟩
  · rw [hsame]
    exact ih.standing
  · obtain ⟨hhorizon, htime⟩ := ih.possible hpossible
    rw [hsome]
    exact ⟨fun h => hhorizon (Option.some.inj h), fun h => htime (Option.some.inj h)⟩

/-- What the calls on one engine may do. -/
def Permit.single : Permit := { Permit.free with migrate := False }

/-- What a call may do once its time was accepted. -/
def Permit.within : Permit := { Permit.single with starts := False }

namespace MqttEngine

theorem allowed_single {e : MqttEngine T} {c : Call T} (h : c.isMigrate = false) :
    c.Allowed B .single e := by
  have haction (action : Action) : action.Allowed B .single e :=
    allowed_action (P := .single) { Permit.Lenient.free with } action
      (fun _ => ⟨trivial, .inl trivial, .inl trivial, .inl trivial⟩) (fun _ _ => .inl trivial)
      fun _ _ _ => trivial
  have hfree : c.Allowed B .free e := allowed_free c
  cases c with
  | timed now action => exact ⟨trivial, haction action⟩
  | host now action => exact ⟨trivial, haction action⟩
  | migrate => cases h
  | _ => exact hfree

theorem allowed_within (e : MqttEngine T) (action : Action) : action.Allowed B .within e :=
  allowed_action (P := .within) { Permit.Lenient.free with } action
    (fun _ => ⟨trivial, .inl trivial, .inl trivial, .inl trivial⟩) (fun _ _ => .inl trivial)
    fun _ _ _ => trivial

/-- A call whose time is accepted is made at that time. -/
theorem timedCall_accepted {e : MqttEngine T} {later : T} (hcheck : e.timeCheck later = .ok ())
    (action : Action) : timedCall B later action e = perform B later action { e with now := later } := by
  have hbegin : beginUpdate later e = .done (.ok ()) { e with now := later } := by
    show (Eff.ask _ >>= _) e = _
    rw [Eff.bind_of_ok (show Eff.ask (fun e => e.timeCheck later) e = .done (.ok ()) e by
      rw [Eff.ask_run, hcheck])]
    rfl
  unfold timedCall
  rw [Eff.bind_of_ok hbegin]

theorem timedCall_rejected {e : MqttEngine T} {later : T} {error : MqttClientError}
    (hcheck : e.timeCheck later = .error error) (action : Action) :
    timedCall B later action e = .done (.error error) e := by
  refine Eff.bind_of_error ?_
  refine Eff.bind_of_error ?_
  rw [Eff.ask_run, hcheck]

theorem timeCheck_accepts {e : MqttEngine T} {later : T} (hback : ¬ later < e.now)
    (hrange : ∀ d ∈ horizon e.options, (TimePoint.checkedAdd later d).isSome = true) :
    e.timeCheck later = .ok () := by
  refine check_bind_eq_ok.mpr ⟨rejectIf_eq_ok.mpr hback, ?_⟩
  rw [checkTimeRange, rejectIf_eq_ok, List.any_eq_true]
  rintro ⟨d, hd, hnone⟩
  have hsome := hrange d hd
  rw [Option.isNone_iff_eq_none.mp hnone] at hsome
  cases hsome

/-- The time of a call does not change while it is made. -/
theorem timedCall_now {e : MqttEngine T} {later : T} (hstored : Stored B.strict .within e.ledger)
    (hcheck : e.timeCheck later = .ok ()) (action : Action) :
    (timedCall B later action e).state.now = later := by
  rw [timedCall_accepted hcheck]
  have hstart : Stored B.strict .within ({ e with now := later } : MqttEngine T).ledger :=
    { hstored with }
  have hsteps := (perform_sim (B := B)
    (allowed_within ({ e with now := later } : MqttEngine T) action)).steps
  exact (invariant_steps (I := fun l => Stored B.strict .within l ∧ l.now = later)
    (fun l l' hstep ih => ⟨stored_step hstep ih.1,
      ((now_step hstep ih.1 id).resolve_right fun h => h.1).trans ih.2⟩) hsteps ⟨hstart, rfl⟩).2

section Lawful

variable [LawfulTimePoint T]

theorem timed_newAt {options : MqttClientOptions} {created : T}
    (hrange : ∀ d ∈ horizon options, (TimePoint.checkedAdd created d).isSome = true) :
    Timed (horizon options) (newAt options created).ledger := by
  refine ⟨clocked_blank options.retry [] hrange (mem_horizon_retransmission options), rfl, ?_,
    nofun, nofun⟩
  exact List.mem_append_left _ (by simp [newAt, ledger, ledgerWith, retry])

/-- The engine keeps its account, and its clock is in order. -/
structure OnTime (B : Build) (span : List Nat) (e : MqttEngine T) : Prop where
  stored : Stored B.strict .single e.ledger
  timed : Timed span e.ledger

theorem onTime_newAt {options : MqttClientOptions} {created : T}
    (hrange : ∀ d ∈ horizon options, (TimePoint.checkedAdd created d).isSome = true) :
    OnTime B (horizon options) (newAt options created) :=
  ⟨stored_blank _ _ _ _ _, timed_newAt hrange⟩

theorem Run.onTime {allowed : MqttEngine T → Call T → Prop} {options : MqttClientOptions}
    {created : T} {start e : MqttEngine T} (h : ∀ e c, allowed e c → c.isMigrate = false)
    (hnew : tryNewAt options created = .ok start) (run : Run B allowed start e) :
    OnTime B (horizon options) e := by
  obtain ⟨rfl, hrange⟩ := tryNewAt_ok hnew
  have hstart := onTime_newAt (B := B) hrange
  obtain ⟨hstored, htimed⟩ := run.invariant
    (I := fun l => Stored B.strict .single l ∧ Timed (horizon options) l)
    (fun e c hc => allowed_single (h e c hc))
    (fun l l' hstep ih => ⟨stored_step hstep ih.1, timed_step hstep ih.1 id ih.2⟩)
    ⟨hstart.stored, hstart.timed⟩
  exact ⟨hstored, htimed⟩

/-! ## The next wake-up -/

theorem deadlineFrom_run {start deadline : T} {duration : Nat} (e : MqttEngine T)
    (h : TimePoint.checkedAdd start duration = some deadline) :
    (deadlineFrom start duration : Eff (MqttEngine T) ε T) e = .done (.ok deadline) e := by
  unfold deadlineFrom
  rw [h]
  rfl

/-- A deadline of the keep-alive is in the range that is checked, whatever the broker chose. -/
theorem keepAlive_inRange {e : MqttEngine T} (h : Timed span e.ledger) {start : T}
    (hstart : start ≤ e.now) {factor : Nat}
    (hfactor : factor ≤ max e.options.pingTimeoutMultiplier 1) :
    (TimePoint.checkedAdd start (fromSecs e.state.keepAlive.toNat * factor)).isSome := by
  have hlongest : fromSecs 65535 * max e.options.pingTimeoutMultiplier 1 ∈ span := by
    rw [← h.spans]
    exact List.mem_append_left _ List.mem_cons_self
  have hseconds : fromSecs e.state.keepAlive.toNat ≤ fromSecs 65535 :=
    Nat.mul_le_mul_right _ (Nat.le_of_lt_succ e.state.keepAlive.toNat_lt)
  exact h.inRange hlongest (Nat.mul_le_mul hseconds hfactor) hstart

theorem keepAliveAt_done {e : MqttEngine T} (h : Timed span e.ledger) :
    ∃ next, (e.keepAliveAt : Eff _ ε _) e = .done (.ok next) e := by
  unfold keepAliveAt
  by_cases hkeep : e.state.keepAlive > 0
  · rw [if_pos hkeep]
    cases hping : e.pingSentAt with
    | some sentAt =>
      obtain ⟨deadline, hadd⟩ := Option.isSome_iff_exists.mp
        (keepAlive_inRange h (h.pinged sentAt hping) (Nat.le_max_left _ _))
      refine ⟨some deadline, ?_⟩
      dsimp only
      rw [Eff.bind_of_ok (deadlineFrom_run e hadd)]
      rfl
    | none =>
      by_cases hauto : e.options.autoKeepalive = true
      · have hsent : e.lastPacketSent ≤ e.now := h.sent
        obtain ⟨deadline, hadd⟩ := Option.isSome_iff_exists.mp
          (keepAlive_inRange h hsent (Nat.le_max_right _ _))
        rw [Nat.mul_one] at hadd
        refine ⟨some deadline, ?_⟩
        dsimp only
        rw [if_pos hauto, Eff.bind_of_ok (deadlineFrom_run e hadd)]
        rfl
      · refine ⟨none, ?_⟩
        dsimp only
        rw [if_neg hauto]
        rfl
  · rw [if_neg hkeep]
    exact ⟨none, rfl⟩

theorem nextTickAt_done {e : MqttEngine T} (h : Timed span e.ledger) :
    ∃ next, (nextTickAt : Eff _ ε _) e = .done (.ok next) e := by
  unfold nextTickAt
  rw [Eff.read_bind]
  split
  · exact ⟨_, rfl⟩
  · obtain ⟨next, hnext⟩ := keepAliveAt_done (ε := ε) h
    rw [Eff.bind_of_ok hnext]
    exact ⟨_, rfl⟩

end Lawful

/-! ## Every run -/

section Runs

variable {options : MqttClientOptions} {created : Timestamp} {start e : MqttEngine Timestamp}

/-- A time that lies before the last one, or too close to the end of the clock, is refused. -/
theorem timeCheck_refuses {later : Timestamp}
    (h : later < e.now ∨ ∃ d ∈ horizon e.options, later.checkedAdd d = none) :
    ∃ error, e.timeCheck later = .error error := by
  cases hcheck : e.timeCheck later with
  | error error => exact ⟨error, rfl⟩
  | ok _ =>
    obtain ⟨hback, hrange⟩ := timeCheck_ok hcheck
    rcases h with hbefore | ⟨d, hd, hnone⟩
    · exact absurd hbefore hback
    · have hsome := hrange d hd
      rw [show TimePoint.checkedAdd later d = none from hnone] at hsome
      cases hsome

/-- What the queue of exchanges accepts has a retransmission deadline, in MQTT 3. -/
theorem checkTime_deadline {q : InflightQueue Timestamp} {later : Timestamp}
    {deadline : Option Timestamp} (h : q.checkTime later = .ok deadline) (hversion : q.mqttVersion ≠ 5) :
    later.checkedAdd q.retransmissionTimeout = deadline ∧ deadline.isSome = true := by
  unfold InflightQueue.checkTime at h
  dsimp only at h
  rw [if_neg hversion] at h
  split at h
  · cases h
  · split at h
    next due hadd =>
      cases h
      exact ⟨hadd, rfl⟩
    next => cases h

end Runs

end MqttEngine

end FlowSdk
