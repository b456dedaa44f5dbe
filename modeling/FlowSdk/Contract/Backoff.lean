/-
  FlowSdk.Contract.Backoff — the attempts to reconnect.

  The engine announces an attempt with its number and its delay, and forgets the number when a
  connection is opened. `Paces` lists what a step can do to the reconnect timer; everything
  else follows from it. So the attempts since the last connection are numbered 1, 2, 3, ... and
  their delays double, up to the longest delay. A deadline that is pending stays as it is until
  it is reached, a connection is opened, or the caller connects, disconnects or resets the
  transport: losing the connection again changes nothing.

  Main results:
    1. `paces_step`             what a step does to the timer
    2. `backoff_step`           the announced attempts follow the schedule
    3. `awaits_step`           a pending deadline stays
    4. `connectionLostAt_kept`  a lost connection keeps the deadline
    5. `reconnect_backoff`      the schedule along a run
-/
import FlowSdk.Contract.Lifecycle
import FlowSdk.Refine.Total

set_option linter.unusedSectionVars false

namespace FlowSdk

open Machine Wire Ledger
open Relation (ReflTransGen)

variable {T : Type} [TimePoint T] {ε : Type} {B : Build} {strict : Bool} {P : Permit}
variable {l l' : Ledger T} {options : MqttClientOptions}

/-! ## The schedule -/

/-- The delay before attempt `k + 1`. -/
def backoffDelay (options : MqttClientOptions) (k : Nat) : Nat :=
  fromMillis (min (options.reconnectBaseDelayMs * 2 ^ min k 10) options.reconnectMaxDelayMs)

theorem backoffDelay_mono (options : MqttClientOptions) : Monotone (backoffDelay options) := by
  intro j k hjk
  have hpow : 2 ^ min j 10 ≤ 2 ^ min k 10 :=
    Nat.pow_le_pow_right (by decide) (min_le_min_right 10 hjk)
  have hbase := Nat.mul_le_mul_left options.reconnectBaseDelayMs hpow
  exact Nat.mul_le_mul_right 1000000 (min_le_min_right _ hbase)

/-- The first `n` attempts with their delays, newest first. -/
def planned (options : MqttClientOptions) (n : Nat) : List (Nat × Nat) :=
  (List.range n).reverse.map (fun k => (k + 1, backoffDelay options k))

theorem planned_succ (options : MqttClientOptions) (n : Nat) :
    planned options (n + 1) = (n + 1, backoffDelay options n) :: planned options n := by
  simp [planned, List.range_succ]

/-! ## Records -/

/-- The events about the reconnect timer and the connections that were opened, newest first. -/
def timers : List Obs → List MqttEvent
  | [] => []
  | .event ev :: past => if ev.paces || ev.opens then ev :: timers past else timers past
  | _ :: past => timers past

/-- The attempts that were announced since the last connection. -/
def retries : List MqttEvent → List (Nat × Nat)
  | [] => []
  | .connected _ :: _ => []
  | .reconnectScheduled attempt delay :: past => (attempt, delay) :: retries past
  | _ :: past => retries past

theorem timers_event {ev : MqttEvent} (hpaces : ev.paces = false) (hopens : ev.opens = false)
    (past : List Obs) : timers (.event ev :: past) = timers past := by
  rw [timers, hpaces, hopens]
  rfl

theorem timers_opened {result : ConnectionResult} (h : result.reasonCode = 0) (past : List Obs) :
    timers (.event (.connected result) :: past) = .connected result :: timers past := by
  rw [timers, MqttEvent.opens, decide_eq_true h]
  rfl

theorem timers_settles {ev : MqttEvent} {id : UInt16} (h : ev.settles = some id)
    (past : List Obs) : timers (.event ev :: past) = timers past := by
  cases ev with
  | published _ => rfl
  | subscribed _ => rfl
  | unsubscribed _ => rfl
  | operationFailed _ _ _ => rfl
  | _ => cases h

theorem timers_quiet {o : Obs} (h : o.quiet) (past : List Obs) : timers (o :: past) = timers past := by
  cases o with
  | event ev => exact timers_event h.2.2.2.2 h.2.2.1 past
  | pubrecSent id reason => rfl
  | _ => cases h

theorem timers_news : ∀ (news past : List Obs) (_ : ∀ o ∈ news, o.quiet),
    timers (news ++ past) = timers past
  | [], _, _ => rfl
  | o :: news, past, h =>
    (timers_quiet (h o List.mem_cons_self) _).trans
      (timers_news news past fun o ho => h o (List.mem_cons_of_mem _ ho))

/-! ## Steps -/

/-- What a step does to the reconnect timer. -/
inductive Paces (P : Permit) (l l' : Ledger T) : Prop
  | keeps (events : timers l'.trace = timers l.trace) (retry : l'.retry = l.retry)
  | schedule (deadline : T) (idle : l.retry.due = none)
      (more : l.retry.limit = 0 ∨ l.retry.attempts < l.retry.limit)
      (events : timers l'.trace =
        .reconnectScheduled (l.retry.attempts + 1) l.retry.delay :: timers l.trace)
      (retry : l'.retry = l.retry.schedule deadline)
  | remind (deadline : T) (due : l.retry.due = some deadline) (reached : ¬ l'.now < deadline)
      (events : timers l'.trace = .reconnectNeeded :: timers l.trace)
      (retry : l'.retry = l.retry.cancel)
  | connack (result : ConnectionResult) (accepted : result.reasonCode = 0)
      (events : timers l'.trace = .connected result :: timers l.trace)
      (retry : l'.retry = l.retry.restart)
  | cancel (allowed : P.opens ∨ P.cancels) (events : timers l'.trace = timers l.trace)
      (retry : l'.retry = l.retry.cancel)
  | restart (allowed : P.restarts) (events : timers l'.trace = timers l.trace)
      (retry : l'.retry = l.retry.restart)

theorem paces_step (h : Step strict P l l') (stored : Stored strict P l) (hmigrate : ¬ P.migrate) :
    Paces P l l' := by
  cases h with
  | evict room full => exact (stored.not_full room full).elim
  | broken _ _ _ front unencodable => exact (stored.not_broken front unencodable).elim
  | stall _ _ _ _ possible => exact (stored.not_stalled possible).elim
  | note o quiet => exact .keeps (timers_quiet quiet _) rfl
  | accept id => cases id <;> exact .keeps rfl rfl
  | requeue id => cases id <;> exact .keeps rfl rfl
  | send priority item => cases item.packet.tracked <;> exact .keeps rfl rfl
  | complete stream ack id packet ev sent tag on onQuota connected settled settles =>
    exact .keeps (timers_settles settles _) rfl
  | answer stream id packet ev sent tag on request connected settled settles =>
    exact .keeps (timers_settles settles _) rfl
  | connect packet bytes opens => exact .cancel (.inl opens) rfl rfl
  | refuse limit reserve settings news connecting settled bounded wide quiet =>
    exact .keeps (timers_news news _ quiet) rfl
  | connack result limit reserve replaying connecting closed accepted =>
    exact .connack result accepted (timers_opened accepted _) rfl
  | schedule deadline idle more => exact .schedule deadline idle more rfl rfl
  | remind deadline due reached => exact .remind deadline due reached rfl rfl
  | cancel cancels => exact .cancel (.inr cancels) rfl rfl
  | restart restarts => exact .restart restarts rfl rfl
  | migrate limits timeout retry now received control replay migrates => exact absurd migrates hmigrate
  | _ => exact .keeps rfl rfl

/-! ### The announced attempts -/

/-- Since the last connection `n` attempts were announced, no more than are allowed. -/
def OnSchedule (options : MqttClientOptions) (n : Nat) (events : List MqttEvent) : Prop :=
  retries events = planned options n ∧
    (0 < options.maxReconnectAttempts → n ≤ options.maxReconnectAttempts)

structure Backoff (options : MqttClientOptions) (l : Ledger T) : Prop where
  base : l.retry.base = fromMillis options.reconnectBaseDelayMs
  longest : l.retry.longest = fromMillis options.reconnectMaxDelayMs
  limit : l.retry.limit = options.maxReconnectAttempts
  current : OnSchedule options l.retry.attempts (timers l.trace)
  past : ∀ older, older <:+ timers l.trace → ∃ n, OnSchedule options n older

namespace Backoff

theorem delay (ih : Backoff options l) : l.retry.delay = backoffDelay options l.retry.attempts := by
  have hmillis (ms : Nat) : fromMillis ms / 1000000 = ms := Nat.mul_div_cancel ms (by decide)
  rw [Retry.delay, ih.base, ih.longest, hmillis, hmillis]
  rfl

/-- The timer was stopped, or nothing happened to it. -/
theorem unchanged (ih : Backoff options l) (hevents : timers l'.trace = timers l.trace)
    (hretry : l'.retry = l.retry ∨ l'.retry = l.retry.cancel) : Backoff options l' := by
  rcases hretry with h | h
  all_goals
    exact ⟨by rw [h]; exact ih.base, by rw [h]; exact ih.longest, by rw [h]; exact ih.limit,
      by rw [h, hevents]; exact ih.current, by rw [hevents]; exact ih.past⟩

/-- One more event, after which the schedule is kept. -/
theorem announces (ih : Backoff options l) {ev : MqttEvent}
    (hevents : timers l'.trace = ev :: timers l.trace)
    (hsettings : l'.retry.base = l.retry.base ∧ l'.retry.longest = l.retry.longest ∧
      l'.retry.limit = l.retry.limit)
    (hcurrent : OnSchedule options l'.retry.attempts (ev :: timers l.trace)) :
    Backoff options l' := by
  refine ⟨hsettings.1.trans ih.base, hsettings.2.1.trans ih.longest, hsettings.2.2.trans ih.limit,
    hevents ▸ hcurrent, fun older holder => ?_⟩
  rw [hevents, List.suffix_cons_iff] at holder
  rcases holder with rfl | holder
  · exact ⟨_, hcurrent⟩
  · exact ih.past older holder

end Backoff

theorem backoff_step (h : Step strict P l l') (stored : Stored strict P l) (hmigrate : ¬ P.migrate)
    (hrestarts : ¬ P.restarts) (ih : Backoff options l) : Backoff options l' := by
  cases paces_step h stored hmigrate with
  | keeps events retry => exact ih.unchanged events (.inl retry)
  | cancel allowed events retry => exact ih.unchanged events (.inr retry)
  | restart allowed => exact absurd allowed hrestarts
  | remind deadline due reached events retry =>
    refine ih.announces events (retry ▸ ⟨rfl, rfl, rfl⟩) ?_
    rw [retry]
    exact ih.current
  | connack result accepted events retry =>
    refine ih.announces events (retry ▸ ⟨rfl, rfl, rfl⟩) ?_
    rw [retry]
    exact ⟨rfl, fun _ => Nat.zero_le _⟩
  | schedule deadline idle more events retry =>
    refine ih.announces events (retry ▸ ⟨rfl, rfl, rfl⟩) ?_
    rw [retry]
    refine ⟨?_, fun hlimit => ?_⟩
    · rw [retries, ih.delay, ih.current.1]
      exact (planned_succ options l.retry.attempts).symm
    · rw [ih.limit] at more
      exact more.resolve_left (Nat.ne_of_gt hlimit)

/-! ### A pending deadline -/

/-- Since `events`, a deadline has stayed as it was, or the first thing that happened was that
it was reached or that a connection was opened. -/
inductive Awaits (deadline : T) (events : List MqttEvent) (l : Ledger T) : Prop
  | waits (same : timers l.trace = events) (due : l.retry.due = some deadline)
  | ended (newer : List MqttEvent) (first : MqttEvent)
      (grown : timers l.trace = newer ++ first :: events)
      (ends : first.opens = true ∨ first = .reconnectNeeded ∧ ¬ l.now < deadline)

theorem Paces.grows (h : Paces P l l') : ∃ news, timers l'.trace = news ++ timers l.trace := by
  cases h with
  | keeps events retry => exact ⟨[], events⟩
  | schedule deadline idle more events => exact ⟨[_], events⟩
  | remind deadline due reached events => exact ⟨[_], events⟩
  | connack result accepted events => exact ⟨[_], events⟩
  | cancel allowed events => exact ⟨[], events⟩
  | restart allowed events => exact ⟨[], events⟩

theorem awaits_step {deadline : T} {events : List MqttEvent} (h : Step strict P l l')
    (stored : Stored strict P l) (hmigrate : ¬ P.migrate) (hcancels : ¬ (P.opens ∨ P.cancels))
    (hrestarts : ¬ P.restarts) (ih : Awaits deadline events l) : Awaits deadline events l' := by
  have hpaces := paces_step h stored hmigrate
  cases ih with
  | ended newer first grown ends =>
    obtain ⟨news, hnews⟩ := hpaces.grows
    refine .ended (news ++ newer) first ?_ (ends.imp_right fun hneeded => ⟨hneeded.1, ?_⟩)
    · rw [hnews, grown, List.append_assoc]
    · have hle : l.now ≤ l'.now := (now_step h stored hmigrate).elim (fun h => le_of_eq h.symm) And.right
      exact not_lt.mpr ((not_lt.mp hneeded.2).trans hle)
  | waits same due =>
    cases hpaces with
    | keeps events retry => exact .waits (events.trans same) (retry ▸ due)
    | schedule deadline idle => cases due.symm.trans idle
    | remind deadline' due' reached events =>
      obtain rfl := Option.some.inj (due'.symm.trans due)
      exact .ended [] .reconnectNeeded (same ▸ events) (.inr ⟨rfl, reached⟩)
    | connack result accepted events =>
      exact .ended [] (.connected result) (same ▸ events) (.inl (decide_eq_true accepted))
    | cancel allowed => exact absurd allowed hcancels
    | restart allowed => exact absurd allowed hrestarts

/-! ## A lost connection -/

namespace MqttEngine

variable {e : MqttEngine T}

theorem timers_failOperations (error : MqttClientError) : ∀ (entries : List (UInt16 × MqttPacket))
    (e : MqttEngine T), timers (e.failOperations error entries).trace = timers e.trace
  | [], _ => rfl
  | _ :: entries, _ => timers_failOperations error entries _

theorem timers_dropSession (e : MqttEngine T) : timers e.dropSession.trace = timers e.trace :=
  (timers_failOperations _ _ _).trans (timers_failOperations _ _ _)

theorem keeps_resetForNewTransportInner : Eff.Keeps (fun e : MqttEngine T => timers e.trace)
    (resetForNewTransportInner B : Eff (MqttEngine T) ε Unit) := by
  refine .bind .read fun e => ?_
  cases queueBytes B (e.priorityQueue.modify Queued.withoutAlias).items with
  | error error => exact .halt fun _ => rfl
  | ok bytes =>
    refine .update fun e => ?_
    dsimp only
    split
    · exact timers_dropSession _
    · rfl

/-- A connection that is lost while a deadline is pending keeps the deadline and announces no
other attempt. -/
theorem connectionLostAt_kept {deadline : T} (now : T) (h : e.nextReconnectAt = some deadline) :
    Ends ((connectionLostAt B now : Eff _ ε _) e) (fun _ e' =>
      e'.nextReconnectAt = some deadline ∧ timers e'.trace = timers e.trace) := by
  unfold connectionLostAt
  refine Reaches.read_bind (.bind_total ((Reaches.ends_any _).keeps keeps_resetForNewTransportInner)
    total_resetForNewTransport ?_)
  rintro _ e₁ ⟨-, htimers⟩
  refine Reaches.update_bind (.onlyWhen (fun _ => ?_) fun _ => .stay ⟨h, htimers⟩)
  unfold scheduleReconnectInner
  refine Reaches.read_bind (.ite (fun _ => .stay ⟨h, htimers⟩) fun hnone => ?_)
  exact absurd (Option.isSome_of_eq_some h) hnone

/-! ## Runs -/

end MqttEngine

/-- The caller leaves the reconnect settings and the number of attempts alone. -/
def Unforced (_ : MqttEngine T) : Call T → Prop
  | .resetReconnectState | .setReconnect false | .migrate _ _ => False
  | _ => True

/-- The caller gives up the transport, or connects. -/
def Action.renews : Action → Bool
  | .connect | .disconnect _ _ | .resetForNewTransport => true
  | _ => false

/-- The caller waits for the next attempt. -/
def Patient (e : MqttEngine T) : Call T → Prop
  | .timed _ action | .host _ action => action.renews = false
  | c => Unforced e c

instance (e : MqttEngine T) : (c : Call T) → Decidable (Unforced e c)
  | .resetReconnectState | .setReconnect false | .migrate _ _ => .isFalse id
  | .setReconnect true | .timed _ _ | .host _ _ | .takeEvents | .setParseLevel _
  | .trySetParseLevel _ | .nextPacketId | .takeStreamRetransmissions
  | .restoreSessionState _ => .isTrue trivial

instance (e : MqttEngine T) : (c : Call T) → Decidable (Patient e c)
  | .timed _ action | .host _ action => inferInstanceAs (Decidable (action.renews = false))
  | .resetReconnectState | .setReconnect false | .migrate _ _ => .isFalse id
  | .setReconnect true | .takeEvents | .setParseLevel _ | .trySetParseLevel _ | .nextPacketId
  | .takeStreamRetransmissions | .restoreSessionState _ => .isTrue trivial

/-- What a caller that leaves the settings alone may do. -/
def Permit.unforced : Permit := { Permit.free with restarts := False, migrate := False }

/-- What a caller that waits may do. -/
def Permit.patient : Permit := { Permit.unforced with opens := False, cancels := False }

namespace MqttEngine

theorem allowed_unforced {c : Call T} (h : Unforced e c) : c.Allowed B .unforced e := by
  have haction (action : Action) : action.Allowed B .unforced e :=
    allowed_action (P := .unforced) { Permit.Lenient.free with } action
      (fun _ => ⟨trivial, .inl trivial, .inl trivial, .inl trivial⟩) (fun _ _ => .inl trivial)
      fun _ _ _ => trivial
  have hfree : c.Allowed B .free e := allowed_free c
  cases c with
  | timed now action => exact ⟨trivial, haction action⟩
  | host now action => exact ⟨trivial, haction action⟩
  | resetReconnectState => exact h.elim
  | migrate => exact h.elim
  | _ => exact hfree

theorem allowed_patient {c : Call T} (h : Patient e c) : c.Allowed B .patient e := by
  have haction (action : Action) (hwaits : action.renews = false) :
      action.Allowed B .patient e := by
    have hfree : action.Allowed B .free e := (allowed_free (.timed e.now action)).2
    cases action with
    | publish command => exact { hfree with }
    | connect => cases hwaits
    | disconnect => cases hwaits
    | resetForNewTransport => cases hwaits
    | _ => exact hfree
  have hfree : c.Allowed B .free e := allowed_free c
  cases c with
  | timed now action => exact ⟨trivial, haction action h⟩
  | host now action => exact ⟨trivial, haction action h⟩
  | setReconnect enabled =>
    cases enabled with
    | false => exact h.elim
    | true => exact .inl rfl
  | resetReconnectState => exact h.elim
  | migrate => exact h.elim
  | _ => exact hfree

variable {created : T} {start : MqttEngine T}

theorem Run.backoff (hnew : tryNewAt options created = .ok start) (run : Run B Unforced start e) :
    Stored B.strict .unforced e.ledger ∧ Backoff options e.ledger := by
  obtain ⟨rfl, -⟩ := tryNewAt_ok hnew
  have hnone : OnSchedule options 0 [] := ⟨rfl, fun _ => Nat.zero_le _⟩
  have hstart : Backoff options (newAt options created).ledger :=
    ⟨rfl, rfl, rfl, hnone, fun older holder => ⟨0, List.suffix_nil.mp holder ▸ hnone⟩⟩
  refine run.invariant (I := fun l => Stored B.strict .unforced l ∧ Backoff options l)
    (fun _ _ => allowed_unforced) ?_ ⟨stored_blank _ _ _ _ _, hstart⟩
  exact fun l l' hstep ih => ⟨stored_step hstep ih.1, backoff_step hstep ih.1 id id ih.2⟩

theorem Run.awaits {deadline : T} {e' : MqttEngine T} (hstored : Stored B.strict .patient e.ledger)
    (hdue : e.nextReconnectAt = some deadline) (run : Run B Patient e e') :
    Awaits deadline (timers e.trace) e'.ledger := by
  refine (run.invariant (I := fun l => Stored B.strict .patient l ∧ Awaits deadline _ l)
    (fun _ _ => allowed_patient) ?_ ⟨hstored, .waits rfl hdue⟩).2
  exact fun l l' hstep ih => ⟨stored_step hstep ih.1,
    awaits_step hstep ih.1 id (fun h => h.elim id id) id ih.2⟩

/-- An engine that has lost two connections before CONNACK and waits for its second attempt. -/
def lostTwice : MqttEngine Timestamp :=
  follow (.ordered true) (newAt { reconnect := true } 0)
    [.timed 0 .connect, .timed 0 .handleConnectionLost, .timed 1000000000 .handleTick,
      .timed 1000000000 .connect, .timed 1000000000 .handleConnectionLost]

end MqttEngine

end FlowSdk
