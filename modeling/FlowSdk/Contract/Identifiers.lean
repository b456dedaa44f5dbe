/-
  FlowSdk.Contract.Identifiers — operations, their identifiers and their outcomes.

  In an orderly run, in which QoS 0 publications carry no identifier, an identifier belongs to
  one operation from its acceptance to its only terminal event, and no assertion of the engine
  fails. A QoS 0 publication keeps the identifier its command carries; if the queue rejects it,
  the engine ends the operation that really owns the identifier.

  Without a session the exchanges of the last connection stay listed in `previous_inflight`
  when their operations have failed. There, CONNECT has to find no queued publication with one
  of their identifiers.

  Main results:
    1. `identifiers_owned`     what is reserved, and where it waits
    2. `one_outcome`           one terminal event per operation
    3. `assertions_hold`       no assertion fails
    4. `nextPacketId_complete` the search for an identifier finds the next free one
-/
import FlowSdk.Client.Clock
import FlowSdk.Client.Ownership
import FlowSdk.Contract.Negotiated

set_option linter.unusedSectionVars false

namespace FlowSdk

open Machine Wire Ledger
open Relation (ReflTransGen)

variable {T : Type} [TimePoint T] {strict : Bool} {P : Permit} {l l' : Ledger T} {B : Build}

/-! ## The record of operations -/

/-- The operation of the identifier is under way: since it was accepted, or came with a saved
session, no event has ended it. -/
def underway (id : UInt16) : List Obs → Bool
  | [] => false
  | .accepted i :: past => i = id || underway id past
  | .inherited i :: past => i = id || underway id past
  | .event ev :: past => !(ev.settles = some id) && underway id past
  | _ :: past => underway id past

/-- An identifier is given to one operation at a time, and a terminal event ends an operation
that is under way, whose identifier was reserved right before. -/
def OneOutcome : List Obs → Prop
  | [] => True
  | .accepted id :: past => underway id past = false ∧ OneOutcome past
  | .inherited id :: past => underway id past = false ∧ OneOutcome past
  | .event ev :: past => (∀ id ∈ ev.settles, underway id past = true ∧
      past.head? = some (.released id true)) ∧ OneOutcome past
  | _ :: past => OneOutcome past

/-- What is reserved are the identifiers of the operations under way. -/
structure History (l : Ledger T) : Prop where
  reserved : ∀ id, id ∈ l.reserved ↔ underway id l.trace = true
  outcome : OneOutcome l.trace

theorem underway_silent {ev : MqttEvent} (h : ev.settles = none) (id : UInt16) (past : List Obs) :
    underway id (.event ev :: past) = underway id past := by
  simp [underway, h]

theorem underway_quiet {news : List Obs} (quiet : ∀ o ∈ news, o.quiet) (id : UInt16)
    (past : List Obs) : underway id (news ++ past) = underway id past := by
  induction news with
  | nil => rfl
  | cons o news ih =>
    have hrest := ih fun o ho => quiet o (List.mem_cons_of_mem _ ho)
    have ho := quiet o List.mem_cons_self
    cases o with
    | event ev => exact (underway_silent ho.1 id (news ++ past)).trans hrest
    | pubrecSent i reason => exact hrest
    | _ => exact ho.elim

theorem oneOutcome_silent {ev : MqttEvent} (h : ev.settles = none) {past : List Obs}
    (ih : OneOutcome past) : OneOutcome (.event ev :: past) :=
  ⟨fun id hid => (by cases h.symm.trans hid), ih⟩

theorem oneOutcome_quiet {news : List Obs} (quiet : ∀ o ∈ news, o.quiet) {past : List Obs}
    (ih : OneOutcome past) : OneOutcome (news ++ past) := by
  induction news with
  | nil => exact ih
  | cons o news hnews =>
    have hrest := hnews fun o ho => quiet o (List.mem_cons_of_mem _ ho)
    have ho := quiet o List.mem_cons_self
    cases o with
    | event ev => exact oneOutcome_silent ho.1 hrest
    | pubrecSent i reason => exact hrest
    | _ => exact ho.elim

namespace History

theorem quiet (ih : History l) {news : List Obs} (quiet : ∀ o ∈ news, o.quiet) :
    History { l with trace := news ++ l.trace } where
  reserved := fun id => by
    show id ∈ l.reserved ↔ underway id (news ++ l.trace) = true
    rw [underway_quiet quiet]
    exact ih.reserved id
  outcome := oneOutcome_quiet quiet ih.outcome

theorem event (ih : History l) {ev : MqttEvent} (h : ev.settles = none) :
    History (l.record (.event ev)) where
  reserved := fun id => by
    show id ∈ l.reserved ↔ underway id (.event ev :: l.trace) = true
    rw [underway_silent h]
    exact ih.reserved id
  outcome := oneOutcome_silent h ih.outcome

/-- An operation ends. -/
theorem finish (ih : History l) {id : UInt16} {ev : MqttEvent} (hid : id ∈ l.reserved)
    (hev : ev.settles = some id) : History (l.finish id ev) where
  reserved := fun i => by
    show i ∈ l.reserved.erase id ↔
      (!decide (ev.settles = some i) && underway i l.trace) = true
    rw [hev, Finset.mem_erase, ih.reserved, Bool.and_eq_true, Bool.not_eq_true',
      decide_eq_false_iff_not, Option.some.injEq, ne_comm]
  outcome := by
    refine ⟨fun i hi => ?_, ih.outcome⟩
    cases hev.symm.trans hi
    refine ⟨(ih.reserved id).mp hid, ?_⟩
    show some (Obs.released id (decide (id ∈ l.reserved))) = _
    rw [decide_eq_true hid]

theorem mem_insert (ih : History l) (id i : UInt16) :
    i ∈ insert id l.reserved ↔ (decide (id = i) || underway i l.trace) = true := by
  rw [Finset.mem_insert, ih.reserved, Bool.or_eq_true, decide_eq_true_iff, eq_comm]

/-- An operation starts with an identifier that is free. -/
theorem accept (ih : History l) {id : UInt16} (free : id ∉ l.reserved) : History (l.accept id) where
  reserved := fun i => ih.mem_insert id i
  outcome := ⟨Bool.eq_false_iff.mpr fun h => free ((ih.reserved id).mpr h), ih.outcome⟩

theorem inherit (ih : History l) {id : UInt16} (free : id ∉ l.reserved) :
    History (l.inherit id) where
  reserved := fun i => ih.mem_insert id i
  outcome := ⟨Bool.eq_false_iff.mpr fun h => free ((ih.reserved id).mpr h), ih.outcome⟩

end History

theorem settles_operationFailed {kind : OperationKind} {id : UInt16} {error : MqttClientError}
    (permanent : error.isOperationTimeout = false) :
    (MqttEvent.operationFailed kind (some id) error).settles = some id := by
  rw [MqttEvent.settles, permanent]
  rfl

theorem history_step (h : Step strict P l l') (stored : Stored strict P l) (migrates : ¬ P.migrate)
    (owned : Owned l) (ih : History l) : History l' := by
  have hinflight {id : UInt16} {packet : MqttPacket} (hsent : (id, packet) ∈ l.inflight) :
      id ∈ l.reserved := (owned.reserved id).mpr (.inr (.inl (mem_ids_of_mem hsent)))
  have hreplay {id : UInt16} {packet : MqttPacket} {rest : List Exchange}
      (hfront : l.replay = (id, packet) :: rest) : id ∈ l.reserved :=
    (owned.reserved id).mpr (.inr (.inr (.inl (mem_ids_of_mem (hfront ▸ List.mem_cons_self)))))
  cases h with
  | evict room full => exact (stored.not_full room full).elim
  | broken _ _ _ front unencodable => exact (stored.not_broken front unencodable).elim
  | stall _ _ _ _ possible => exact (stored.not_stalled possible).elim
  | note o quiet =>
    have hquiet : ∀ o' ∈ [o], o'.quiet := by
      rintro _ (_ | ⟨_, ⟨⟩⟩)
      exact quiet
    exact { ih.quiet hquiet with }
  | accept id priority packet publishes free =>
    cases id with
    | none => exact { ih with }
    | some id => exact { ih.accept (free id rfl).2.1 with }
  | send priority item => cases item.packet.tracked <;> exact { ih with }
  | reject priority item rest id error front drains named permanent =>
    have hlabelled : Labelled item.packet :=
      owned.labelled (priority, item) (front ▸ List.mem_cons_self)
    have hid : id ∈ queuedIds l.queue := by
      rw [(owned.front_apart front (hlabelled.tracked_eq.trans named)).1]
      exact List.mem_cons_self
    have hrest : History (l.dequeue rest (item.packet.size strict)) := { ih with }
    exact hrest.finish ((owned.reserved id).mpr (.inl hid)) (settles_operationFailed permanent)
  | drop priority item rest =>
    have hrest : History (l.dequeue rest (item.packet.size strict)) := { ih with }
    exact hrest.event rfl
  | untracked id packet rest bytes error front connected settled encodes room quota refused permanent =>
    have hrest : History ({ l with replay := rest }.append .replay packet bytes) := { ih with }
    exact hrest.finish (hreplay front) (settles_operationFailed permanent)
  | abort id packet rest error front connected settled permanent =>
    have hrest : History { l with replay := rest } := { ih with }
    exact hrest.finish (hreplay front) (settles_operationFailed permanent)
  | operate stream id packet free =>
    have htracked : History (l.trackOn stream id packet) := { ih with }
    exact htracked.accept free.2.1
  | trackStream stream id packet n streams free =>
    have htracked : History (l.trackOn stream id packet) := { ih with }
    exact { htracked.accept free.2.1 with }
  | complete stream ack id packet ev sent tag on onQuota connected settled settles =>
    have hrecord : History (l.record (.completed ack)) := { ih with }
    exact hrecord.finish (hinflight sent) settles
  | answer stream id packet ev sent tag on request connected settled settles =>
    exact ih.finish (hinflight sent) settles
  | refuse limit reserve settings news connecting settled bounded wide quiet =>
    exact { ih.quiet quiet with }
  | connack result =>
    have hconnected : History (l.record (.event (.connected result))) := ih.event rfl
    exact { hconnected with }
  | expire id packet rest front =>
    have hid : id ∈ restoringIds l.restoring := by
      rw [front]
      exact List.mem_cons_self
    have hrest : History { l with restoring := rest } := { ih with }
    exact hrest.finish ((owned.reserved id).mpr (.inr (.inr (.inr (.inl hid))))) rfl
  | abandonInflight id packet sent => exact ih.finish (hinflight sent) rfl
  | schedule deadline =>
    have hscheduled : History { l with retry := l.retry.schedule deadline } := { ih with }
    exact hscheduled.event rfl
  | remind =>
    have hcancelled : History { l with retry := l.retry.cancel } := { ih with }
    exact hcancelled.event rfl
  | deliver key message =>
    have hentered : History { l.record (.entered key (.publish message.qos)) with
      received := l.received.insert key (.publish message.qos) } := { ih with }
    have hreceived : History ({ l.record (.entered key (.publish message.qos)) with
      received := l.received.insert key (.publish message.qos) }.record
        (.event (.publishReceived message.packetId key.1))) := hentered.event rfl
    exact hreceived.event rfl
  | pubrel key =>
    have hadvanced : History ({ l with received := l.received.insert key .pubRel }.record
      (.pubrel key.2)) := { ih with }
    exact hadvanced.event rfl
  | release key =>
    have hrecord : History (l.record (.pubrel key.2)) := { ih with }
    have hreleased : History ((l.record (.pubrel key.2)).record
      (.event (.pubRelReceived key.2 key.1))) := hrecord.event rfl
    exact { hreleased with }
  | overlook => exact ih.event rfl
  | migrate limits timeout retry now received control replay migrates' => exact absurd migrates' migrates
  | inherit id packet rest loading front nonzero free => exact { ih.inherit free with }
  | requeue id priority packet loading done publishes free =>
    cases id with
    | none => exact { ih with }
    | some id => exact { ih.inherit (free id rfl).2 with }
  | _ => exact { ih with }

/-! ## Assertions -/

/-- An assertion of the engine about its own state. -/
def PanicSite.internal : PanicSite → Bool
  | .deadlineHorizon | .parser _ => false
  | _ => true

/-- No such assertion has failed. -/
def Standing (l : Ledger T) : Prop := ∀ site ∈ l.stopped, site.internal = false

/-- The front of the queue can be tracked if the quota allows it. -/
theorem Owned.admits (owned : Owned l) (clocked : Clocked l) {priority : UInt8} {item : Queued}
    {rest : List (UInt8 × Queued)} {id : UInt16} (front : l.queue = (priority, item) :: rest)
    (tracked : item.packet.tracked = some id)
    (quota : item.packet.isPublish → l.quotaUsed < l.receiveMaximum.toNat) :
    l.Admits id item.packet := by
  obtain ⟨hids, -, hapart⟩ := owned.front_apart front tracked
  have hreserved : id ∈ l.reserved := (owned.reserved id).mpr (.inl (hids ▸ List.mem_cons_self))
  refine ⟨clocked.clockOk, ?_, fun h => hapart (.inl h), quota⟩
  rintro rfl
  exact owned.nonzero hreserved

theorem possible_internal {site : PanicSite} (possible : Possible strict l site)
    (stored : Stored strict P l) (owned : Owned l) (clocked : Clocked l) :
    site.internal = false := by
  cases site with
  | reservedPacketId =>
    obtain ⟨priority, item, rest, id, front, -, tracked, quota, refused⟩ := possible
    exact absurd (owned.admits clocked front tracked quota) refused
  | packetIdUnwrap =>
    obtain ⟨priority, item, rest, front, qos, unnamed⟩ := possible
    have hlabelled : Labelled item.packet :=
      owned.labelled (priority, item) (front ▸ List.mem_cons_self)
    have hsome := hlabelled.identified qos
    rw [hlabelled.tracked_eq.trans unnamed] at hsome
    cases hsome
  | queuedPacket => exact (stored.not_stalled possible).elim
  | engineTime => exact absurd clocked.clockOk possible
  | deadlineHorizon => rfl
  | parser p => rfl
  | _ => exact possible.elim

theorem Standing.finish (h : Standing l) (id : UInt16) (ev : MqttEvent) :
    Standing (l.finish id ev) := h

theorem standing_step (h : Step strict P l l') (stored : Stored strict P l) (owned : Owned l)
    (clocked : Clocked l) (ih : Standing l) : Standing l' := by
  cases h with
  | evict room full => exact (stored.not_full room full).elim
  | broken _ _ _ front unencodable => exact (stored.not_broken front unencodable).elim
  | stall _ _ _ _ possible => exact (stored.not_stalled possible).elim
  | halt site possible =>
    rintro _ ⟨⟩
    exact possible_internal possible stored owned clocked
  | accept id => cases id <;> exact ih
  | requeue id => cases id <;> exact ih
  | send priority item => cases item.packet.tracked <;> exact ih
  | untracked id packet rest bytes =>
    have hrest : Standing ({ l with replay := rest }.append .replay packet bytes) := ih
    exact hrest.finish id _
  | complete stream ack id packet ev =>
    have hrecord : Standing (l.record (.completed ack)) := ih
    exact hrecord.finish id ev
  | migrate => rintro _ ⟨⟩
  | _ => exact ih

/-! ## Orderly runs -/

/-- QoS 0 publications carry no identifier. -/
def Call.untagged : Call T → Bool
  | .timed _ (.publish command) | .host _ (.publish command) =>
    command.qos > 0 || command.packetId = none
  | _ => true

/-- QoS 0 publications carry no identifier; without a session, CONNECT finds no queued
publication with an identifier of the last connection; a run is about one engine. -/
structure Orderly (sessionless : Bool) (e : MqttEngine T) (c : Call T) : Prop where
  untagged : c.untagged = true
  unstale : sessionless = true → c.isConnect = true →
    ∀ id ∈ ids e.previousInflight, id ∉ queuedIds e.priorityQueue.items
  single : c.isMigrate = false

instance (sessionless : Bool) (e : MqttEngine T) (c : Call T) : Decidable (Orderly sessionless e c) :=
  -- over the list, not over all identifiers
  have : Decidable (∀ id ∈ ids e.previousInflight, id ∉ queuedIds e.priorityQueue.items) :=
    List.decidableBAll _ _
  decidable_of_iff (c.untagged = true ∧ (sessionless = true → c.isConnect = true →
    ∀ id ∈ ids e.previousInflight, id ∉ queuedIds e.priorityQueue.items) ∧ c.isMigrate = false)
    ⟨fun h => ⟨h.1, h.2.1, h.2.2⟩, fun h => ⟨h.untagged, h.unstale, h.single⟩⟩

/-- What orderly calls are allowed to do. -/
def Permit.orderly (sessionless : Bool) : Permit :=
  { Permit.free with tagged := False, migrate := False, stale := sessionless = false }

/-- What holds in every state of an orderly run. -/
structure Kempt (strict : Bool) (P : Permit) (options : MqttClientOptions) (l : Ledger T) : Prop where
  stored : Stored strict P l
  clocked : Clocked l
  owned : Owned l
  limits : l.limits = options.limits

theorem kempt_blank {options : MqttClientOptions} {created : T} {start : MqttEngine T}
    (hnew : MqttEngine.tryNewAt options created = .ok start) :
    Kempt strict P options start.ledger := by
  obtain ⟨rfl, hrange⟩ := MqttEngine.tryNewAt_ok hnew
  have hview := MqttEngine.ledger_newAt options created []
  rw [show MqttEngine.newAt options created =
    { MqttEngine.newAt options created with trace := [] } from rfl, hview]
  exact ⟨stored_blank _ _ _ _ _, clocked_blank _ _ hrange (MqttEngine.mem_horizon_retransmission options),
    owned_blank _ _ _ _ _, rfl⟩

/-- Steps of a permit that is as careful as an orderly one. -/
theorem kempt_step {options : MqttClientOptions} (h : Step strict P l l') (untagged : ¬ P.tagged)
    (unstale : options.sessionless = true → ¬ P.stale) (single : ¬ P.migrate)
    (ih : Kempt strict P options l) : Kempt strict P options l' := by
  have hcareful : Careful P l :=
    ⟨untagged, fun hs => unstale ((congrArg Limits.sessionless ih.limits).symm.trans hs)⟩
  exact ⟨stored_step h ih.stored, clocked_step h ih.stored ih.clocked,
    owned_step h ih.stored hcareful ih.owned, (limits_step h ih.stored single).trans ih.limits⟩

namespace MqttEngine

variable {e : MqttEngine T} {options : MqttClientOptions} {created : T} {start : MqttEngine T}

theorem allowed_orderly {sessionless : Bool} {c : Call T} (h : Orderly sessionless e c) :
    c.Allowed B (.orderly sessionless) e := by
  have hfree : c.Allowed B .free e := allowed_free c
  have haction (action : Action)
      (hconnect : action = .connect → sessionless = true →
        ∀ id ∈ ids e.previousInflight, id ∉ Ledger.queuedIds e.priorityQueue.items)
      (hpublish : ∀ command, action = .publish command →
        command.qos > 0 ∨ command.packetId = none) :
      action.Allowed B (.orderly sessionless) e := by
    refine allowed_action (P := .orderly sessionless) { Permit.Lenient.free with }
      action (fun hopens => ⟨trivial, ?_, .inl trivial, .inl trivial⟩)
      (fun command hcommand => .inr (hpublish command hcommand)) fun _ _ _ => trivial
    cases sessionless with
    | false => exact .inl rfl
    | true => exact .inr (hconnect hopens rfl)
  have huntagged := h.untagged
  cases c with
  | timed now action =>
    refine ⟨trivial, haction action ?_ ?_⟩
    · rintro rfl hs
      exact h.unstale hs rfl
    · rintro command rfl
      simpa [Call.untagged] using huntagged
  | host now action =>
    refine ⟨trivial, haction action ?_ ?_⟩
    · rintro rfl hs
      exact h.unstale hs rfl
    · rintro command rfl
      simpa [Call.untagged] using huntagged
  | migrate => cases h.single
  | _ => exact hfree

/-- The invariants of operations and assertions in an orderly run. -/
structure Sound (strict : Bool) (options : MqttClientOptions) (l : Ledger T) : Prop extends
    Kempt strict (.orderly options.sessionless) options l where
  history : History l
  standing : Standing l

theorem Run.sound (hnew : tryNewAt options created = .ok start)
    (run : Run B (Orderly options.sessionless) start e) : Sound B.strict options e.ledger := by
  have hstart : Sound B.strict options start.ledger := by
    refine ⟨kempt_blank hnew, ?_, ?_⟩ <;> obtain ⟨rfl, -⟩ := tryNewAt_ok hnew
    · exact ⟨fun id => ⟨fun h => (by cases h), fun h => (by cases h)⟩, trivial⟩
    · rintro _ ⟨⟩
  refine run.invariant (fun e c h => allowed_orderly h) ?_ hstart
  intro l l' hstep ih
  have hkempt := kempt_step hstep id (fun hs h => by cases hs.symm.trans h) id ih.toKempt
  exact ⟨hkempt, history_step hstep ih.stored id ih.owned ih.history,
    standing_step hstep ih.stored ih.owned ih.clocked ih.standing⟩

/-! ## Where identifiers wait -/

/-- The identifier belongs to a queued publication or to an exchange. -/
def InUse (e : MqttEngine T) (id : UInt16) : Prop :=
  id ∈ Ledger.queuedIds e.priorityQueue.items ∨
    id ∈ Ledger.ids e.inflightQueue.snapshotForReconnect ∨ id ∈ Ledger.ids e.sessionReplay ∨
    id ∈ Ledger.ids e.previousInflight

/-- The places of the engine, each of whose identifiers is reserved. -/
structure Owns (e : MqttEngine T) : Prop where
  reserved : ∀ id, id ∈ e.state.reserved ↔ e.InUse id
  distinct : (Ledger.queuedIds e.priorityQueue.items).Nodup
  apart : ∀ id ∈ Ledger.queuedIds e.priorityQueue.items,
    id ∉ Ledger.ids e.inflightQueue.snapshotForReconnect ∧ id ∉ Ledger.ids e.sessionReplay ∧
      id ∉ Ledger.ids e.previousInflight
  separate : ∀ id ∈ Ledger.ids e.inflightQueue.snapshotForReconnect, id ∉ Ledger.ids e.sessionReplay
  nonzero : 0 ∉ e.state.reserved

theorem engaged_iff (hsessions : e.options.sessionless = false) (id : UInt16) :
    e.ledger.Engaged id ↔ id ∈ Ledger.ids e.inflightQueue.snapshotForReconnect ∨
      id ∈ Ledger.ids e.sessionReplay ∨ id ∈ Ledger.ids e.previousInflight := by
  have hrestoring : id ∉ restoringIds ([] : List (Exchange × Bool)) := List.not_mem_nil
  have hledger : e.ledger.limits.sessionless = false := hsessions
  rw [Engaged, hledger]
  show _ ∨ _ ∨ id ∈ restoringIds [] ∨ _ ∧ _ ↔ _
  rw [or_iff_right hrestoring, and_iff_right rfl]
  exact Iff.rfl

theorem owns_of_owned (h : Owned e.ledger) (hsessions : e.options.sessionless = false) : e.Owns where
  reserved := fun id => (h.reserved id).trans (or_congr_right (engaged_iff hsessions id))
  distinct := h.queued
  apart := fun id hid => by
    have hfree := h.apart id hid
    rw [engaged_iff hsessions, not_or, not_or] at hfree
    exact hfree
  separate := h.separate
  nonzero := h.nonzero

/-! ## The identifier of a new operation -/

theorem perform_free (now : T) (action : Action) (e : MqttEngine T) :
    Ends (perform B now action e) (fun r _ => ∀ id, r = .ok (.packetId (some id)) →
      e.ledger.Free id) := by
  cases action with
  | publish command =>
    refine .bind (publishInner_sim (P := .free) ⟨trivial, .inl trivial, .inl trivial,
      Nat.zero_le _⟩).ends (fun id e' h => .stay ?_) fun _ _ _ _ h => (by cases h)
    rintro i ⟨⟩
    exact h i rfl
  | subscribe command =>
    refine .bind (subscribeInner_sim (P := .free) command (.inl trivial)).ends
      (fun id e' h => .stay ?_) fun _ _ _ _ h => (by cases h)
    rintro i ⟨⟩
    exact h.1 id rfl
  | unsubscribe command =>
    refine .bind (unsubscribeInner_sim (P := .free) command (.inl trivial)).ends
      (fun id e' h => .stay ?_) fun _ _ _ _ h => (by cases h)
    rintro i ⟨⟩
    exact h.1 id rfl
  | _ =>
    refine .bind (Reaches.ends_any _) (fun _ _ _ => .stay ?_) fun _ _ _ _ h => (by cases h)
    rintro _ ⟨⟩

theorem timedCall_free (now : T) (action : Action) (e : MqttEngine T) :
    Ends (timedCall B now action e) (fun r _ => ∀ id, r = .ok (.packetId (some id)) →
      e.ledger.Free id) := by
  refine .bind (Q := fun _ e' => e'.ledger.Free = e.ledger.Free) ?_ ?_
    fun _ _ _ _ h => (by cases h)
  · exact .ask_bind (fun _ _ => .stay rfl) fun _ _ => .stay rfl
  · intro _ e' hsame
    exact hsame ▸ perform_free now action e'

theorem hostFallback_free (error : MqttClientError) (action : Action) (e : MqttEngine T) :
    Ends (hostFallback error action e) (fun r _ => ∀ id, r ≠ .ok (.packetId (some id))) := by
  cases action <;> exact .stay fun _ h => (by cases h)

/-- An identifier that a call answers with was free. -/
theorem call_free (c : Call T) (e : MqttEngine T) :
    Ends (call B c e) (fun r _ => ∀ id, r = .ok (.packetId (some id)) → e.ledger.Free id) := by
  cases c with
  | timed now action => exact timedCall_free now action e
  | host now action =>
    refine Reaches.read_bind (.attempt_bind (timedCall_free (max now e.now) action e) ?_)
    rintro (error | reply) e' h
    · exact (hostFallback_free error action e').weaken fun r _ hr id hid => absurd hid (hr id)
    · exact .stay h
  | nextPacketId =>
    refine .bind (nextPacketId_sim (B := B) (P := .free) e).ends (fun id e' h => .stay ?_)
      fun _ _ _ _ h => (by cases h)
    rintro i ⟨⟩
    exact h.2 id rfl
  | setParseLevel level => exact .stay fun _ h => (by cases h)
  | setReconnect enabled => exact .stay fun _ h => (by cases h)
  | resetReconnectState => exact .stay fun _ h => (by cases h)
  | takeStreamRetransmissions => exact .stay fun _ h => (by cases h)
  | trySetParseLevel level =>
    exact .ask_bind (fun _ _ => .stay fun _ h => (by cases h)) fun _ _ => .stay fun _ h => (by cases h)
  | _ =>
    refine .bind (Reaches.ends_any _) (fun _ _ _ => .stay ?_) fun _ _ _ _ h => (by cases h)
    rintro _ ⟨⟩

/-! ## The record of a new operation -/

theorem trace_step (h : Step strict P l l') (stored : Stored strict P l) :
    l.trace <:+ l'.trace := by
  have hone (o : Obs) : l.trace <:+ o :: l.trace := List.suffix_cons o l.trace
  have htwo (o o' : Obs) : l.trace <:+ o' :: o :: l.trace := (hone o).trans (List.suffix_cons _ _)
  cases h with
  | evict room full => exact (stored.not_full room full).elim
  | broken _ _ _ front unencodable => exact (stored.not_broken front unencodable).elim
  | stall _ _ _ _ possible => exact (stored.not_stalled possible).elim
  | accept id =>
    cases id with
    | none => exact hone _
    | some id => exact htwo _ _
  | requeue id =>
    cases id with
    | none => exact hone _
    | some id => exact htwo _ _
  | send priority item => cases item.packet.tracked <;> exact hone _
  | untracked => exact (htwo _ _).trans (List.suffix_cons _ _)
  | complete => exact (htwo _ _).trans (List.suffix_cons _ _)
  | refuse limit reserve settings news =>
    exact (List.suffix_append news l.trace).trans (List.suffix_cons _ _)
  | deliver => exact (htwo _ _).trans (List.suffix_cons _ _)
  | release => exact (htwo _ _).trans (List.suffix_cons _ _)
  | _ => first | exact List.suffix_rfl | exact hone _ | exact htwo _ _

theorem trace_steps (h : ReflTransGen (Step strict P) l l') (stored : Stored strict P l) :
    l.trace <:+ l'.trace :=
  (invariant_steps (I := fun l' => Stored strict P l' ∧ l.trace <:+ l'.trace)
    (fun _ _ hstep ih => ⟨stored_step hstep ih.1, ih.2.trans (trace_step hstep ih.1)⟩) h
    ⟨stored, List.suffix_rfl⟩).2

/-- Since `e`, an operation was accepted under the identifier. -/
def Begins (e : MqttEngine T) (id : UInt16) (e' : MqttEngine T) : Prop :=
  ∃ news, e'.trace = news ++ e.trace ∧ .accepted id ∈ news

theorem begins_of_suffix {e' : MqttEngine T} {id : UInt16} {news : List Obs}
    (h : news ++ e.trace <:+ e'.trace) (hid : .accepted id ∈ news) : Begins e id e' := by
  obtain ⟨more, hmore⟩ := h
  exact ⟨more ++ news, by rw [List.append_assoc, hmore], List.mem_append_right _ hid⟩

theorem admitPublication_begins {command : PublishCommand} {id : UInt16} {bytes : Bytes}
    {registration : Option (UInt16 × Topic)} {priority : UInt8} {version : UInt8}
    (stored : Stored B.strict .free e.ledger)
    (hpublishes : Publishes B.strict .free (publishPacket version command) (some id))
    (hregisters : e.Registers registration) (hfree : e.ledger.Free id)
    (hcount : e.priorityQueue.size < e.options.maxOutgoingPacketCount)
    (hcheck : e.publishCheck B (publishPacket version command) = .ok bytes) :
    Ends ((processQueueWithEncoding B (if e.priorityQueue.size = 0 then some bytes else none) :
        Eff _ ε _) (e.admitPublication (some id) registration priority
          (publishPacket version command) bytes.length)) (fun _ e' => Begins e id e') := by
  -- The alias is registered first: that changes nothing the checks have looked at.
  set e₁ := e.registerAlias registration with he₁
  have hsame : e.admitPublication (some id) registration priority (publishPacket version command)
      bytes.length = e₁.admitPublication (some id) none priority (publishPacket version command)
        bytes.length := by
    cases registration <;> rfl
  have hstored : Stored B.strict .free e₁.ledger := by
    cases registration with
    | none => exact stored
    | some registration =>
      exact invariant_steps (fun _ _ => stored_step) (registerAlias_steps trivial hregisters) stored
  have hbelow : e₁.priorityQueue.size < e₁.priorityQueue.capacity := by
    rw [show e₁.priorityQueue.capacity = e₁.options.maxOutgoingPacketCount from hstored.capacity]
    cases registration <;> exact hcount
  have hchecked : e₁.publishCheck B (publishPacket version command) = .ok bytes := by
    cases registration <;> exact hcheck
  have hstep := admitPlain_step priority hpublishes
    (fun i hi => by cases hi; cases registration <;> exact hfree) (Nat.zero_le _)
    (by cases registration <;> exact hcount) hchecked hbelow
  have hsize : e₁.priorityQueue.size = e.priorityQueue.size := by cases registration <;> rfl
  rw [hsame, ← hsize]
  refine (processQueueWithEncoding_sim (P := .free) _
    (ahead_admitPublication hbelow (publishCheck_ok hcheck).1)).trail.weaken fun _ e' h => ?_
  have hgrows := trace_steps h.2 (stored_step hstep hstored)
  obtain ⟨news, hnews, hmem⟩ : ∃ news, (e₁.admitPublication (some id) none priority
      (publishPacket version command) bytes.length).trace = news ++ e.trace ∧ .accepted id ∈ news := by
    cases registration <;> exact ⟨[_, .accepted id], rfl, List.mem_cons_of_mem _ List.mem_cons_self⟩
  have hsuffix : news ++ e.trace <:+ e'.trace := hnews ▸ hgrows
  exact begins_of_suffix hsuffix hmem

theorem publishInner_begins (stored : Stored B.strict .free e.ledger) (command : PublishCommand) :
    Ends (publishInner B command e) (fun r e' => ∀ id, r = .ok (some id) → Begins e id e') := by
  unfold publishInner
  refine .bind (Q := fun _ e' => e' = e) (.onlyWhen (fun _ => .stay rfl) fun _ => .stay rfl) ?_
    fun _ _ _ _ h => (by cases h)
  rintro _ e rfl
  refine .ask_bind ?_ fun _ _ => .stay fun _ h => (by cases h)
  rintro ⟨checked, registration⟩ hchecked
  obtain ⟨⟨topic, rfl⟩, htitle, hregisters⟩ := validatePublish_ok hchecked
  refine .ask_bind (fun _ hroom => ?_) fun _ _ => .stay fun _ h => (by cases h)
  have hcount : e.priorityQueue.size < e.options.maxOutgoingPacketCount :=
    Nat.not_le.mp (rejectIf_eq_ok.mp hroom)
  refine .bind (assignId_sim (B := B) (P := .free) _ e).ends ?_ fun _ _ _ _ h => (by cases h)
  rintro ⟨named, id⟩ e₁ ⟨hsame, hassigned⟩
  obtain ⟨hfree, hidentified, hid, pid, rfl, -⟩ := hassigned _ _ rfl
  rw [← hsame.ledger] at hfree
  have hledger := hsame.ledger
  obtain ⟨session, -, rfl⟩ := hsame
  refine Reaches.read_bind (.lift_bind (fun bytes hcheck => ?_) fun _ _ =>
    .stay fun _ h => (by cases h))
  refine Reaches.update_bind ?_
  cases id with
  | none =>
    refine .bind (Reaches.ends_any _) (fun _ _ _ => .stay ?_) fun _ _ _ _ h => (by cases h)
    rintro _ ⟨⟩
  | some id =>
    have hpublishes : Publishes B.strict .free _ (some id) := publishes_publishPacket
      (publishCheck_ok hcheck).1 htitle hid hidentified (.inl trivial) (.inl trivial)
    refine .bind (admitPublication_begins (hledger ▸ stored) hpublishes hregisters
      (hfree id rfl) hcount hcheck) (fun _ e' h => .stay ?_) fun _ _ _ _ h => (by cases h)
    rintro _ ⟨⟩
    exact h

theorem operate_begins {kind : OperationKind} {id : UInt16} {packet : MqttPacket} :
    Ends (operate B kind id packet e) (fun r e' => ∀ i, r = .ok i → Begins e i e') := by
  rcases enqueuePacketInner_run (B := B) .command packet e with
    ⟨bytes, -, hrun⟩ | ⟨error, -, hrun⟩
  · show Ends (((enqueuePacketInner B .command packet : Eff _ MqttClientError _) >>= _) e) _
    rw [Eff.bind_of_ok hrun]
    rcases trackEncoded_run id packet 1 none (e.appendOutgoing .command packet bytes) with
      ⟨-, error, hrun⟩ | ⟨inflight, -, -, hrun⟩
    · rw [Eff.bind_of_error hrun]
      exact .stay fun _ h => (by cases h)
    · rw [Eff.bind_of_ok hrun]
      refine Reaches.update_bind (.bind (startDeadline_sim (B := B) (P := .free) _ _ _).ends ?_
        fun _ _ _ _ h => (by cases h))
      rintro _ _ ⟨deadlines, rfl⟩
      refine .stay ?_
      rintro _ ⟨⟩
      exact ⟨[.accepted id, .appended .command packet], rfl, List.mem_cons_self⟩
  · show Ends (((enqueuePacketInner B .command packet : Eff _ MqttClientError _) >>= _) e) _
    rw [Eff.bind_of_error hrun]
    exact .stay fun _ h => (by cases h)

theorem request_begins {requested : Option UInt16} {kind : OperationKind}
    (packet : UInt8 → UInt16 → MqttPacket) (e : MqttEngine T) :
    Ends ((do
        let pid ← candidateId requested
        let e ← Eff.read
        operate B kind pid (packet e.mqttVersion pid)) e)
      (fun r e' => ∀ i, r = .ok i → Begins e i e') := by
  refine .bind (candidateId_sim (B := B) (P := .free) requested e).ends ?_
    fun _ _ _ _ h => (by cases h)
  rintro id e₁ ⟨⟨session, -, rfl⟩, -⟩
  exact Reaches.read_bind operate_begins

theorem subscribeInner_begins (command : SubscribeCommand) :
    Ends (subscribeInner B command e) (fun r e' => ∀ i, r = .ok i → Begins e i e') := by
  unfold subscribeInner
  refine .ask_bind (fun _ _ => ?_) fun _ _ => .stay fun _ h => (by cases h)
  refine .bind (requireFullParser_sim (B := B) (P := .free) e).ends ?_ fun _ _ _ _ h => (by cases h)
  rintro _ e rfl
  refine .ask_bind (fun _ _ => ?_) fun _ _ => .stay fun _ h => (by cases h)
  exact request_begins (subscribePacket · · command) e

theorem unsubscribeInner_begins (command : UnsubscribeCommand) :
    Ends (unsubscribeInner B command e) (fun r e' => ∀ i, r = .ok i → Begins e i e') := by
  unfold unsubscribeInner
  refine .ask_bind (fun _ _ => ?_) fun _ _ => .stay fun _ h => (by cases h)
  refine .bind (requireFullParser_sim (B := B) (P := .free) e).ends ?_ fun _ _ _ _ h => (by cases h)
  rintro _ e rfl
  exact request_begins (unsubscribePacket · · command) e

theorem perform_begins (stored : Stored B.strict .free e.ledger) (now : T) (action : Action) :
    Ends (perform B now action e) (fun r e' => ∀ id, r = .ok (.packetId (some id)) →
      Begins e id e') := by
  cases action with
  | publish command =>
    refine .bind (publishInner_begins stored command) (fun id e' h => .stay ?_)
      fun _ _ _ _ h => (by cases h)
    rintro i ⟨⟩
    exact h i rfl
  | subscribe command =>
    refine .bind (subscribeInner_begins command) (fun id e' h => .stay ?_)
      fun _ _ _ _ h => (by cases h)
    rintro i ⟨⟩
    exact h id rfl
  | unsubscribe command =>
    refine .bind (unsubscribeInner_begins command) (fun id e' h => .stay ?_)
      fun _ _ _ _ h => (by cases h)
    rintro i ⟨⟩
    exact h id rfl
  | _ =>
    refine .bind (Reaches.ends_any _) (fun _ _ _ => .stay ?_) fun _ _ _ _ h => (by cases h)
    rintro _ ⟨⟩

/-- An operation that a call accepts is recorded. -/
theorem timedCall_begins (stored : Stored B.strict .free e.ledger) (now : T) (action : Action) :
    Ends (timedCall B now action e) (fun r e' => ∀ id, r = .ok (.packetId (some id)) →
      Begins e id e') := by
  refine .bind (Q := fun _ e' => Stored B.strict .free e'.ledger ∧ e'.trace = e.trace) ?_ ?_
    fun _ _ _ _ h => (by cases h)
  · exact .ask_bind (fun _ _ => .stay ⟨{ stored with }, rfl⟩) fun _ _ => .stay ⟨stored, rfl⟩
  · rintro _ e' ⟨hstored, htrace⟩
    refine (perform_begins hstored now action).weaken fun r e'' h id hid => ?_
    obtain ⟨news, hnews, hmem⟩ := h id hid
    exact ⟨news, htrace ▸ hnews, hmem⟩

theorem hostCall_begins (stored : Stored B.strict .free e.ledger) (now : T) (action : Action) :
    Ends (hostCall B now action e) (fun r e' => ∀ id, r = .ok (.packetId (some id)) →
      Begins e id e') := by
  refine Reaches.read_bind (.attempt_bind (timedCall_begins stored (max now e.now) action) ?_)
  rintro (error | reply) e' h
  · exact (hostFallback_free error action e').weaken fun r _ hr id hid => absurd hid (hr id)
  · exact .stay h

/-! ## Runs -/

/-- With a session, what is reserved is what waits somewhere, each identifier in one place, and
a new operation gets an identifier that no other has. -/
theorem identifiers_owned (hnew : tryNewAt options created = .ok start)
    (hsessions : options.sessionless = false) (run : Run B (Orderly false) start e) :
    e.Owns ∧ ∀ (c : Call T) (id : UInt16) (e' : MqttEngine T),
      call B c e = .done (.ok (.packetId (some id))) e' → id ≠ 0 ∧ ¬ e.InUse id := by
  rw [← hsessions] at run
  have hsound := run.sound hnew
  have hkeeps : e.options.sessionless = false :=
    (congrArg Limits.sessionless hsound.limits).trans hsessions
  have howns := owns_of_owned hsound.owned hkeeps
  refine ⟨howns, fun c id e' hcall => ?_⟩
  have hfree := (call_free c e).result hcall id rfl
  exact ⟨hfree.1, fun huse => hfree.2.1 ((howns.reserved id).mpr huse)⟩

/-- A publication of QoS 1 and a subscription wait for their acknowledgements. -/
def busy : MqttEngine Timestamp := follow (.ordered true) (newAt {} 0)
  [.timed 0 .connect, .timed 0 (.handleIncoming [0x20, 3, 0, 0, 0]),
    .timed 0 (.publish ⟨"t", [1], 1, false, false, none, [], 0⟩),
    .timed 0 (.subscribe ⟨none, [⟨"t", 1, false, false, 0⟩], []⟩)]

theorem busy_run (sessionless : Bool) : Run (.ordered true) (Orderly sessionless) (newAt {} 0) busy := by
  cases sessionless <;> exact Run.start.follow (by decide +kernel)

theorem identifiers_owned_busy :
    let c : Call Timestamp := .timed 0 (.publish ⟨"t", [1], 1, false, false, none, [], 0⟩)
    busy.Owns ∧ (call (.ordered true) c busy).value = some (.packetId (some 3)) ∧
      ¬ busy.InUse 3 := by
  obtain ⟨howns, hfree⟩ := identifiers_owned tryNewAt_default rfl (busy_run false)
  intro c
  have hvalue : (call (.ordered true) c busy).value = some (.packetId (some 3)) := by decide +kernel
  exact ⟨howns, hvalue, (hfree c 3 _ (Outcome.eq_done_of_value hvalue)).2⟩

/-- Each operation has one outcome: what is reserved are the operations under way, a terminal
event ends one of them, and a call that answers with an identifier has started one. -/
theorem one_outcome (hnew : tryNewAt options created = .ok start)
    (run : Run B (Orderly options.sessionless) start e) :
    (∀ id, id ∈ e.state.reserved ↔ underway id e.trace = true) ∧ OneOutcome e.trace ∧
    ∀ (now : T) (action : Action) (id : UInt16) (e' : MqttEngine T),
      call B (.timed now action) e = .done (.ok (.packetId (some id))) e' ∨
        call B (.host now action) e = .done (.ok (.packetId (some id))) e' → Begins e id e' := by
  have hsound := run.sound hnew
  have hstored : Stored B.strict .free e.ledger := hsound.stored.under fun _ => trivial
  refine ⟨hsound.history.reserved, hsound.history.outcome, ?_⟩
  rintro now action id e' (hcall | hcall)
  · exact (timedCall_begins hstored now action).result hcall id rfl
  · exact (hostCall_begins hstored now action).result hcall id rfl

theorem one_outcome_busy :
    let c : Call Timestamp := .timed 0 (.publish ⟨"t", [1], 1, false, false, none, [], 0⟩)
    OneOutcome busy.trace ∧ (call (.ordered true) c busy).value = some (.packetId (some 3)) ∧
      Begins busy 3 (busy.after (.ordered true) c) := by
  obtain ⟨-, houtcome, hbegins⟩ := one_outcome tryNewAt_default (busy_run _)
  intro c
  have hvalue : (call (.ordered true) c busy).value = some (.packetId (some 3)) := by decide +kernel
  refine ⟨houtcome, hvalue, ?_⟩
  rw [after_eq]
  exact hbegins 0 _ 3 _ (.inl (Outcome.eq_done_of_value hvalue))

/-- The identifier of the operation that a record ends. -/
def ending : Obs → Option UInt16
  | .event ev => ev.settles
  | _ => none

/-- Two QoS 0 publications with the identifier of a QoS 1 publication that is in flight. The
broker does not support retained messages, and the queue rejects both. -/
theorem tagged_publications_end_another :
    let e := follow (.ordered true) (newAt {} (0 : Timestamp))
      [.timed 0 (.publish ⟨"t", [1], 1, false, false, some 1, [], 9⟩),
        .timed 0 (.publish ⟨"t", [1], 0, true, false, some 1, [], 5⟩),
        .timed 0 (.publish ⟨"t", [1], 0, true, false, some 1, [], 5⟩),
        .timed 0 .connect, .timed 0 (.handleIncoming [0x20, 5, 0, 0, 2, 0x25, 0])]
    Run (.ordered true) (fun _ c => c.isMigrate = false) (newAt {} 0) e ∧
    e.isConnected = true ∧ .appended (.queue 9 1) (.publish5 ⟨"t", 1, false, false, some 1, [1], []⟩) ∈
      e.trace ∧ e.inflightQueue.snapshotForReconnect = [] ∧
    e.trace.count (.accepted 1) = 1 ∧ e.trace.filterMap ending = [1, 1] := by
  refine ⟨Run.start.follow ?_, ?_⟩ <;> decide +kernel

/-- Without a session, a handshake that is lost leaves the exchange 1 listed; the next CONNACK
ends the operation that has been queued under its identifier since. -/
theorem stale_exchange_ends_another :
    let options : MqttClientOptions := { sessionless := true }
    let e := follow (.ordered true) (newAt options (0 : Timestamp))
      [.timed 0 .connect, .timed 0 (.handleIncoming [0x20, 3, 0, 0, 0]),
        .timed 0 (.publish ⟨"t", [1], 1, false, false, some 1, [], 0⟩), .timed 0 (.disconnect 0 []),
        .timed 0 .connect, .timed 0 .handleConnectionLost,
        .timed 0 (.publish ⟨"t", [1], 1, false, false, some 1, [], 0⟩),
        .timed 0 .connect, .timed 0 (.handleIncoming [0x20, 3, 0, 0, 0]),
        .timed 0 (.handleIncoming [0x40, 2, 0, 1])]
    Run (.ordered true) (fun _ c => c.untagged = true) (newAt options 0) e ∧
    e.trace.count (.accepted 1) = 2 ∧ e.trace.filterMap ending = [1, 1, 1] := by
  refine ⟨Run.start.follow ?_, ?_⟩ <;> decide +kernel

/-- No assertion of the engine about its own state fails. -/
theorem assertions_hold (hnew : tryNewAt options created = .ok start)
    (run : Run B (Orderly options.sessionless) start e) :
    ∀ site ∈ e.panicked, site.internal = false := (run.sound hnew).standing

theorem assertions_hold_busy :
    busy.isConnected = true ∧ ∀ site ∈ busy.panicked, site.internal = false := by
  exact ⟨by decide +kernel, assertions_hold tryNewAt_default (busy_run _)⟩

/-- The identifier 1 is freed by a QoS 0 publication while a queued publication holds it, and
given to another one; the second of them finds the first in flight. -/
theorem tagged_publication_stops :
    let options : MqttClientOptions := { receiveMaximum := 2 }
    let e := follow (.ordered true) (newAt options (0 : Timestamp))
      [.timed 0 (.publish ⟨"t", [1], 1, false, false, some 2, [], 9⟩),
        .timed 0 (.publish ⟨"t", [1], 1, false, false, some 3, [], 9⟩),
        .timed 0 (.publish ⟨"t", [1], 0, true, false, some 1, [], 5⟩),
        .timed 0 (.publish ⟨"t", [1], 1, false, false, some 1, [], 1⟩),
        .timed 0 .connect, .timed 0 (.handleIncoming [0x20, 5, 0, 0, 2, 0x25, 0]),
        .timed 0 (.publish ⟨"t", [1], 1, false, false, some 1, [], 1⟩),
        .timed 0 (.handleIncoming [0x40, 2, 0, 2]), .timed 0 (.handleIncoming [0x40, 2, 0, 3])]
    (tryNewAt options (0 : Timestamp)).isOk = true ∧
    Run (.ordered true) (fun _ c => c.isMigrate = false) (newAt options 0) e ∧
    e.panicked = some .reservedPacketId := by
  refine ⟨by decide +kernel, Run.start.follow ?_, ?_⟩ <;> decide +kernel

/-! ## The search for an identifier -/

/-- The identifier is free and all those between the counter and it are taken, the identifiers
1 to 65535 being a cycle. -/
def NextFree (taken : UInt16 → Bool) (counter id : UInt16) : Prop :=
  id ≠ 0 ∧ taken id = false ∧ ∃ k < 65535, id.toNat = (counter.toNat + k) % 65535 + 1 ∧
    ∀ j < k, ∀ other : UInt16, other.toNat = (counter.toNat + j) % 65535 + 1 → taken other = true

theorem nextPacketId_run {session : ClientSession} (h : e.session = some session) :
    ∃ e', nextPacketId e = .done ((searchId e.inUse 65535 session).1.elim
      (.error .packetIdExhausted) .ok) e' := by
  unfold nextPacketId
  rw [Eff.read_bind, h]
  dsimp only
  rw [Eff.update_bind]
  cases (searchId e.inUse 65535 session).1 <;> exact ⟨_, rfl⟩

/-- The search answers the next free identifier, unless all of them are taken. -/
theorem nextPacketId_complete {session : ClientSession} (h : e.session = some session) :
    ((∃ id, id ≠ 0 ∧ id ∉ e.state.reserved ∧ e.inflightQueue.contains id = false) →
      ∃ id e', nextPacketId e = .done (.ok id) e' ∧ NextFree e.inUse session.packetIdCounter id) ∧
    ((∃ e', nextPacketId e = .done (.error .packetIdExhausted) e') ↔
      ∀ id, id ≠ 0 → id ∈ e.state.reserved ∨ e.inflightQueue.contains id = true) := by
  have htaken : ∀ id, e.inUse id = true ↔
      id ∈ e.state.reserved ∨ e.inflightQueue.contains id = true := fun id => by
    rw [inUse, Bool.or_eq_true, decide_eq_true_eq]
  obtain ⟨e', hrun⟩ := nextPacketId_run h
  rw [hrun, searchId_eq]
  dsimp only
  cases hfound : (searchFree successor e.inUse 65535 session.packetIdCounter).1 with
  | some id =>
    obtain ⟨-, hfree, k, hk, rfl, hbefore⟩ := searchFree_some hfound
    have hzero : successor^[k + 1] session.packetIdCounter ≠ 0 := by
      rw [Function.iterate_succ_apply']
      exact successor_ne_zero _
    refine ⟨fun _ => ⟨_, _, rfl, hzero, hfree, k, hk, toNat_successor_iterate _ _, ?_⟩,
      fun hfails => ?_, fun hall => ?_⟩
    · intro j hj other hother
      rw [← toNat_successor_iterate] at hother
      rw [UInt16.toNat_inj.mp hother]
      exact hbefore j hj
    · obtain ⟨_, hfails⟩ := hfails
      cases hfails
    · cases hfree.symm.trans ((htaken _).mpr (hall _ hzero))
  | none =>
    have hall : ∀ id, id ≠ 0 → e.inUse id = true := by
      intro id hid
      obtain ⟨k, hk, rfl⟩ := exists_successor_iterate session.packetIdCounter hid
      exact searchFree_none hfound k hk
    refine ⟨fun hfree => ?_, fun _ id hid => (htaken id).mp (hall id hid), fun _ => ⟨_, rfl⟩⟩
    obtain ⟨id, hid, hreserved, hinflight⟩ := hfree
    rcases (htaken id).mp (hall id hid) with h | h
    · exact absurd h hreserved
    · cases hinflight.symm.trans h

/-- The counter of a restored session is at its end and the identifier 1 is taken. -/
theorem nextPacketId_complete_wrapped :
    let e : MqttEngine Timestamp :=
      { newAt {} 0 with session := some ⟨65535⟩, state.reserved := {1} }
    ∃ id e', nextPacketId e = .done (.ok id) e' ∧ NextFree e.inUse 65535 id := by
  intro e
  exact (nextPacketId_complete (e := e) rfl).1 ⟨2, by decide, by decide, rfl⟩

end MqttEngine

end FlowSdk
