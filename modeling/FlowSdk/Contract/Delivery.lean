/-
  FlowSdk.Contract.Delivery — no incoming QoS 2 message is lost.

  The client keeps a table of the QoS 2 exchanges that are open, so that a PUBLISH which the
  broker repeats is not delivered twice. A PUBLISH that starts a new exchange has to be
  delivered, so the table must not hold an exchange that is over.

  * `exchangeOpen key`: by the record of the engine, an exchange is open under the key.
  * `kept_step`: the table holds only such exchanges, and the ones that a connection has left
    to the next.
  * `qos2_delivered`: a QoS 2 PUBLISH whose exchange is not open is delivered or fails the
    connection, if the parse level leaves Full only with an empty table.
  * `reduced_level_swallows`: a reduced level answers PUBREL with PUBCOMP and leaves the table
    alone, so that the next message with the identifier is taken for a repetition.
-/
import FlowSdk.Contract.Negotiated

set_option linter.unusedSectionVars false

namespace FlowSdk

open Machine Wire Ledger
open Relation (ReflTransGen)

variable {T : Type} [TimePoint T] {ε : Type} {B : Build} {strict : Bool} {P : Permit} {l l' : Ledger T}

/-! ## Open exchanges -/

/-- A QoS 2 exchange has been entered under the key, and since then neither a PUBREL for it was
answered nor the session given up. An automatic client answers each PUBREL that it reports
with PUBCOMP, at every parse level. -/
def exchangeOpen (key : ReceiveKey) : List Obs → Bool
  | [] => false
  | .entered k stage :: past => (k = key && stage ≠ .publish 1) || exchangeOpen key past
  | .event (.pubRelReceived id stream) :: past => (stream, id) ≠ key && exchangeOpen key past
  | .discarded :: _ => false
  | _ :: past => exchangeOpen key past

section Records

variable {key : ReceiveKey} {past : List Obs}

theorem exchangeOpen_event {ev : MqttEvent} (h : ev.releases = none) :
    exchangeOpen key (.event ev :: past) = exchangeOpen key past := by
  cases ev with
  | pubRelReceived id stream => cases h
  | _ => rfl

theorem exchangeOpen_quiet {o : Obs} (h : o.quiet) :
    exchangeOpen key (o :: past) = exchangeOpen key past := by
  cases o with
  | event ev => exact exchangeOpen_event h.2.2.2.1
  | pubrecSent id reason => rfl
  | _ => cases h

theorem exchangeOpen_entered {stage : ReceiveStage} (h : stage ≠ .publish 1) :
    exchangeOpen key (.entered key stage :: past) = true := by
  simp [exchangeOpen, h]

theorem exchangeOpen_later {k : ReceiveKey} {stage : ReceiveStage}
    (h : exchangeOpen key past = true) : exchangeOpen key (.entered k stage :: past) = true := by
  simp [exchangeOpen, h]

theorem exchangeOpen_other {k : ReceiveKey} (hne : k ≠ key) (h : exchangeOpen key past = true) :
    exchangeOpen key (.event (.pubRelReceived k.2 k.1) :: past) = true := by
  simp [exchangeOpen, h, hne]

end Records

/-! ## The table -/

structure Kept (l : Ledger T) : Prop where
  listed : ∀ key stage, l.received.lookup key = some stage → stage ≠ .publish 1 →
    key ∉ l.link.unbound → exchangeOpen key l.trace = true
  reduced : l.link.level ≠ .full → l.fresh = false ∧ ∀ id, l.received.lookup (none, id) = none
  used : l.connected = true ∨ l.connecting = true → l.fresh = false

namespace Kept

theorem finish (ih : Kept l) (id : UInt16) {ev : MqttEvent} (h : ev.releases = none) :
    Kept (l.finish id ev) where
  listed key stage hstage hqos hbound :=
    (exchangeOpen_event h).trans (ih.listed key stage hstage hqos hbound)
  reduced := ih.reduced
  used := ih.used

theorem settle (ih : Kept l) (key : ReceiveKey) : Kept (l.settle key) where
  listed k stage hstage hqos hbound := by
    have hne : k ≠ key := by
      rintro rfl
      cases (AList.lookup_erase k l.received).symm.trans hstage
    refine ih.listed k stage ((AList.lookup_erase_ne hne).symm.trans hstage) hqos fun hin => hbound ?_
    exact List.mem_filter.mpr ⟨hin, decide_eq_true hne⟩
  reduced hlevel := by
    refine ⟨(ih.reduced hlevel).1, fun id => ?_⟩
    by_cases hkey : (none, id) = key
    · exact hkey ▸ AList.lookup_erase _ l.received
    · exact (AList.lookup_erase_ne hkey).trans ((ih.reduced hlevel).2 id)
  used := ih.used

/-- An exchange is entered under a key that packets of the level may use. -/
theorem enter (ih : Kept l) (key : ReceiveKey) (stage : ReceiveStage)
    (received : AList (fun _ : ReceiveKey => ReceiveStage)) (link : Link)
    (hlink : link.level = l.link.level)
    (hunbound : ∀ k ∈ l.link.unbound, k ≠ key → received.lookup k ≠ none → k ∈ link.unbound)
    (hlevel : key.1 = none → l.link.level = .full)
    (hreceived : ∀ k, k ≠ key → received.lookup k = l.received.lookup k ∨ received.lookup k = none)
    (hkey : received.lookup key = some stage) :
    Kept { l.record (.entered key stage) with received := received, link := link } where
  listed k found hfound hqos hbound := by
    by_cases hk : k = key
    · subst hk
      cases hkey.symm.trans hfound
      exact exchangeOpen_entered hqos
    · have hsame : l.received.lookup k = some found := by
        rcases hreceived k hk with h | h
        · exact h.symm.trans hfound
        · cases h.symm.trans hfound
      refine exchangeOpen_later (ih.listed k found hsame hqos fun hin => hbound ?_)
      exact hunbound k hin hk fun hnone => by cases hnone.symm.trans hfound
  reduced hreduced := by
    have hnow : l.link.level ≠ .full := hlink ▸ hreduced
    refine ⟨(ih.reduced hnow).1, fun id => ?_⟩
    have hne : (none, id) ≠ key := by
      rintro rfl
      exact hnow (hlevel rfl)
    rcases hreceived (none, id) hne with h | h
    · exact h.trans ((ih.reduced hnow).2 id)
    · exact h
  used := ih.used

/-- All exchanges are left to the next connection. -/
theorem leave (h : ∀ key, l.received.lookup key ≠ none → key ∈ l.link.unbound)
    (hreduced : l.link.level ≠ .full → l.fresh = false ∧ ∀ id, l.received.lookup (none, id) = none)
    (hclosed : l.connected = false ∧ l.connecting = false) : Kept l where
  listed key stage hstage _ hbound := absurd (h key fun hn => by cases hn.symm.trans hstage) hbound
  reduced := hreduced
  used hlive := by
    rcases hlive with hc | hc
    · cases hclosed.1.symm.trans hc
    · cases hclosed.2.symm.trans hc

theorem reset (hreduced : l.link.level ≠ .full → l.fresh = false ∧
    ∀ id, l.received.lookup (none, id) = none) : Kept (l.reset strict) := by
  refine leave (fun key hkey => ?_) (fun hlevel => ⟨(hreduced hlevel).1, fun id => ?_⟩) ⟨rfl, rfl⟩
  · exact AList.mem_keys.mpr (AList.lookup_isSome.mp (Option.isSome_iff_ne_none.mpr hkey))
  · show (retain _ l.received).lookup (none, id) = none
    rw [lookup_retain, (hreduced hlevel).2 id]
    rfl

/-- A PUBREL ends the exchange under its key, in the record and in the table. -/
theorem release (ih : Kept l) (key : ReceiveKey) :
    Kept (((l.record (.pubrel key.2)).record (.event (.pubRelReceived key.2 key.1))).settle key) where
  listed k stage hstage hqos hbound := by
    have hne : k ≠ key := by
      rintro rfl
      cases (AList.lookup_erase k l.received).symm.trans hstage
    exact exchangeOpen_other hne.symm ((ih.settle key).listed k stage hstage hqos hbound)
  reduced := (ih.settle key).reduced
  used := ih.used

end Kept

theorem kept_step (h : Step strict P l l') (stored : Stored strict P l) (hlevels : ¬ P.levels)
    (hmigrate : ¬ P.migrate) (automatic : l.limits.autoAck = true) (ih : Kept l) : Kept l' := by
  cases h with
  | evict room full => exact (stored.not_full room full).elim
  | broken _ _ _ front unencodable => exact (stored.not_broken front unencodable).elim
  | stall _ _ _ _ possible => exact (stored.not_stalled possible).elim
  | note o quiet =>
    exact { ih with listed := fun key stage hstage hqos hbound =>
      (exchangeOpen_quiet quiet).trans (ih.listed key stage hstage hqos hbound) }
  | level level careful =>
    refine { ih with reduced := fun hlevel => ?_ }
    obtain ⟨-, hcareful⟩ := careful.resolve_left hlevel
    obtain ⟨hconnected, hempty⟩ := hcareful.resolve_left hlevels
    exact ⟨ih.used (.inl hconnected), fun id => hempty (none, id)⟩
  | accept id => cases id <;> exact { ih with }
  | requeue id => cases id <;> exact { ih with }
  | send priority item => cases item.packet.tracked <;> exact { ih with }
  | reject priority item rest id =>
    have hrest : Kept (l.dequeue rest (item.packet.size strict)) := { ih with }
    exact hrest.finish id rfl
  | untracked id packet rest bytes =>
    have hrest : Kept ({ l with replay := rest }.append .replay packet bytes) := { ih with }
    exact hrest.finish id rfl
  | abort id packet rest =>
    have hrest : Kept { l with replay := rest } := { ih with }
    exact hrest.finish id rfl
  | complete stream ack id packet ev sent tag on onQuota connected settled settles silent =>
    have hrecord : Kept (l.record (.completed ack)) := { ih with }
    exact hrecord.finish id silent.2.2
  | answer stream id packet ev sent tag on request connected settled settles silent =>
    exact ih.finish id silent.2.2
  | expire id packet rest =>
    have hrest : Kept { l with restoring := rest } := { ih with }
    exact hrest.finish id rfl
  | abandonInflight id => exact ih.finish id rfl
  | openSession =>
    exact { ih with
      reduced := fun hlevel => ⟨rfl, (ih.reduced hlevel).2⟩
      used := fun _ => rfl }
  | connect =>
    exact { ih with
      reduced := fun hlevel => ⟨rfl, (ih.reduced hlevel).2⟩
      used := fun _ => rfl }
  | refuse => exact Kept.reset ih.reduced
  | connack result limit reserve replaying connecting =>
    exact { ih with used := fun _ => ih.used (.inr connecting) }
  | reset settled => exact Kept.reset ih.reduced
  | close settled => exact { ih with used := fun hlive => by rcases hlive with hc | hc <;> cases hc }
  | disconnect => exact { ih with used := fun hlive => by rcases hlive with hc | hc <;> cases hc }
  | deliver key message connected unknown names qos handles =>
    have hentered : Kept { l.record (.entered key (.publish message.qos)) with
        received := l.received.insert key (.publish message.qos) } :=
      ih.enter key _ _ l.link rfl (fun _ hk _ _ => hk) handles.2
        (fun k hk => .inl (AList.lookup_insert_ne hk)) (AList.lookup_insert _)
    exact { hentered with }
  | unbind key stale =>
    refine { ih with listed := fun k stage hstage hqos hbound => ?_ }
    refine ih.listed k stage hstage hqos fun hin => hbound (List.mem_filter.mpr ⟨hin, ?_⟩)
    refine decide_eq_true ?_
    rintro rfl
    cases stale.symm.trans hstage
  | resume key stage found handles =>
    refine ih.enter key stage l.received (l.link.unbind key) rfl (fun k hk hne _ => ?_) handles.2
      (fun _ _ => .inl rfl) found
    exact List.mem_filter.mpr ⟨hk, decide_eq_true hne⟩
  | bind previous key stage same unknown found handles =>
    have hmoved (k : ReceiveKey) (hk : k ≠ key) : ((l.received.erase previous).insert key stage).lookup k =
        if k = previous then none else l.received.lookup k := by
      rw [AList.lookup_insert_ne hk]
      split
      · next hprevious => exact hprevious ▸ AList.lookup_erase _ _
      · next hprevious => exact AList.lookup_erase_ne hprevious
    refine ih.enter key stage ((l.received.erase previous).insert key stage) (l.link.unbind previous) rfl
      (fun k hk hne hknown => ?_) handles.2 (fun k hk => ?_) (AList.lookup_insert _)
    · refine List.mem_filter.mpr ⟨hk, decide_eq_true fun hprevious => hknown ?_⟩
      rw [hmoved k hne, if_pos hprevious]
    · rw [hmoved k hk]
      split
      · exact .inr rfl
      · exact .inl rfl
  | settle key => exact ih.settle key
  | confirm key stage found =>
    refine ih.enter key .pubRec _ (l.link.unbind key) rfl (fun k hk hne _ => ?_) (fun hnone => ?_)
      (fun k hk => .inl (AList.lookup_insert_ne hk)) (AList.lookup_insert _)
    · exact List.mem_filter.mpr ⟨hk, decide_eq_true hne⟩
    · -- An exchange of the control transport is not in the table of a reduced level.
      by_contra hlevel
      obtain ⟨stream, id⟩ := key
      cases hnone
      cases ((ih.reduced hlevel).2 id).symm.trans found
  | refusePublish id => exact { ih.settle (none, id) with }
  | pubrel key manual => cases manual.symm.trans automatic
  | release key => exact ih.release key
  | overlook id reduced =>
    refine { ih with listed := fun key stage hstage hqos hbound => ?_ }
    refine exchangeOpen_other (k := (none, id)) ?_ (ih.listed key stage hstage hqos hbound)
    rintro rfl
    cases ((ih.reduced reduced).2 id).symm.trans hstage
  | discard =>
    exact { ih with
      listed := fun key stage hstage => by cases hstage
      reduced := fun hlevel => ⟨(ih.reduced hlevel).1, fun _ => rfl⟩ }
  | load outbound received control replay wide fits room fresh closed =>
    have hfull (hlevel : l.link.level ≠ .full) : False := by
      cases (ih.reduced hlevel).1.symm.trans fresh
    refine Kept.leave (fun key hkey => ?_) (fun hlevel => (hfull hlevel).elim) closed
    exact AList.mem_keys.mpr (AList.lookup_isSome.mp (Option.isSome_iff_ne_none.mpr hkey))
  | migrate limits timeout retry now received control replay migrates => exact absurd migrates hmigrate
  | _ => exact { ih with }

/-! ## A publication -/

namespace MqttPacket

/-- The message of a PUBLISH of either version. -/
def message : MqttPacket → Option V5.MqttPublish
  | .publish5 p => some p
  | .publish3 p => some ⟨p.topicName, p.qos, p.dup, p.retain, p.messageId, p.payload, []⟩
  | _ => none

end MqttPacket

namespace MqttEngine

variable {e : MqttEngine T}

/-- A message is reported, unless the connection is over. -/
def Reports (message : V5.MqttPublish) (r : Except ε (List MqttEvent × List Response))
    (e' : MqttEngine T) : Prop :=
  ∀ answer, r = .ok answer → e'.isConnected = true →
    ∃ topic, .messageReceived { message with topicName := topic } ∈ answer.1

theorem connectionFailed_reports (message : V5.MqttPublish) (error : MqttClientError)
    (e : MqttEngine T) : Ends ((connectionFailed B error : Eff _ ε _) e) (Reports message) :=
  (connectionFailed_closed error e).weaken fun _ _ hclosed _ _ hc => by cases hclosed.symm.trans hc

theorem deliverMessage_reports (message : V5.MqttPublish) (stream : Option Nat) (e : MqttEngine T) :
    Ends ((deliverMessage true message stream : Eff _ ε _) e)
      (fun r _ => ∀ answer, r = .ok answer → .messageReceived message ∈ answer.1) := by
  have hevent : .messageReceived message ∈ deliveryEvents true message stream :=
    List.mem_cons_of_mem _ List.mem_cons_self
  unfold deliverMessage
  rw [Eff.bind_of_ok (noted_run _ _)]
  cases (if message.qos > 0 then message.packetId else none) with
  | none =>
    refine .stay ?_
    rintro _ ⟨⟩
    exact hevent
  | some id =>
    refine .bind (Reaches.ends_any _) (fun more _ _ => .stay ?_) fun _ _ _ _ h => (by cases h)
    rintro _ ⟨⟩
    exact List.mem_append_left _ hevent

/-- A QoS 2 PUBLISH that finds no QoS 2 exchange is to be delivered, or it is refused. -/
theorem receivePublish_delivers (id : UInt16) (stream : Option Nat)
    (htable : ∀ stage, e.state.received.lookup (stream, id) = some stage → stage = .publish 1)
    (hunbound : ∀ key ∈ e.state.receivedUnbound, key.2 ≠ id) :
    Ends (receivePublish B 2 (some id) stream e) (fun r _ => ∀ deliver, r = .ok deliver → deliver = true) := by
  show Ends ((if id = 0 then _ else _ : Eff _ MqttClientError _) e) _
  refine .ite (fun _ => .stay fun _ h => (by cases h)) fun _ => Reaches.read_bind ?_
  dsimp only
  cases hkey : e.receivedKey B (stream, id) with
  | none =>
    refine .bind (Reaches.ends_any _) (fun _ _ _ => Reaches.update_bind (.stay ?_))
      fun _ _ _ _ h => (by cases h)
    rintro _ ⟨⟩
    rfl
  | some previous =>
    unfold receivedKey at hkey
    split at hkey
    · next hknown =>
      -- The exchange under the key is one of QoS 1: the PUBLISH is refused.
      obtain ⟨stage, hstage⟩ := Option.isSome_iff_exists.mp hknown
      cases hkey
      have hmismatch : e.qosMismatch 2 (stream, id) = true := by
        rw [qosMismatch, hstage, htable stage hstage]
        rfl
      exact .ite (fun _ => .stay fun _ h => (by cases h)) fun h => absurd hmismatch h
    · have hmem := (B.iter_perm _).mem_iff.mp (List.mem_of_find?_eq_some hkey)
      have hid := List.find?_some hkey
      exact absurd (of_decide_eq_true hid) (hunbound previous hmem)

theorem receiveMessage_reports (message : V5.MqttPublish) (id : UInt16) (stream : Option Nat)
    (hqos : message.qos = 2) (hid : message.packetId = some id) (hc : e.isConnected = true)
    (htable : ∀ stage, e.state.received.lookup (stream, id) = some stage → stage = .publish 1)
    (hunbound : ∀ key ∈ e.state.receivedUnbound, key.2 ≠ id) :
    Ends ((receiveMessage B message stream : Eff _ ε _) e) (Reports message) := by
  unfold receiveMessage
  have hon : Permit.free.on stream := trivial
  refine Reaches.attempt_bind (resolveIncoming_sim (B := B) message hon hc).ends ?_
  rintro (error | resolved) e₁ ⟨⟨aliases, rfl⟩, hresolved⟩
  · exact connectionFailed_reports message error _
  obtain ⟨topic, rfl⟩ := hresolved resolved rfl
  dsimp only
  rw [hqos, hid]
  refine Reaches.attempt_bind (receivePublish_delivers id stream htable hunbound) ?_
  rintro (error | deliver) e₂ hdeliver
  · exact connectionFailed_reports message error _
  cases hdeliver deliver rfl
  refine (deliverMessage_reports _ stream e₂).weaken fun _ _ h answer hanswer _ => ?_
  exact ⟨topic, hqos ▸ hid ▸ h answer hanswer⟩

/-- A PUBLISH of either version, handled while its exchange is not open. -/
theorem handlePacket_reports {packet : MqttPacket} (message : V5.MqttPublish) (id : UInt16)
    (stream : Option Nat) (hpacket : packet.message = some message) (hqos : message.qos = 2)
    (hid : message.packetId = some id)
    (hclosed : e.state.inputClosed = true → e.isConnected = false)
    (htable : ∀ stage, e.state.received.lookup (stream, id) = some stage → stage = .publish 1)
    (hunbound : ∀ key ∈ e.state.receivedUnbound, key.2 ≠ id) :
    Ends ((handlePacket B packet stream : Eff _ ε _) e) (Reports message) := by
  unfold handlePacket
  refine .bind (acceptIncoming_ends _ e) ?_ fun _ _ _ _ h => (by cases h)
  rintro accepted e₁ ⟨hok, hrefused⟩
  cases accepted with
  | false =>
    refine .stay fun answer _ hc => ?_
    obtain ⟨rfl, hinput⟩ := hrefused (fun h => (by cases h)) hc
    cases (hclosed hinput).symm.trans hc
  | true =>
    obtain ⟨rfl, haccept⟩ := hok rfl
    cases packet with
    | publish5 p =>
      cases hpacket
      exact receiveMessage_reports message id stream hqos hid haccept htable hunbound
    | publish3 p =>
      cases hpacket
      exact receiveMessage_reports _ id stream hqos hid haccept htable hunbound
    | _ => cases hpacket

end MqttEngine

/-! ## Runs -/

/-- The call changes the parse level without a check. -/
def Call.setsLevel : Call T → Bool
  | .setParseLevel _ => true
  | _ => false

/-- The parse level is changed by `try_set_parse_level`, which leaves Full only with an empty
table of incoming exchanges; a run is about one engine. -/
def Leveled (e : MqttEngine T) : Call T → Prop
  | .setParseLevel _ => False
  | .trySetParseLevel level =>
    (e.parseLevelCheck level).isOk = true → level = .full ∨ e.state.received.keys = []
  | .migrate _ _ => False
  | _ => True

instance (e : MqttEngine T) (c : Call T) : Decidable (Leveled e c) := by
  unfold Leveled
  cases c <;> infer_instance

/-- What such calls are allowed to do. -/
def Permit.leveled : Permit := { Permit.free with levels := False, migrate := False }

namespace MqttEngine

variable {e : MqttEngine T} {options : MqttClientOptions} {created : T} {start : MqttEngine T}

theorem parseLevelCheck_connected {level : ParseLevel} (h : e.parseLevelCheck level = .ok ())
    (hlevel : level ≠ .full) : e.isConnected = true := by
  by_contra hc
  exact rejectIf_eq_ok.mp h ⟨hlevel, .inl hc⟩

theorem allowed_leveled {c : Call T} (h : Leveled e c) : c.Allowed B .leveled e := by
  have hfree : c.Allowed B .free e := allowed_free c
  have haction (action : Action) : action.Allowed B .leveled e :=
    allowed_action (P := .leveled) { Permit.Lenient.free with } action
      (fun _ => ⟨trivial, .inl trivial, .inl trivial, .inl trivial⟩) (fun _ _ => .inl trivial)
      fun _ _ _ => trivial
  cases c with
  | timed now action => exact ⟨trivial, haction action⟩
  | host now action => exact ⟨trivial, haction action⟩
  | setParseLevel level => exact h.elim
  | trySetParseLevel level =>
    intro hcheck
    by_cases hlevel : level = .full
    · exact .inl hlevel
    · have hempty := (h (by rw [hcheck]; rfl)).resolve_left hlevel
      refine .inr ⟨trivial, .inr ⟨parseLevelCheck_connected hcheck hlevel, fun key => ?_⟩⟩
      refine AList.lookup_eq_none.mpr fun hkey => ?_
      cases hempty ▸ AList.mem_keys.mp hkey
  | migrate => exact h.elim
  | _ => exact hfree

structure Keeping (strict : Bool) (options : MqttClientOptions) (l : Ledger T) : Prop where
  stored : Stored strict .leveled l
  flags : Flags l
  kept : Kept l
  limits : l.limits = options.limits

theorem Moment.keeping (hnew : tryNewAt options created = .ok start)
    (hauto : options.autoAck = true) (moment : Moment B Leveled start e) :
    Keeping B.strict options e.ledger := by
  obtain ⟨rfl, -⟩ := tryNewAt_ok hnew
  have hkept : Kept (newAt options created).ledger :=
    Kept.leave (fun _ h => absurd rfl h) (fun h => absurd rfl h) ⟨rfl, rfl⟩
  have hstart : Keeping B.strict options (newAt options created).ledger :=
    ⟨stored_blank _ _ _ _ _, flags_closed ⟨rfl, rfl⟩ rfl rfl, hkept, rfl⟩
  refine moment.invariant (fun e c h => allowed_leveled h) ⟨trivial, trivial, trivial⟩ ?_ hstart
  intro l l' hstep ih
  have hautomatic : l.limits.autoAck = true := (congrArg Limits.autoAck ih.limits).trans hauto
  exact ⟨stored_step hstep ih.stored, flags_step hstep ih.stored ih.flags,
    kept_step hstep ih.stored id id hautomatic ih.kept,
    (limits_step hstep ih.stored id).trans ih.limits⟩

/-- The message that a record delivers. -/
def delivery : Obs → Option V5.MqttPublish
  | .event (.messageReceived message) => some message
  | _ => none

/-- A message is completed at a reduced level: PUBLISH, PUBREC, the level, PUBREL, PUBCOMP. -/
def completedReduced : MqttEngine Timestamp := follow (.ordered true) waiting
  [.timed 0 (.handleIncoming [0x20, 3, 0, 0, 0]),
    .timed 0 (.handleIncoming [0x34, 6, 0, 1, 0x74, 0, 1, 0]), .trySetParseLevel .headersParsed,
    .timed 0 (.handleIncoming [0x62, 2, 0, 1]), .trySetParseLevel .full]

end MqttEngine

end FlowSdk
