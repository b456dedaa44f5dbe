/-
  FlowSdk.Client.Clock — the clock of the engine and the clock of the exchanges in flight.

  The queue of exchanges checks its own clock: a push or a retransmission must not be earlier
  than the last one, and the retransmission deadline must be representable. The engine checks
  the time of a call before, against its own clock and against the longest deadline it can be
  asked for, so the second check always passes.
-/
import FlowSdk.Client.Memory

namespace FlowSdk

open Machine Wire Ledger

variable {T : Type} [TimePoint T] {strict : Bool} {P : Permit} {l l' : Ledger T}

structure Clocked (l : Ledger T) : Prop where
  last : ∀ last ∈ l.lastUpdate, ¬ l.now < last
  range : ∀ d ∈ l.limits.horizon, (TimePoint.checkedAdd l.now d).isSome
  timed : l.timeout ∈ l.limits.horizon
  sent : l.sentAt ≤ l.now
  pinged : ∀ sentAt ∈ l.pingedAt, sentAt ≤ l.now

namespace Clocked

theorem clockOk (h : Clocked l) : InflightQueue.ClockOk l.lastUpdate l.version l.timeout l.now :=
  ⟨h.last, .inr (h.range _ h.timed)⟩

/-- An exchange is tracked or advanced now. -/
theorem touch (h : Clocked l) : Clocked { l with lastUpdate := some l.now } := by
  refine { h with last := ?_ }
  rintro _ ⟨⟩
  exact lt_irrefl l.now

/-- A packet is sent now. -/
theorem sending (h : Clocked l) : Clocked { l with sentAt := l.now } := { h with sent := le_refl _ }

/-- No PINGREQ waits for its answer. -/
theorem ponged (h : Clocked l) : Clocked { l with pingedAt := none } := { h with pinged := nofun }

/-- The clock moves forward, within the range of the deadlines. -/
theorem moved (h : Clocked l) {now : T} (monotone : ¬ now < l.now)
    (range : ∀ d ∈ l.limits.horizon, (TimePoint.checkedAdd now d).isSome) :
    Clocked { l with now := now } := by
  have hle := not_lt.mp monotone
  exact ⟨fun last hlast hbefore => h.last last hlast (lt_of_le_of_lt hle hbefore), range, h.timed,
    le_trans h.sent hle, fun sentAt hmem => le_trans (h.pinged sentAt hmem) hle⟩

theorem finish (h : Clocked l) (id : UInt16) (ev : MqttEvent) : Clocked (l.finish id ev) := { h with }

end Clocked

theorem clocked_blank {limits : Limits} {timeout : Nat} {now : T} (retry : Retry T) (trace : List Obs)
    (range : ∀ d ∈ limits.horizon, (TimePoint.checkedAdd now d).isSome)
    (timed : timeout ∈ limits.horizon) : Clocked (blank limits timeout retry now trace) :=
  ⟨nofun, range, timed, le_refl _, nofun⟩

theorem clocked_step (h : Step strict P l l') (stored : Stored strict P l) (ih : Clocked l) :
    Clocked l' := by
  cases h with
  | evict room full => exact (stored.not_full room full).elim
  | broken _ _ _ front unencodable => exact (stored.not_broken front unencodable).elim
  | clock now starts monotone range => exact ih.moved monotone range
  | append => exact { ih.sending with }
  | sent => exact ih.sending
  | ping => exact { ih with pinged := fun sentAt hmem => le_of_eq (Option.some.inj hmem).symm }
  | pong => exact ih.ponged
  | retimed clock => exact ih.touch
  | accept id => cases id <;> exact { ih with }
  | send priority item =>
    cases item.packet.tracked with
    | none => exact { ih.sending with }
    | some id => exact { ih.touch.sending with }
  | reject priority item rest id =>
    have hrest : Clocked (l.dequeue rest (item.packet.size strict)) := { ih with }
    exact hrest.finish id _
  | resend => exact { ih.touch.sending with }
  | untracked id packet rest bytes =>
    have hrest : Clocked ({ l with replay := rest }.append .replay packet bytes) :=
      { ih.sending with }
    exact hrest.finish id _
  | abort id packet rest =>
    have hrest : Clocked { l with replay := rest } := { ih with }
    exact hrest.finish id _
  | operate => exact { ih.touch with }
  | trackStream => exact { ih.touch with }
  | complete stream ack id packet ev =>
    have hrecord : Clocked (l.record (.completed ack)) := { ih with }
    exact hrecord.finish id ev
  | connect => exact { ih.sending with }
  | refuse => exact { ih.ponged with }
  | reset settled => exact { ih.ponged with }
  | close settled => exact { ih.ponged with }
  | disconnect => exact { ih.sending.ponged with }
  | expire id packet rest =>
    have hrest : Clocked { l with restoring := rest } := { ih with }
    exact hrest.finish id _
  | pubrec => exact { ih.touch with }
  | migrate limits timeout retry now received control replay migrates wide fits room saved sessions idle
      settled kept stages range timed =>
    exact { clocked_blank retry l.trace range timed with }
  | requeue id => cases id <;> exact { ih with }
  | _ => exact { ih with }

/-- Only a call moves the clock, and never back. -/
theorem now_step (h : Step strict P l l') (stored : Stored strict P l) (hmigrate : ¬ P.migrate) :
    l'.now = l.now ∨ P.starts ∧ l.now ≤ l'.now := by
  cases h with
  | evict room full => exact (stored.not_full room full).elim
  | broken _ _ _ front unencodable => exact (stored.not_broken front unencodable).elim
  | clock now starts monotone => exact .inr ⟨starts, not_lt.mp monotone⟩
  | accept id => cases id <;> exact .inl rfl
  | requeue id => cases id <;> exact .inl rfl
  | send priority item => cases item.packet.tracked <;> exact .inl rfl
  | migrate limits timeout retry now received control replay migrates => exact absurd migrates hmigrate
  | _ => exact .inl rfl

end FlowSdk
