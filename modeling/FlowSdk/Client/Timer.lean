/-
  FlowSdk.Client.Timer — the time of the next wake-up.

  `next_tick_at` computes the deadlines of the keep-alive anew, from the time of the last
  packet or of the outstanding PINGREQ, and can therefore overflow the clock like the code
  that sets a deadline.

  `LawfulTimePoint` is what the engine relies on in a clock: an earlier start and a shorter
  duration are representable when a later start and a longer duration are, and a duration has
  passed exactly when the time it ends at is reached.
-/
import FlowSdk.Client.Run

namespace FlowSdk

open Machine

variable {T : Type} [TimePoint T] {ε : Type}

class LawfulTimePoint (T : Type) [TimePoint T] : Prop where
  isSome_mono : ∀ {start later : T} {short long : Nat}, start ≤ later → short ≤ long →
    (TimePoint.checkedAdd later long).isSome → (TimePoint.checkedAdd start short).isSome
  elapsed : ∀ {start now deadline : T} {duration : Nat}, start ≤ now →
    TimePoint.checkedAdd start duration = some deadline →
    (duration ≤ TimePoint.saturatingDurationSince now start ↔ deadline ≤ now)

/-- A duration that starts later ends no earlier. -/
class OrderedTimePoint (T : Type) [TimePoint T] : Prop where
  checkedAdd_mono : ∀ {start later ended deadline : T} {duration : Nat}, start ≤ later →
    TimePoint.checkedAdd start duration = some ended →
    TimePoint.checkedAdd later duration = some deadline → ended ≤ deadline

theorem Timestamp.checkedAdd_eq_some {start deadline : Timestamp} {duration : Nat} :
    start.checkedAdd duration = some deadline ↔ start.val + duration = deadline.val := by
  unfold checkedAdd
  split
  next h =>
    rw [Option.some.injEq, Fin.ext_iff]
  next h =>
    have hover : start.val + duration ≠ deadline.val := fun hsum => h (hsum ▸ deadline.isLt)
    exact iff_of_false (by simp) hover

theorem Timestamp.isSome_checkedAdd {start : Timestamp} {duration : Nat} :
    (start.checkedAdd duration).isSome ↔ start.val + duration < 2 ^ 64 := by
  unfold checkedAdd
  split
  next h => exact iff_of_true rfl h
  next h => exact iff_of_false (by simp) h

instance : LawfulTimePoint Timestamp where
  isSome_mono {start later short long} hstart hshort hlong := by
    have hstart : start.val ≤ later.val := hstart
    have hlong := Timestamp.isSome_checkedAdd.mp hlong
    exact Timestamp.isSome_checkedAdd.mpr (by omega)
  elapsed {start now deadline duration} hstart hadd := by
    have hstart : start.val ≤ now.val := hstart
    have hsum := Timestamp.checkedAdd_eq_some.mp hadd
    show duration ≤ now.val - start.val ↔ deadline.val ≤ now.val
    omega

instance : OrderedTimePoint Timestamp where
  checkedAdd_mono {start later ended deadline duration} hstart hended hdeadline := by
    have hstart : start.val ≤ later.val := hstart
    have hended := Timestamp.checkedAdd_eq_some.mp hended
    have hdeadline := Timestamp.checkedAdd_eq_some.mp hdeadline
    show ended.val ≤ deadline.val
    omega

namespace MqttEngine

/-! ## The next wake-up -/

/-- The deadline of the outstanding PINGREQ, or the time of the next one. -/
def keepAliveAt (e : MqttEngine T) : Eff (MqttEngine T) ε (Option T) :=
  if e.state.keepAlive > 0 then
    match e.pingSentAt with
    | some sentAt => do
      let deadline ← deadlineFrom sentAt
        (fromSecs e.state.keepAlive.toNat * e.options.pingTimeoutMultiplier)
      return some deadline
    | none =>
      if e.options.autoKeepalive then do
        let deadline ← deadlineFrom e.lastPacketSent (fromSecs e.state.keepAlive.toNat)
        return some deadline
      else return none
  else return none

/-- The times at which operations expire. -/
def expiries (e : MqttEngine T) : List T := e.state.deadlines.entries.map (fun entry => entry.2.1)

/-- The earlier one of a time and the first retransmission. -/
def earliest (next resendAt : Option T) : Option T :=
  match resendAt with
  | some resendAt => if next.all (fun at_ => resendAt < at_) then some resendAt else next
  | none => next

/-- `next_tick_at`. -/
def nextTickAt : Eff (MqttEngine T) ε (Option T) := do
  let e ← Eff.read
  if ¬ e.isConnected then return (e.nextReconnectAt.toList ++ e.expiries).min?
  else do
    let next ← e.keepAliveAt
    return ((earliest next e.inflightQueue.nextExpiration).toList ++ e.expiries).min?

end MqttEngine

end FlowSdk
