/-
  FlowSdk.Machine.Window — a window of unacknowledged messages between two parties.

  The sender may have `size` messages unacknowledged: a quota goes down with each message it
  sends and up, to `size` at most, with each acknowledgement that reaches it. The receiver
  counts the messages it has not acknowledged yet. Messages and acknowledgements take time, so
  the two counts differ; the receiver nevertheless never counts more than `size`
  (`Window.room`), provided that each acknowledgement is for a message it has counted.

  A history lists what happened at either end, the latest first.
-/
import Mathlib.Order.Basic

namespace Machine

namespace Window

inductive Act
  /-- the sender sends a message -/
  | send
  /-- the receiver counts a message that has arrived -/
  | receive
  /-- the receiver sends an acknowledgement -/
  | acknowledge
  /-- an acknowledgement reaches the sender -/
  | credit
deriving DecidableEq, Repr

/-- What happens at the receiver. -/
def Act.atReceiver : Act → Bool
  | .receive | .acknowledge => true
  | .send | .credit => false

structure State where
  quota : Nat
  /-- the messages under way -/
  messages : Nat
  /-- the count of the receiver -/
  counted : Nat
  /-- the acknowledgements under way -/
  acks : Nat
deriving DecidableEq, Repr

/-- The sender sends within its quota; nothing arrives that was not sent. The count of the
receiver stops at zero. -/
def step (size : Nat) (w : State) : Act → Option State
  | .send => if 0 < w.quota then
      some { w with quota := w.quota - 1, messages := w.messages + 1 } else none
  | .receive => if 0 < w.messages then
      some { w with messages := w.messages - 1, counted := w.counted + 1 } else none
  | .acknowledge => some { w with counted := w.counted - 1, acks := w.acks + 1 }
  | .credit => if 0 < w.acks then
      some { w with quota := min size (w.quota + 1), acks := w.acks - 1 } else none

def run (size : Nat) : List Act → Option State
  | [] => some ⟨size, 0, 0, 0⟩
  | act :: past => (run size past).bind (step size · act)

/-! ## The receiver -/

/-- The count of the receiver. -/
def counted : List Act → Nat
  | [] => 0
  | .receive :: past => counted past + 1
  | .acknowledge :: past => counted past - 1
  | .send :: past | .credit :: past => counted past

/-- Each acknowledgement was for a message that was counted. -/
def Matched : List Act → Prop
  | [] => True
  | .acknowledge :: past => 0 < counted past ∧ Matched past
  | .send :: past | .receive :: past | .credit :: past => Matched past

instance decidableMatched : (acts : List Act) → Decidable (Matched acts)
  | [] => inferInstanceAs (Decidable True)
  | .acknowledge :: past =>
    have := decidableMatched past
    inferInstanceAs (Decidable (_ ∧ _))
  | .send :: past => decidableMatched past
  | .receive :: past => decidableMatched past
  | .credit :: past => decidableMatched past

/-- The receiver does not know what happens at the sender. -/
theorem counted_filter (acts : List Act) : counted (acts.filter Act.atReceiver) = counted acts := by
  induction acts with
  | nil => rfl
  | cons act past ih =>
    cases act with
    | send => exact ih
    | receive => exact congrArg (· + 1) ih
    | acknowledge => exact congrArg (· - 1) ih
    | credit => exact ih

theorem matched_filter (acts : List Act) : Matched (acts.filter Act.atReceiver) ↔ Matched acts := by
  induction acts with
  | nil => rfl
  | cons act past ih =>
    cases act with
    | send => exact ih
    | receive => exact ih
    | acknowledge => exact and_congr (by rw [counted_filter]) ih
    | credit => exact ih

/-! ## The window -/

variable {size : Nat} {acts : List Act} {w : State}

theorem run_cons {act : Act} (h : run size (act :: acts) = some w) :
    ∃ before, run size acts = some before ∧ step size before act = some w :=
  Option.bind_eq_some_iff.mp h

theorem counted_run (h : run size acts = some w) : w.counted = counted acts := by
  induction acts generalizing w with
  | nil =>
    cases h
    rfl
  | cons act past ih =>
    obtain ⟨before, hbefore, hstep⟩ := run_cons h
    have hcounted := ih hbefore
    cases act <;> simp only [step, Option.ite_none_right_eq_some, Option.some.injEq] at hstep
    case send => exact hstep.2 ▸ hcounted
    case receive => exact hstep.2 ▸ congrArg (· + 1) hcounted
    case acknowledge => exact hstep ▸ congrArg (· - 1) hcounted
    case credit => exact hstep.2 ▸ hcounted

/-- What was sent and not credited is under way, counted or acknowledged. -/
theorem conserved (h : run size acts = some w) (hmatched : Matched acts) :
    w.quota + w.messages + w.counted + w.acks ≤ size := by
  induction acts generalizing w with
  | nil =>
    cases h
    exact Nat.le_refl size
  | cons act past ih =>
    obtain ⟨before, hbefore, hstep⟩ := run_cons h
    cases act <;> simp only [step, Option.ite_none_right_eq_some, Option.some.injEq] at hstep
    case send =>
      obtain ⟨hquota, rfl⟩ := hstep
      have := ih hbefore hmatched
      dsimp only
      omega
    case receive =>
      obtain ⟨harrives, rfl⟩ := hstep
      have := ih hbefore hmatched
      dsimp only
      omega
    case acknowledge =>
      -- An acknowledgement without a message would be one more under way for nothing.
      have hcounted : 0 < before.counted := (counted_run hbefore).symm ▸ hmatched.1
      have := ih hbefore hmatched.2
      subst hstep
      dsimp only
      omega
    case credit =>
      obtain ⟨harrives, rfl⟩ := hstep
      have := ih hbefore hmatched
      dsimp only
      omega

/-- A message that arrives finds room. -/
theorem room (h : run size acts = some w) (hmatched : Matched acts) (harrives : 0 < w.messages) :
    counted acts < size := by
  have hsum := conserved h hmatched
  have hcounted := counted_run h
  omega

end Window

end Machine
