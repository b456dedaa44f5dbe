/-
  FlowSdk.Wire.Outcome — straight-line code over `Except`.

  A fallible function is a `do` block of checks and reads. The lemmas evaluate such a
  block forwards, when the outcome of each line is known, and invert it backwards, when
  the block is known to have succeeded.
-/
import Mathlib.Data.List.Basic

namespace Wire

variable {ε α β : Type}

/-- `if c { return Err(e) }`. -/
def rejectIf (c : Prop) [Decidable c] (e : ε) : Except ε Unit :=
  if c then .error e else .ok ()

/-- A check that only some builds make. -/
def onlyIf (b : Bool) (check : Except ε Unit) : Except ε Unit :=
  if b then check else .ok ()

/-- `for a in list { check(a)?; }`. -/
def forEach (check : α → Except ε Unit) : List α → Except ε Unit
  | [] => .ok ()
  | a :: list => do
    check a
    forEach check list

/-! ## Forwards -/

@[simp] theorem ok_bind (a : α) (f : α → Except ε β) : ((Except.ok a : Except ε α) >>= f) = f a :=
  rfl

@[simp] theorem error_bind (e : ε) (f : α → Except ε β) :
    ((Except.error e : Except ε α) >>= f) = .error e := rfl

@[simp] theorem pure_eq_ok (a : α) : (pure a : Except ε α) = .ok a := rfl


@[simp] theorem rejectIf_neg {c : Prop} [Decidable c] (e : ε) (h : ¬ c) :
    rejectIf c e = .ok () := if_neg h

@[simp] theorem rejectIf_pos {c : Prop} [Decidable c] (e : ε) (h : c) :
    rejectIf c e = .error e := if_pos h

@[simp] theorem onlyIf_false (check : Except ε Unit) : onlyIf false check = .ok () := rfl

@[simp] theorem onlyIf_true (check : Except ε Unit) : onlyIf true check = check := rfl

/-! ## Backwards -/

/-- Two continuations that agree on what was answered. -/
theorem bind_congr_ok {x : Except ε α} {f g : α → Except ε β} (h : ∀ a, x = .ok a → f a = g a) :
    (x >>= f) = (x >>= g) := by
  cases x with
  | error e => rfl
  | ok a => exact h a rfl

theorem bind_eq_ok {x : Except ε α} {f : α → Except ε β} {b : β} :
    (x >>= f) = .ok b ↔ ∃ a, x = .ok a ∧ f a = .ok b := by
  cases x with
  | error e => simp
  | ok a => simp

theorem rejectIf_eq_ok {c : Prop} [Decidable c] {e : ε} {u : Unit} :
    rejectIf c e = .ok u ↔ ¬ c := by
  unfold rejectIf
  split <;> simp_all

theorem onlyIf_eq_ok {b : Bool} {check : Except ε Unit} {u : Unit} :
    onlyIf b check = .ok u ↔ (b = true → check = .ok ()) := by
  cases b <;> simp

/-- A check followed by the rest of the block. -/
theorem check_bind_eq_ok {x : Except ε Unit} {f : Unit → Except ε β} {b : β} :
    (x >>= f) = .ok b ↔ x = .ok () ∧ f () = .ok b := by
  cases x with
  | error e => simp
  | ok u => simp

theorem forEach_eq_ok {check : α → Except ε Unit} {list : List α} {u : Unit} :
    forEach check list = .ok u ↔ ∀ a ∈ list, check a = .ok () := by
  induction list with
  | nil => simp [forEach]
  | cons a list ih => simp [forEach, check_bind_eq_ok, ih]

/-! ## What a block answers -/

/-- If the block answers, its answer satisfies `Q`. -/
def Yields (x : Except ε α) (Q : α → Prop) : Prop := ∀ a, x = .ok a → Q a

namespace Yields

variable {Q : β → Prop}

theorem ok {b : β} (h : Q b) : Yields (.ok b : Except ε β) Q := by
  intro b' hb
  cases hb
  exact h

theorem bind {x : Except ε α} {f : α → Except ε β} (h : ∀ a, x = .ok a → Yields (f a) Q) :
    Yields (x >>= f) Q := by
  intro b hb
  obtain ⟨a, ha, hb⟩ := bind_eq_ok.mp hb
  exact h a ha b hb

theorem rejectIf {c : Prop} [Decidable c] {e : ε} {f : Unit → Except ε β}
    (h : ¬ c → Yields (f ()) Q) : Yields (Wire.rejectIf c e >>= f) Q :=
  bind fun _ hc => h (rejectIf_eq_ok.mp hc)

end Yields

end Wire
