/-
  FlowSdk.Machine.Effect — stateful code that can fail or panic, and how to reason about it.

  A function of type `Eff σ ε α` runs on a state `σ`. It returns a value, or fails with an
  error that the caller may handle, or panics; the state reached so far is kept in all
  three cases. Code that never fails is polymorphic in `ε`.

  The judgement `Reaches step view start o Q` says that an outcome `o` is explained by a run of
  a transition system: from `start` the relation `step` leads to the view of the final state,
  and a returned result satisfies `Q`. A panic has to be explained as well: the steps lead to
  the state it leaves behind. Whatever `step` preserves is then preserved by the code, however
  the code branches and loops.

  Main results:
    1. `Reaches.bind`, `Reaches.ask_bind`, `Reaches.attempt_bind`, ...   a rule for each construct
    2. `Reaches.forEach`     a loop that keeps an invariant
    3. `invariant_steps`     an invariant of the steps holds along a run of them
    4. `Eff.Keeps.bind`, ...   the part of the state that code leaves alone
    5. `Eff.Total.bind`, ...   code that cannot fail
-/
import Mathlib.Logic.Relation

namespace Machine

open Relation (ReflTransGen)

variable {σ ε ε' α β τ : Type}

/-! ## Effectful code -/

inductive Outcome (σ ε α : Type) where
  | done (result : Except ε α) (state : σ)
  | panic (state : σ)

/-- The state that is left behind. -/
def Outcome.state : Outcome σ ε α → σ
  | .done _ s => s
  | .panic s => s

/-- The value of code that succeeds. -/
def Outcome.value : Outcome σ ε α → Option α
  | .done (.ok a) _ => some a
  | _ => none

theorem Outcome.eq_done_of_value {o : Outcome σ ε α} {a : α} (h : o.value = some a) :
    o = .done (.ok a) o.state := by
  rcases o with ⟨_ | b, s⟩ | s
  · cases h
  · cases h
    rfl
  · cases h

def Eff (σ ε α : Type) := σ → Outcome σ ε α

namespace Eff

protected def pure (a : α) : Eff σ ε α := fun s => .done (.ok a) s

protected def bind (m : Eff σ ε α) (k : α → Eff σ ε β) : Eff σ ε β := fun s =>
  match m s with
  | .done (.ok a) s' => k a s'
  | .done (.error e) s' => .done (.error e) s'
  | .panic s' => .panic s'

instance : Monad (Eff σ ε) where
  pure := Eff.pure
  bind := Eff.bind

def read : Eff σ ε σ := fun s => .done (.ok s) s

def update (f : σ → σ) : Eff σ ε Unit := fun s => .done (.ok ()) (f s)

def fail (e : ε) : Eff σ ε α := fun s => .done (.error e) s

/-- A panic, after a last change of the state. -/
def halt (f : σ → σ) : Eff σ ε α := fun s => .panic (f s)

/-- Run fallible code and hand its result to the caller. -/
def attempt (m : Eff σ ε α) : Eff σ ε' (Except ε α) := fun s =>
  match m s with
  | .done r s' => .done (.ok r) s'
  | .panic s' => .panic s'

/-- A check of the state that does not change it. -/
def ask (f : σ → Except ε α) : Eff σ ε α := fun s => .done (f s) s

def lift (x : Except ε α) : Eff σ ε α := fun s => .done x s

def onlyWhen (c : Prop) [Decidable c] (m : Eff σ ε Unit) : Eff σ ε Unit :=
  if c then m else Eff.pure ()

/-- `for a in list { m(a) }`. -/
def forEach (m : α → Eff σ ε Unit) : List α → Eff σ ε Unit
  | [] => Eff.pure ()
  | a :: list => do
    m a
    forEach m list

/-! ### Running the constructs -/

section Run

variable {m : Eff σ ε α} {k : α → Eff σ ε β} {s s' : σ}

theorem bind_of_ok {a : α} (h : m s = .done (.ok a) s') : (m >>= k) s = k a s' := by
  show Eff.bind m k s = _
  rw [Eff.bind, h]

theorem bind_of_error {e : ε} (h : m s = .done (.error e) s') :
    (m >>= k) s = .done (.error e) s' := by
  show Eff.bind m k s = _
  rw [Eff.bind, h]

theorem bind_of_panic (h : m s = .panic s') : (m >>= k) s = .panic s' := by
  show Eff.bind m k s = _
  rw [Eff.bind, h]

@[simp] theorem pure_run (a : α) : (pure a : Eff σ ε α) s = .done (.ok a) s := rfl

@[simp] theorem read_run : (read : Eff σ ε σ) s = .done (.ok s) s := rfl

@[simp] theorem update_run (f : σ → σ) : (update f : Eff σ ε Unit) s = .done (.ok ()) (f s) := rfl

@[simp] theorem fail_run (e : ε) : (fail e : Eff σ ε α) s = .done (.error e) s := rfl

@[simp] theorem halt_run (f : σ → σ) : (halt f : Eff σ ε α) s = .panic (f s) := rfl

@[simp] theorem ask_run (f : σ → Except ε α) : ask f s = .done (f s) s := rfl

@[simp] theorem lift_run (x : Except ε α) : (lift x : Eff σ ε α) s = .done x s := rfl

@[simp] theorem read_bind (k : σ → Eff σ ε β) : (read >>= k) s = k s s := rfl

@[simp] theorem update_bind (f : σ → σ) (k : Unit → Eff σ ε β) :
    (update f >>= k) s = k () (f s) := rfl

@[simp] theorem pure_bind_run (a : α) : (pure a >>= k) s = k a s := rfl

@[simp] theorem fail_bind (e : ε) : (fail e >>= k) s = .done (.error e) s := rfl

@[simp] theorem halt_bind (f : σ → σ) : (halt f >>= k) s = .panic (f s) := rfl

theorem attempt_of_done {r : Except ε α} (h : m s = .done r s') :
    (attempt m : Eff σ ε' _) s = .done (.ok r) s' := by
  rw [attempt, h]

end Run

end Eff

/-! ## Code that leaves a part of the state alone -/

namespace Eff

/-- Whatever the outcome, `part` of the state is as before. -/
def Keeps (part : σ → τ) (m : Eff σ ε α) : Prop := ∀ s, part (m s).state = part s

namespace Keeps

variable {part : σ → τ} {m n : Eff σ ε α} {k : α → Eff σ ε β}

theorem pure (a : α) : Keeps part (pure a : Eff σ ε α) := fun _ => rfl

theorem read : Keeps part (read : Eff σ ε σ) := fun _ => rfl

theorem update {f : σ → σ} (h : ∀ s, part (f s) = part s) : Keeps part (update f : Eff σ ε Unit) := h

theorem halt {f : σ → σ} (h : ∀ s, part (f s) = part s) : Keeps part (halt f : Eff σ ε α) := h

theorem ask (f : σ → Except ε α) : Keeps part (ask f) := fun _ => rfl

theorem bind (hm : Keeps part m) (hk : ∀ a, Keeps part (k a)) : Keeps part (m >>= k) := by
  intro s
  have hs := hm s
  rcases hms : m s with ⟨_ | a, s'⟩ | s'
  · rw [hms] at hs
    rw [bind_of_error hms]
    exact hs
  · rw [hms] at hs
    rw [bind_of_ok hms]
    exact (hk a s').trans hs
  · rw [hms] at hs
    rw [bind_of_panic hms]
    exact hs

theorem attempt (hm : Keeps part m) : Keeps part (attempt m : Eff σ ε' _) := by
  intro s
  have hs := hm s
  rw [Eff.attempt]
  rcases hms : m s with ⟨r, s'⟩ | s' <;> rw [hms] at hs <;> exact hs

theorem ite {c : Prop} [Decidable c] (hm : Keeps part m) (hn : Keeps part n) :
    Keeps part (if c then m else n) := by
  split
  · exact hm
  · exact hn

theorem onlyWhen {c : Prop} [Decidable c] {m : Eff σ ε Unit} (hm : Keeps part m) :
    Keeps part (onlyWhen c m) := ite hm (pure ())

theorem forEach {m : α → Eff σ ε Unit} (hm : ∀ a, Keeps part (m a)) :
    ∀ list : List α, Keeps part (forEach m list)
  | [] => pure ()
  | a :: list => bind (hm a) fun _ => forEach hm list

end Keeps

end Eff

/-! ## Code that cannot fail -/

namespace Eff

/-- Whatever state the code runs in, its result is not an error. -/
def Total (m : Eff σ ε α) : Prop := ∀ s e s', m s ≠ .done (.error e) s'

namespace Total

variable {m n : Eff σ ε α} {k : α → Eff σ ε β}

theorem pure (a : α) : Total (pure a : Eff σ ε α) := fun _ _ _ h => by cases h

theorem read : Total (read : Eff σ ε σ) := fun _ _ _ h => by cases h

theorem update (f : σ → σ) : Total (update f : Eff σ ε Unit) := fun _ _ _ h => by cases h

theorem halt (f : σ → σ) : Total (halt f : Eff σ ε α) := fun _ _ _ h => by cases h

theorem bind (hm : Total m) (hk : ∀ a, Total (k a)) : Total (m >>= k) := by
  intro s e s'
  rcases hms : m s with ⟨_ | a, s₁⟩ | s₁
  · exact absurd hms (hm s _ s₁)
  · rw [bind_of_ok hms]
    exact hk a s₁ e s'
  · rw [bind_of_panic hms]
    exact fun h => by cases h

theorem attempt (m : Eff σ ε α) : Total (attempt m : Eff σ ε' _) := by
  intro s e s'
  rw [Eff.attempt]
  rcases m s with ⟨r, s₁⟩ | s₁ <;> exact fun h => by cases h

theorem ite {c : Prop} [Decidable c] (hm : Total m) (hn : Total n) :
    Total (if c then m else n) := by
  split
  · exact hm
  · exact hn

theorem onlyWhen {c : Prop} [Decidable c] {m : Eff σ ε Unit} (hm : Total m) :
    Total (onlyWhen c m) := ite hm (pure ())

theorem forEach {m : α → Eff σ ε Unit} (hm : ∀ a, Total (m a)) :
    ∀ list : List α, Total (forEach m list)
  | [] => pure ()
  | a :: list => bind (hm a) fun _ => forEach hm list

end Total

end Eff

/-! ## Explaining an outcome by a run -/

section Reaches

variable {step : τ → τ → Prop} {view : σ → τ}

/-- From `start` the steps lead to the view of the state that the outcome leaves behind,
and the result, if there is one, satisfies `Q`. -/
def Reaches (step : τ → τ → Prop) (view : σ → τ) (start : τ) (o : Outcome σ ε α)
    (Q : Except ε α → σ → Prop) : Prop :=
  match o with
  | .done r s => ReflTransGen step start (view s) ∧ Q r s
  | .panic s => ReflTransGen step start (view s)

/-- Whatever the code does, its result satisfies `Q`. -/
abbrev Ends (o : Outcome σ ε α) (Q : Except ε α → σ → Prop) : Prop :=
  Reaches (fun _ _ : Unit => False) (fun _ => ()) () o Q

/-- Nothing is asked of a result. -/
def Any : Except ε α → σ → Prop := fun _ _ => True

variable {start : τ} {s : σ} {m : Eff σ ε α} {k : α → Eff σ ε β}
  {Q : Except ε α → σ → Prop} {Q' : Except ε β → σ → Prop}

namespace Reaches

theorem done {r : Except ε α} (h : ReflTransGen step start (view s)) (hQ : Q r s) :
    Reaches step view start (.done r s) Q := ⟨h, hQ⟩

theorem stay {r : Except ε α} (hQ : Q r s) : Reaches step view (view s) (.done r s) Q :=
  ⟨.refl, hQ⟩

/-- Steps made before the code runs. -/
theorem after {mid : τ} {o : Outcome σ ε α} (h : ReflTransGen step start mid)
    (ho : Reaches step view mid o Q) : Reaches step view start o Q := by
  cases o with
  | done r s => exact ⟨h.trans ho.1, ho.2⟩
  | panic s => exact h.trans ho

theorem step_first {mid : τ} {o : Outcome σ ε α} (h : step start mid)
    (ho : Reaches step view mid o Q) : Reaches step view start o Q :=
  after (.single h) ho

theorem weaken {o : Outcome σ ε α} {Q₂ : Except ε α → σ → Prop} (h : Reaches step view start o Q)
    (hQ : ∀ r s, Q r s → Q₂ r s) : Reaches step view start o Q₂ := by
  cases o with
  | done r s => exact ⟨h.1, hQ r s h.2⟩
  | panic s => exact h

theorem any {o : Outcome σ ε α} (h : Reaches step view start o Q) :
    Reaches step view start o Any := h.weaken fun _ _ _ => trivial

/-- The steps that explain an outcome. -/
theorem steps {o : Outcome σ ε α} (h : Reaches step view start o Q) :
    ReflTransGen step start (view o.state) := by
  cases o with
  | done r s => exact h.1
  | panic s => exact h

/-- The result of an outcome that steps explain. -/
theorem ends {o : Outcome σ ε α} (h : Reaches step view start o Q) : Ends o Q := by
  cases o with
  | done r s => exact ⟨.refl, h.2⟩
  | panic s => exact .refl

/-- Nothing is asked of the result. -/
theorem ends_any (o : Outcome σ ε α) : Ends o Any := by
  cases o with
  | done r s => exact ⟨.refl, trivial⟩
  | panic s => exact .refl

/-- The result of an outcome with the steps that lead to it. -/
theorem trail {o : Outcome σ ε α} (h : Reaches step view start o Q) :
    Ends o (fun r s => Q r s ∧ ReflTransGen step start (view s)) := by
  cases o with
  | done r s => exact ⟨.refl, h.2, h.1⟩
  | panic s => exact .refl

theorem result {o : Outcome σ ε α} {r : Except ε α} (h : Reaches step view start o Q)
    (hr : o = .done r s) : Q r s := by
  subst hr
  exact h.2

/-- What the code leaves alone is as before. -/
theorem keeps {part : σ → β} (h : Reaches step view start (m s) Q) (hm : Eff.Keeps part m) :
    Reaches step view start (m s) (fun r s' => Q r s' ∧ part s' = part s) := by
  have hs := hm s
  rcases hms : m s with ⟨r, s'⟩ | s'
  · rw [hms] at h hs
    exact ⟨h.1, h.2, hs⟩
  · rw [hms] at h
    exact h

/-! ### Rules -/

/-- Sequencing: the first part reaches some state, the rest starts there. -/
theorem bind (hm : Reaches step view start (m s) Q)
    (hk : ∀ a s', Q (.ok a) s' → Reaches step view (view s') (k a s') Q')
    (he : ∀ e s', Q (.error e) s' → Q' (.error e) s') :
    Reaches step view start ((m >>= k) s) Q' := by
  rcases hms : m s with ⟨_ | a, s'⟩ | s'
  · rw [Eff.bind_of_error hms]
    rw [hms] at hm
    exact ⟨hm.1, he _ _ hm.2⟩
  · rw [Eff.bind_of_ok hms]
    rw [hms] at hm
    exact after hm.1 (hk a s' hm.2)
  · rw [Eff.bind_of_panic hms]
    rw [hms] at hm
    exact hm

/-- Sequencing behind code that cannot fail. -/
theorem bind_total (hm : Reaches step view start (m s) Q) (total : Eff.Total m)
    (hk : ∀ a s', Q (.ok a) s' → Reaches step view (view s') (k a s') Q') :
    Reaches step view start ((m >>= k) s) Q' := by
  rcases hms : m s with ⟨error | a, s'⟩ | s'
  · exact absurd hms (total s error s')
  · rw [Eff.bind_of_ok hms]
    rw [hms] at hm
    exact after hm.1 (hk a s' hm.2)
  · rw [Eff.bind_of_panic hms]
    rw [hms] at hm
    exact hm

theorem read_bind {k : σ → Eff σ ε β} (h : Reaches step view start (k s s) Q') :
    Reaches step view start ((Eff.read >>= k) s) Q' := h

theorem update_bind {f : σ → σ} {k : Unit → Eff σ ε β}
    (h : Reaches step view start (k () (f s)) Q') :
    Reaches step view start ((Eff.update f >>= k) s) Q' := h

/-- A check: the rest runs if it passes. -/
theorem ask_bind {f : σ → Except ε α} (h : ∀ a, f s = .ok a → Reaches step view start (k a s) Q')
    (he : ∀ e, f s = .error e → Reaches step view start (.done (.error e) s) Q') :
    Reaches step view start ((Eff.ask f >>= k) s) Q' := by
  cases hf : f s with
  | error e =>
    rw [Eff.bind_of_error (show Eff.ask f s = .done (.error e) s by rw [Eff.ask_run, hf])]
    exact he e hf
  | ok a =>
    rw [Eff.bind_of_ok (show Eff.ask f s = .done (.ok a) s by rw [Eff.ask_run, hf])]
    exact h a hf

theorem lift_bind {x : Except ε α} (h : ∀ a, x = .ok a → Reaches step view start (k a s) Q')
    (he : ∀ e, x = .error e → Reaches step view start (.done (.error e) s) Q') :
    Reaches step view start ((Eff.lift x >>= k) s) Q' :=
  ask_bind (f := fun _ => x) h he

/-- The rest handles both results. -/
theorem attempt_bind {k : Except ε α → Eff σ ε' β} {Q' : Except ε' β → σ → Prop}
    (hm : Reaches step view start (m s) Q)
    (hk : ∀ r s', Q r s' → Reaches step view (view s') (k r s') Q') :
    Reaches step view start ((Eff.attempt m >>= k) s) Q' := by
  rcases hms : m s with ⟨r, s'⟩ | s'
  · rw [Eff.bind_of_ok (Eff.attempt_of_done hms)]
    rw [hms] at hm
    exact after hm.1 (hk r s' hm.2)
  · rw [Eff.bind_of_panic (show Eff.attempt m s = .panic s' by rw [Eff.attempt, hms])]
    rw [hms] at hm
    exact hm

theorem ite {c : Prop} [Decidable c] {m n : Eff σ ε α}
    (hm : c → Reaches step view start (m s) Q) (hn : ¬ c → Reaches step view start (n s) Q) :
    Reaches step view start ((if c then m else n) s) Q := by
  by_cases h : c
  · rw [if_pos h]
    exact hm h
  · rw [if_neg h]
    exact hn h

theorem onlyWhen {c : Prop} [Decidable c] {m : Eff σ ε Unit} {Q : Except ε Unit → σ → Prop}
    (hm : c → Reaches step view start (m s) Q)
    (hn : ¬ c → Reaches step view start (.done (.ok ()) s) Q) :
    Reaches step view start (Eff.onlyWhen c m s) Q := by
  rw [Eff.onlyWhen]
  exact ite hm hn

/-- A loop over a list keeps an invariant that each turn keeps. -/
theorem forEach {m : α → Eff σ ε Unit} {I : σ → Prop} :
    ∀ (list : List α) (s : σ), I s →
      (∀ a ∈ list, ∀ s, I s → Reaches step view (view s) (m a s) (fun _ s' => I s')) →
      Reaches step view (view s) (Eff.forEach m list s) (fun _ s' => I s')
  | [], s, hI, _ => stay hI
  | a :: list, s, hI, hm => by
    rw [Eff.forEach]
    refine bind (hm a List.mem_cons_self s hI) (fun _ s' hI' => ?_) (fun _ _ h => h)
    exact forEach list s' hI' (fun b hb => hm b (List.mem_cons_of_mem a hb))

end Reaches

/-- An invariant of the steps holds along every run of them. -/
theorem invariant_steps {I : τ → Prop} {a b : τ} (hI : ∀ a b, step a b → I a → I b)
    (h : ReflTransGen step a b) (ha : I a) : I b := by
  induction h with
  | refl => exact ha
  | tail _ hstep ih => exact hI _ _ hstep ih

end Reaches

end Machine
