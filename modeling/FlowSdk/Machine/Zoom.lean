/-
  FlowSdk.Machine.Zoom — code that runs on a part of a larger state.

  A component keeps its code when it becomes a field of another one: the code runs on the field
  and leaves the rest of the record alone. The rules carry what is known of the component over
  to the record.
-/
import FlowSdk.Machine.Uphold

namespace Machine

variable {σ τ ε α : Type}

namespace Eff

/-- Run code of the component on the record. -/
def zoom (get : σ → τ) (put : τ → σ → σ) (m : Eff τ ε α) : Eff σ ε α := fun s =>
  match m (get s) with
  | .done r t => .done r (put t s)
  | .panic t => .panic (put t s)

variable {get : σ → τ} {put : τ → σ → σ} {m : Eff τ ε α}

theorem zoom_state (s : σ) : (zoom get put m s).state = put (m (get s)).state s := by
  rw [zoom]
  cases m (get s) <;> rfl

/-- An invariant of the record that the component's code cannot break. -/
theorem Upholds.zoom {I : σ → Prop} (h : ∀ s, I s → I (put (m (get s)).state s)) :
    Upholds I (zoom get put m) := by
  intro s hs
  rw [zoom_state]
  exact h s hs

/-- An invariant of the record that does not depend on the component. -/
theorem Respects.zoom {I : σ → Prop} (h : ∀ s t, I s → I (put t s)) : Respects I (zoom get put m) :=
  fun _ hs => (Upholds.zoom fun _ hs => h _ _ hs).ends hs

theorem Total.zoom (h : Total m) : Total (zoom get put m) := by
  intro s e s' hrun
  rw [Eff.zoom] at hrun
  rcases hms : m (get s) with ⟨r, t⟩ | t
  · rw [hms] at hrun
    cases hrun
    exact h _ _ _ hms
  · rw [hms] at hrun
    cases hrun

theorem Ends.zoom {s : σ} {Q : Except ε α → τ → Prop} {R : Except ε α → σ → Prop}
    (hm : Ends (m (get s)) Q) (hput : ∀ r t, Q r t → R r (put t s)) :
    Ends (zoom get put m s) R := by
  rw [Eff.zoom]
  rcases hms : m (get s) with ⟨r, t⟩ | t
  · rw [hms] at hm
    exact .stay (hput r t hm.2)
  · exact .refl

end Eff

end Machine
