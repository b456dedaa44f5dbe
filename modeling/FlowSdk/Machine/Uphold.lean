/-
  FlowSdk.Machine.Uphold — invariants of the state of effectful code.

  Code upholds an invariant if it never leaves a state behind that breaks it: not when it
  returns, not when it fails and not when it panics. A value that was read from the state keeps
  what the invariant said about it, so the rule for reading hands that on to the code behind.

  Code respects an invariant if it leaves it true when it returns or fails. A panic may leave
  anything behind, so the invariant may be broken on the way and restored later.
-/
import FlowSdk.Machine.Effect

namespace Machine

variable {σ ε ε' α β : Type}

theorem ends_both {o : Outcome σ ε α} {Q Q' : Except ε α → σ → Prop} (h : Ends o Q) (h' : Ends o Q') :
    Ends o (fun r s => Q r s ∧ Q' r s) := by
  cases o with
  | done r s => exact .stay ⟨h.2, h'.2⟩
  | panic s => exact .refl

theorem bind_assoc {γ : Type} (m : Eff σ ε α) (k : α → Eff σ ε β) (k' : β → Eff σ ε γ) :
    m >>= k >>= k' = m >>= fun a => k a >>= k' := by
  funext s
  rcases hm : m s with ⟨error | a, s'⟩ | s'
  · rw [Eff.bind_of_error hm, Eff.bind_of_error (Eff.bind_of_error hm)]
  · rw [Eff.bind_of_ok hm]
    show Eff.bind (m >>= k) k' s = Eff.bind (k a) k' s'
    rw [Eff.bind, Eff.bind, Eff.bind_of_ok hm]
  · rw [Eff.bind_of_panic hm, Eff.bind_of_panic (Eff.bind_of_panic hm)]

/-- Two continuations that agree on everything the code can end with. -/
theorem ends_bind_congr {m : Eff σ ε α} {k k' : α → Eff σ ε β} {s : σ}
    {Q : Except ε α → σ → Prop} (h : Ends (m s) Q)
    (hk : ∀ a s', Q (.ok a) s' → k a s' = k' a s') : (m >>= k) s = (m >>= k') s := by
  rcases hm : m s with ⟨error | a, s'⟩ | s'
  · rw [Eff.bind_of_error hm, Eff.bind_of_error hm]
  · rw [hm] at h
    rw [Eff.bind_of_ok hm, Eff.bind_of_ok hm]
    exact hk a s' h.2
  · rw [Eff.bind_of_panic hm, Eff.bind_of_panic hm]

namespace Eff

/-- Started where the invariant holds, the code leaves it true, whatever the outcome. -/
def Upholds (I : σ → Prop) (m : Eff σ ε α) : Prop := ∀ s, I s → I (m s).state

namespace Upholds

variable {I : σ → Prop} {m n : Eff σ ε α} {k : α → Eff σ ε β}

theorem pure (a : α) : Upholds I (pure a : Eff σ ε α) := fun _ h => h

theorem fail (e : ε) : Upholds I (fail e : Eff σ ε α) := fun _ h => h

theorem ask (f : σ → Except ε α) : Upholds I (ask f) := fun _ h => h

theorem lift (x : Except ε α) : Upholds I (lift x : Eff σ ε α) := fun _ h => h

theorem update {f : σ → σ} (h : ∀ s, I s → I (f s)) : Upholds I (update f : Eff σ ε Unit) := h

theorem halt {f : σ → σ} (h : ∀ s, I s → I (f s)) : Upholds I (halt f : Eff σ ε α) := h

/-- A state in which the invariant holds is read. -/
theorem read_bind {k : σ → Eff σ ε β} (h : ∀ s, I s → Upholds I (k s)) :
    Upholds I (Eff.read >>= k) := fun s hs => h s hs s hs

theorem bind (hm : Upholds I m) (hk : ∀ a, Upholds I (k a)) : Upholds I (m >>= k) := by
  intro s hs
  have hmid := hm s hs
  rcases hms : m s with ⟨_ | a, s'⟩ | s'
  · rw [hms] at hmid
    rw [bind_of_error hms]
    exact hmid
  · rw [hms] at hmid
    rw [bind_of_ok hms]
    exact hk a s' hmid
  · rw [hms] at hmid
    rw [bind_of_panic hms]
    exact hmid

/-- A check: what it found out in a state with the invariant is known behind it. -/
theorem ask_bind {f : σ → Except ε α} (h : ∀ s a, I s → f s = .ok a → Upholds I (k a)) :
    Upholds I (Eff.ask f >>= k) := by
  intro s hs
  cases hf : f s with
  | error e =>
    have hrun : Eff.ask f s = .done (.error e) s := by rw [ask_run, hf]
    rw [bind_of_error hrun]
    exact hs
  | ok a =>
    have hrun : Eff.ask f s = .done (.ok a) s := by rw [ask_run, hf]
    rw [bind_of_ok hrun]
    exact h s a hs hf s hs

theorem attempt (hm : Upholds I m) : Upholds I (attempt m : Eff σ ε' _) := by
  intro s hs
  have hmid := hm s hs
  rw [Eff.attempt]
  rcases hms : m s with ⟨r, s'⟩ | s' <;> rw [hms] at hmid <;> exact hmid

theorem ite {c : Prop} [Decidable c] (hm : Upholds I m) (hn : Upholds I n) :
    Upholds I (if c then m else n) := by
  split
  · exact hm
  · exact hn

theorem onlyWhen {c : Prop} [Decidable c] {m : Eff σ ε Unit} (hm : Upholds I m) :
    Upholds I (onlyWhen c m) := ite hm (pure ())

theorem forEach {m : α → Eff σ ε Unit} (hm : ∀ a, Upholds I (m a)) :
    ∀ list : List α, Upholds I (forEach m list)
  | [] => pure ()
  | a :: list => bind (hm a) fun _ => forEach hm list

theorem ends (hm : Upholds I m) {s : σ} (hs : I s) : Ends (m s) (fun _ => I) := by
  have hend := hm s hs
  rcases hms : m s with ⟨r, s'⟩ | s'
  · rw [hms] at hend
    exact .stay hend
  · exact .refl

end Upholds

/-- Started where the invariant holds, the code leaves it true unless it panics. -/
def Respects (I : σ → Prop) (m : Eff σ ε α) : Prop := ∀ s, I s → Ends (m s) (fun _ => I)

namespace Respects

variable {I : σ → Prop} {m n : Eff σ ε α} {k : α → Eff σ ε β}

theorem pure (a : α) : Respects I (pure a : Eff σ ε α) := fun _ h => .stay h

theorem fail (e : ε) : Respects I (fail e : Eff σ ε α) := fun _ h => .stay h

theorem ask (f : σ → Except ε α) : Respects I (ask f) := fun _ h => .stay h

theorem lift (x : Except ε α) : Respects I (lift x : Eff σ ε α) := fun _ h => .stay h

theorem update {f : σ → σ} (h : ∀ s, I s → I (f s)) : Respects I (update f : Eff σ ε Unit) :=
  fun s hs => .stay (h s hs)

theorem read_bind {k : σ → Eff σ ε β} (h : ∀ s, I s → Respects I (k s)) :
    Respects I (Eff.read >>= k) := fun s hs => h s hs s hs

theorem bind (hm : Respects I m) (hk : ∀ a, Respects I (k a)) : Respects I (m >>= k) :=
  fun s hs => .bind (hm s hs) (fun a s' hs' => hk a s' hs') fun _ _ h => h

/-- A check: what it found out in a state with the invariant is known behind it. -/
theorem ask_bind {f : σ → Except ε α} (h : ∀ s a, I s → f s = .ok a → Respects I (k a)) :
    Respects I (Eff.ask f >>= k) :=
  fun s hs => .ask_bind (fun a hf => h s a hs hf s hs) fun _ _ => .stay hs

theorem attempt (hm : Respects I m) : Respects I (attempt m : Eff σ ε' _) := by
  intro s hs
  have hend := hm s hs
  rw [Eff.attempt]
  rcases hms : m s with ⟨r, s'⟩ | s'
  · rw [hms] at hend
    exact .stay hend.2
  · exact .refl

theorem ite {c : Prop} [Decidable c] (hm : Respects I m) (hn : Respects I n) :
    Respects I (if c then m else n) := by
  split
  · exact hm
  · exact hn

theorem onlyWhen {c : Prop} [Decidable c] {m : Eff σ ε Unit} (hm : Respects I m) :
    Respects I (onlyWhen c m) := ite hm (pure ())

theorem forEach {m : α → Eff σ ε Unit} (hm : ∀ a, Respects I (m a)) :
    ∀ list : List α, Respects I (forEach m list)
  | [] => pure ()
  | a :: list => bind (hm a) fun _ => forEach hm list

end Respects

end Eff

end Machine
