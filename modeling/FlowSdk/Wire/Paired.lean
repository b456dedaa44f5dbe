/-
  FlowSdk.Wire.Paired — two readers of the same symbols.

  A second parser of a format reads the same fields as the first one, only from a slice of its
  own and with other tests. `Leads` says that it accepts whatever the first one accepts and that
  the two answers fit together; `Paired` says that the two stand at the same place.

  Main results:
    1. `Leads.both`, `Leads.first`   a step of both parsers, and a step of the first one alone
    2. `Paired.skip`                 the two advance together
-/
import FlowSdk.Wire.Locality

namespace Wire

variable {β α γ δ ε : Type}

/-- Whenever the first run answers, the second one does too, and the answers are related. -/
def Leads (x : Except ε α) (y : Except ε γ) (Q : α → γ → Prop) : Prop :=
  ∀ a, x = .ok a → ∃ b, y = .ok b ∧ Q a b

namespace Leads

variable {Q : α → γ → Prop} {y : Except ε γ}

theorem ok {a : α} {b : γ} (h : Q a b) : Leads (.ok a : Except ε α) (.ok b) Q := by
  intro a' ha
  cases ha
  exact ⟨b, rfl, h⟩

/-- A step that both runs make. -/
theorem both {z : Except ε δ} {k : δ → Except ε α} {k' : δ → Except ε γ}
    (h : ∀ a, z = .ok a → Leads (k a) (k' a) Q) : Leads (z >>= k) (z >>= k') Q := by
  intro b hb
  obtain ⟨a, rfl, hb⟩ := bind_eq_ok.mp hb
  exact h a rfl b hb

/-- A step of the first run. -/
theorem first {z : Except ε δ} {k : δ → Except ε α} (h : ∀ a, z = .ok a → Leads (k a) y Q) :
    Leads (z >>= k) y Q := by
  intro b hb
  obtain ⟨a, ha, hb⟩ := bind_eq_ok.mp hb
  exact h a ha b hb

/-- A test of the first run. -/
theorem rejectIf {c : Prop} [Decidable c] {e : ε} {k : Unit → Except ε α}
    (h : ¬ c → Leads (k ()) y Q) : Leads (Wire.rejectIf c e >>= k) y Q :=
  first fun _ hc => h (rejectIf_eq_ok.mp hc)

end Leads

/-- The place `n` of the buffer and the place `m` of the slice have the same symbols behind
them. -/
structure Paired (buffer slice : List β) (n m : Nat) (rest : List β) : Prop where
  buffer_at : At buffer n rest
  slice_at : At slice m rest

namespace Paired

variable {buffer slice rest : List β} {n m : Nat}

theorem start (h : n ≤ buffer.length) : Paired buffer (buffer.drop n) n 0 (buffer.drop n) :=
  ⟨⟨h, rfl⟩, ⟨Nat.zero_le _, rfl⟩⟩

theorem skip {c : Nat} (h : Paired buffer slice n m rest) (hc : c ≤ rest.length) :
    Paired buffer slice (n + c) (m + c) (rest.drop c) :=
  ⟨h.buffer_at.skip hc, h.slice_at.skip hc⟩

theorem le (h : Paired buffer slice n m rest) : m ≤ slice.length := h.slice_at.le

/-- The two ends are as far away. -/
theorem ends (h : Paired buffer slice n m rest) :
    buffer.length - n = rest.length ∧ slice.length - m = rest.length := by
  have hn := h.buffer_at.length
  have hm := h.slice_at.length
  omega

end Paired

/-- A field that both parsers read from the same symbols. -/
theorem Leads.read {refusal : ε → Prop} {buffer slice rest : List β} {n m : Nat}
    {read : List β → Except ε (δ × Nat)} {x y : Except ε (List β)} {k : δ × Nat → Except ε α}
    {k' : δ × Nat → Except ε γ} {Q : α → γ → Prop} (h : Paired buffer slice n m rest)
    (hx : x = .ok rest) (hy : y = .ok rest) (hread : Sound refusal read)
    (hk : ∀ v c, read rest = .ok (v, c) → Paired buffer slice (n + c) (m + c) (rest.drop c) →
      Leads (k (v, c)) (k' (v, c)) Q) :
    Leads (x >>= fun s => read s >>= k) (y >>= fun s => read s >>= k') Q := by
  subst hx hy
  rw [ok_bind, ok_bind]
  refine both fun p hp => ?_
  exact hk p.1 p.2 hp (h.skip ((hread rest).holds hp))

/-- The first field: the second parser has its slice in hand. -/
theorem Leads.readStart {refusal : ε → Prop} {buffer : List β} {n : Nat}
    {read : List β → Except ε (δ × Nat)} {x : Except ε (List β)} {k : δ × Nat → Except ε α}
    {k' : δ × Nat → Except ε γ} {Q : α → γ → Prop} (h : n ≤ buffer.length)
    (hx : x = .ok (buffer.drop n)) (hread : Sound refusal read)
    (hk : ∀ v c, read (buffer.drop n) = .ok (v, c) →
      Paired buffer (buffer.drop n) (n + c) c ((buffer.drop n).drop c) →
      Leads (k (v, c)) (k' (v, c)) Q) :
    Leads (x >>= fun s => read s >>= k) (read (buffer.drop n) >>= k') Q := by
  refine Leads.read (y := .ok (buffer.drop n)) (Paired.start h) hx rfl hread fun v c hv hnext => ?_
  rw [Nat.zero_add] at hnext
  exact hk v c hv hnext

end Wire
