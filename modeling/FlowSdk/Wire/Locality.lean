/-
  FlowSdk.Wire.Locality — decoders on a frame, and on a frame with bytes behind it.

  A decoder that reads its fields from everything that follows, and not only from its frame,
  may see bytes that are none of its business. It is still right if a field that reaches past
  the frame makes it refuse in the end, usually by a test of the final offset. `Follows` relates
  a run on the frame to a run on the longer buffer: up to the end of the frame they agree, and
  behind it the second refuses.

  Main results:
    1. `Follows.field`       a field read by a local reader
    2. `Follows.check`       a test that both runs make
    3. `Follows.finish`      the test of the final offset
    4. `Local.overrun`       a field that only the longer buffer holds ends behind the frame
-/
import FlowSdk.Wire.Reader

namespace Wire

variable {β α γ ε : Type} {refusal : ε → Prop}

/-! ## Readers -/

/-- A failure of the kind the caller may handle. -/
def Refused (refusal : ε → Prop) (x : Except ε α) : Prop := ∃ e, refusal e ∧ x = .error e

theorem Refused.bind {x : Except ε α} {k : α → Except ε γ} (h : Refused refusal x) :
    Refused refusal (x >>= k) := by
  obtain ⟨e, he, rfl⟩ := h
  exact ⟨e, he, rfl⟩

theorem Refused.rejectIf {c : Prop} [Decidable c] {e : ε} (he : refusal e) (hc : c) :
    Refused refusal (rejectIf c e) := ⟨e, he, rejectIf_pos e hc⟩

/-- The code refuses, or its answer satisfies `Q`: it fails in no other way. -/
def Meets (refusal : ε → Prop) (x : Except ε α) (Q : α → Prop) : Prop :=
  Refused refusal x ∨ ∃ a, x = .ok a ∧ Q a

namespace Meets

variable {x : Except ε α} {Q R : α → Prop}

theorem ok {a : α} (h : Q a) : Meets refusal (.ok a) Q := .inr ⟨a, rfl, h⟩

theorem error {e : ε} (h : refusal e) : Meets refusal (.error e : Except ε α) Q :=
  .inl ⟨e, h, rfl⟩

theorem weaken (h : Meets refusal x Q) (hQ : ∀ a, x = .ok a → Q a → R a) : Meets refusal x R := by
  rcases h with h | ⟨a, rfl, ha⟩
  · exact .inl h
  · exact ok (hQ a rfl ha)

theorem bind {k : α → Except ε γ} {R : γ → Prop} (h : Meets refusal x Q)
    (hk : ∀ a, x = .ok a → Q a → Meets refusal (k a) R) : Meets refusal (x >>= k) R := by
  rcases h with h | ⟨a, rfl, ha⟩
  · exact .inl h.bind
  · exact hk a rfl ha

theorem rejectIf {c : Prop} [Decidable c] {e : ε} (he : refusal e) :
    Meets refusal (Wire.rejectIf c e) (fun _ => ¬ c) := by
  by_cases hc : c
  · exact .inl (.rejectIf he hc)
  · rw [rejectIf_neg e hc]
    exact ok hc

theorem answered (h : Meets refusal x Q) : Refused refusal x ∨ ∃ a, x = .ok a :=
  h.imp_right fun ⟨a, ha, _⟩ => ⟨a, ha⟩

theorem holds {a : α} (h : Meets refusal x Q) (hx : x = .ok a) : Q a := by
  rcases h with ⟨e, -, he⟩ | ⟨b, hb, hQ⟩
  · cases hx.symm.trans he
  · cases hx.symm.trans hb
    exact hQ

end Meets

/-- The reader answers with what it took off the front of its slice, or refuses. -/
def Sound (refusal : ε → Prop) (read : List β → Except ε (α × Nat)) : Prop :=
  ∀ s, Meets refusal (read s) (fun p => p.2 ≤ s.length)

/-- The reader looks at no more than it takes. -/
structure Local (refusal : ε → Prop) (read : List β → Except ε (α × Nat)) : Prop where
  sound : Sound refusal read
  cut : ∀ {s v n}, read s = .ok (v, n) → ∀ c, read (s.take n ++ c) = .ok (v, n)

namespace Local

variable {read : List β → Except ε (α × Nat)} {s c : List β} {v : α} {n : Nat}

theorem le (h : Local refusal read) (hok : read s = .ok (v, n)) : n ≤ s.length :=
  (h.sound s).holds hok

/-- A longer part of the slice does as well. -/
theorem take {m : Nat} (h : Local refusal read) (hok : read s = .ok (v, n)) (hm : n ≤ m) :
    read (s.take m ++ c) = .ok (v, n) := by
  have hcut := h.cut hok ((s.take m).drop n ++ c)
  have hshort : s.take n = (s.take m).take n := by rw [List.take_take, Nat.min_eq_left hm]
  rwa [hshort, ← List.append_assoc, List.take_append_drop] at hcut

theorem append (h : Local refusal read) (hok : read s = .ok (v, n)) :
    read (s ++ c) = .ok (v, n) := by
  have hcut := h.cut hok (s.drop n ++ c)
  rwa [← List.append_assoc, List.take_append_drop] at hcut

/-- A field that is there only because of the bytes behind the slice ends behind the slice. -/
theorem overrun (h : Local refusal read) (hs : Refused refusal (read s))
    (hok : read (s ++ c) = .ok (v, n)) : s.length < n := by
  by_contra hle
  have hcut := h.cut hok (s.drop n)
  rw [List.take_append_of_le_length (Nat.not_lt.mp hle), List.take_append_drop] at hcut
  obtain ⟨e, -, he⟩ := hs
  cases hcut.symm.trans he

end Local

/-- A field read at a known place. -/
theorem Yields.read {buffer rest : List β} {n : Nat} {read : List β → Except ε (γ × Nat)}
    {x : Except ε (List β)} {k : γ × Nat → Except ε α} {Q : α → Prop} (h : At buffer n rest)
    (hx : x = .ok rest) (hread : Sound refusal read)
    (hk : ∀ v c, read rest = .ok (v, c) → At buffer (n + c) (rest.drop c) → Yields (k (v, c)) Q) :
    Yields (x >>= fun s => read s >>= k) Q := by
  subst hx
  rw [ok_bind]
  exact bind fun p hp => hk p.1 p.2 hp (h.skip ((hread rest).holds hp))

/-! ## Two runs -/

/-- The two runs give the same answer, or both refuse. -/
def Agree (refusal : ε → Prop) (x y : Except ε α) : Prop :=
  (∃ a, x = .ok a ∧ y = .ok a) ∨ Refused refusal x ∧ Refused refusal y

theorem Agree.refl {x : Except ε α} (h : Refused refusal x ∨ ∃ a, x = .ok a) :
    Agree refusal x x := by
  rcases h with h | ⟨a, h⟩
  · exact .inr ⟨h, h⟩
  · exact .inl ⟨a, h, h⟩

/-- At the offset `n`: `x` runs on a frame of length `L`, `y` on a buffer of length `M` that
starts with it. -/
structure Follows (refusal : ε → Prop) (L M n : Nat) (x y : Except ε α) : Prop where
  within : n ≤ L → Agree refusal x y
  beyond : L < n → n ≤ M → Refused refusal y

namespace Follows

variable {L M n : Nat} {x y : Except ε α}

theorem check {z : Except ε γ} {k k' : γ → Except ε α} (hz : Refused refusal z ∨ ∃ a, z = .ok a)
    (hk : ∀ a, z = .ok a → Follows refusal L M n (k a) (k' a)) :
    Follows refusal L M n (z >>= k) (z >>= k') := by
  rcases hz with hz | ⟨a, rfl⟩
  · exact ⟨fun _ => .inr ⟨hz.bind, hz.bind⟩, fun _ _ => hz.bind⟩
  · exact hk a rfl

theorem rejectIf {c : Prop} [Decidable c] {e : ε} {k k' : Unit → Except ε α} (he : refusal e)
    (hk : ¬ c → Follows refusal L M n (k ()) (k' ())) :
    Follows refusal L M n (Wire.rejectIf c e >>= k) (Wire.rejectIf c e >>= k') := by
  refine check ?_ fun _ h => hk (rejectIf_eq_ok.mp h)
  by_cases hc : c
  · exact .inl (.rejectIf he hc)
  · exact .inr ⟨(), rejectIf_neg e hc⟩

/-- The test of the final offset refuses every run that left the frame. -/
theorem finish {e : ε} (he : refusal e) {k : Unit → Except ε α}
    (hk : Refused refusal (k ()) ∨ ∃ a, k () = .ok a) :
    Follows refusal L M n (Wire.rejectIf (n ≠ L) e >>= k) (Wire.rejectIf (n ≠ L) e >>= k) := by
  constructor
  case within =>
    intro _
    by_cases hn : n = L
    · rw [rejectIf_neg e (not_not_intro hn)]
      exact .refl hk
    · have hrefused : Refused refusal (Wire.rejectIf (n ≠ L) e >>= k) :=
        (Refused.rejectIf he hn).bind
      exact .inr ⟨hrefused, hrefused⟩
  case beyond =>
    intro hlt _
    exact (Refused.rejectIf he (Nat.ne_of_gt hlt)).bind

end Follows

/-! ## Fields -/

section Fields

variable {frame rest : List β} {n : Nat} {read : List β → Except ε (γ × Nat)}
  {k k' : γ × Nat → Except ε α}

theorem sliceFrom_append_of_le (h : n ≤ frame.length) :
    sliceFrom (frame ++ rest) n = some (frame.drop n ++ rest) := by
  rw [sliceFrom_of_le (by rw [List.length_append]; omega), List.drop_append_of_le_length h]

/-- A field read by a local reader from everything that follows. The way the slice is taken
(`take`) is the caller's: it may fail behind the buffer in its own way. -/
theorem Follows.field {take : Option (List β) → Except ε (List β)}
    (htake : ∀ s, take (some s) = .ok s) (hread : Local refusal read)
    (hk : ∀ v m, (∃ s, read s = .ok (v, m)) →
      Follows refusal frame.length (frame ++ rest).length (n + m) (k (v, m)) (k' (v, m))) :
    Follows refusal frame.length (frame ++ rest).length n
      (take (sliceFrom frame n) >>= fun s => read s >>= k)
      (take (sliceFrom (frame ++ rest) n) >>= fun s => read s >>= k') := by
  constructor
  case within =>
    intro hle
    rw [sliceFrom_of_le hle, sliceFrom_append_of_le hle, htake, htake, ok_bind, ok_bind]
    have hlen : (frame.drop n).length = frame.length - n := List.length_drop
    rcases hread.sound (frame.drop n) with hx | ⟨⟨v, m⟩, hx, hm⟩
    · refine .inr ⟨hx.bind, ?_⟩
      rcases hread.sound (frame.drop n ++ rest) with hy | ⟨⟨v, m⟩, hy, hm⟩
      · exact hy.bind
      · have hover := hread.overrun hx hy
        dsimp only at hm
        rw [hy]
        refine (hk v m ⟨_, hy⟩).beyond (by omega) ?_
        rw [List.length_append] at hm ⊢
        omega
    · dsimp only at hm
      rw [hx, hread.append hx]
      exact (hk v m ⟨_, hx⟩).within (by omega)
  case beyond =>
    intro hlt hle
    rw [sliceFrom_of_le hle, htake, ok_bind]
    rcases hread.sound ((frame ++ rest).drop n) with hy | ⟨⟨v, m⟩, hy, hm⟩
    · exact hy.bind
    · dsimp only at hm
      rw [hy]
      rw [List.length_drop] at hm
      exact (hk v m ⟨_, hy⟩).beyond (by omega) (by omega)

/-- One symbol. -/
theorem Follows.item {take : Option β → Except ε β} {k k' : β → Except ε α}
    (htake : ∀ b, take (some b) = .ok b) (hnone : Refused refusal (take none))
    (hk : ∀ b, Follows refusal frame.length (frame ++ rest).length (n + 1) (k b) (k' b)) :
    Follows refusal frame.length (frame ++ rest).length n (take frame[n]? >>= k)
      (take (frame ++ rest)[n]? >>= k') := by
  have hbuffer : frame.length ≤ n → Refused refusal (take (frame ++ rest)[n]? >>= k') := by
    intro hge
    cases hy : (frame ++ rest)[n]? with
    | none => exact hnone.bind
    | some b =>
      have hlt := (List.getElem?_eq_some_iff.mp hy).1
      rw [htake]
      exact (hk b).beyond (by omega) (by omega)
  constructor
  case within =>
    intro hle
    by_cases hlt : n < frame.length
    · rw [List.getElem?_append_left hlt, List.getElem?_eq_getElem hlt, htake]
      exact (hk _).within hlt
    · rw [List.getElem?_eq_none (Nat.not_lt.mp hlt)]
      exact .inr ⟨hnone.bind, hbuffer (Nat.not_lt.mp hlt)⟩
  case beyond => exact fun hlt _ => hbuffer (Nat.le_of_lt hlt)

/-- A slice of fixed length. -/
theorem Follows.slice {len : Nat} {take : Option (List β) → Except ε (List β)}
    {k k' : List β → Except ε α} (htake : ∀ s, take (some s) = .ok s)
    (hnone : Refused refusal (take none))
    (hk : ∀ s, Follows refusal frame.length (frame ++ rest).length (n + len) (k s) (k' s)) :
    Follows refusal frame.length (frame ++ rest).length n
      (take (sliceRange frame n (n + len)) >>= k)
      (take (sliceRange (frame ++ rest) n (n + len)) >>= k') := by
  have hbuffer : frame.length < n + len →
      Refused refusal (take (sliceRange (frame ++ rest) n (n + len)) >>= k') := by
    intro hlt
    unfold sliceRange
    split
    next hle =>
      rw [htake]
      exact (hk _).beyond hlt hle.2
    next => exact hnone.bind
  constructor
  case within =>
    intro _
    by_cases hle : n + len ≤ frame.length
    · have hlong : n + len ≤ (frame ++ rest).length := by
        rw [List.length_append]
        omega
      rw [sliceRange, sliceRange, if_pos ⟨Nat.le_add_right _ _, hle⟩,
        if_pos ⟨Nat.le_add_right _ _, hlong⟩, List.take_append_of_le_length hle, htake]
      exact (hk _).within hle
    · rw [sliceRange, if_neg fun h => hle h.2]
      exact .inr ⟨hnone.bind, hbuffer (Nat.not_le.mp hle)⟩
  case beyond => exact fun hlt _ => hbuffer (by omega)

/-- The slice up to the end of the frame is the same in both buffers. -/
theorem sliceRange_frame :
    sliceRange (frame ++ rest) n frame.length = sliceRange frame n frame.length := by
  rw [sliceRange, sliceRange, List.take_left, List.take_length, List.length_append]
  refine if_congr ?_ rfl rfl
  omega

/-- The bytes up to the end of the frame. -/
theorem Follows.toEnd {take : Option (List β) → Except ε (List β)} {k k' : List β → Except ε α}
    (htake : ∀ s, take (some s) = .ok s) (hnone : Refused refusal (take none))
    (hk : n ≤ frame.length → Agree refusal (k (frame.drop n)) (k' (frame.drop n))) :
    Follows refusal frame.length (frame ++ rest).length n
      (take (sliceRange frame n frame.length) >>= k)
      (take (sliceRange (frame ++ rest) n frame.length) >>= k') := by
  rw [sliceRange_frame]
  constructor
  case within =>
    intro hle
    rw [sliceRange_to_length hle, htake]
    exact hk hle
  case beyond =>
    intro hlt _
    rw [sliceRange, if_neg fun h => absurd h.1 (Nat.not_le.mpr hlt)]
    exact hnone.bind

/-- A loop of fields up to the end of the frame. -/
theorem Follows.readMany {one one' : Nat → Except ε (γ × Nat)}
    (hone : ∀ {n} {k k' : γ × Nat → Except ε α}, n < frame.length →
      (∀ v m, Follows refusal frame.length (frame ++ rest).length (n + m) (k (v, m)) (k' (v, m))) →
      Follows refusal frame.length (frame ++ rest).length n (one n >>= k) (one' n >>= k')) :
    ∀ fuel n (k k' : List γ × Nat → Except ε α),
      (∀ vs m, Follows refusal frame.length (frame ++ rest).length m (k (vs, m)) (k' (vs, m))) →
      Follows refusal frame.length (frame ++ rest).length n
        (Wire.readMany one frame.length fuel n >>= k)
        (Wire.readMany one' frame.length fuel n >>= k')
  | 0, n, k, k', hk => hk [] n
  | fuel + 1, n, k, k', hk => by
    rw [Wire.readMany, Wire.readMany]
    by_cases hlt : n < frame.length
    · rw [if_pos hlt, if_pos hlt, bind_assoc, bind_assoc]
      refine hone hlt fun v m => ?_
      simp only [bind_assoc, pure_bind]
      exact readMany hone fuel (n + m) _ _ fun vs m' => hk (v :: vs) m'
    · rw [if_neg hlt, if_neg hlt]
      exact hk [] n

end Fields

/-! ## Readers one after the other -/

/-- A second reader starts where the first one stopped. -/
theorem Local.seq {first : List β → Except ε (α × Nat)}
    (take : Option (List β) → Except ε (List β)) (second : α → List β → Except ε (γ × Nat))
    (htake : ∀ s, take (some s) = .ok s)
    (hfirst : Local refusal first) (hsecond : ∀ a, Local refusal (second a)) :
    Local refusal (fun s => first s >>= fun p => take (sliceFrom s p.2) >>= fun t =>
      second p.1 t >>= fun q => .ok (q.1, p.2 + q.2)) where
  sound s := by
    refine (hfirst.sound s).bind fun p _ hp => ?_
    rw [sliceFrom_of_le hp, htake, ok_bind]
    refine ((hsecond p.1).sound _).bind fun q _ hq => .ok ?_
    rw [List.length_drop] at hq
    show p.2 + q.2 ≤ s.length
    omega
  cut {s v n} h c := by
    obtain ⟨⟨a, i⟩, hp, h⟩ := bind_eq_ok.mp h
    have hi := hfirst.le hp
    dsimp only at h
    rw [sliceFrom_of_le hi, htake, ok_bind] at h
    obtain ⟨⟨b, j⟩, hq, heq⟩ := bind_eq_ok.mp h
    obtain ⟨rfl, rfl⟩ := Prod.mk.inj (Except.ok.inj heq)
    have hj := (hsecond a).le hq
    rw [List.length_drop] at hj
    have hplace : i ≤ (s.take (i + j) ++ c).length := by
      rw [List.length_append, List.length_take]
      omega
    have hdrop : (s.take (i + j) ++ c).drop i = (s.drop i).take j ++ c := by
      rw [List.drop_append_of_le_length (by rw [List.length_take]; omega), List.drop_take,
        Nat.add_sub_cancel_left]
    dsimp only
    rw [hfirst.take hp (Nat.le_add_right i j), ok_bind]
    dsimp only
    rw [sliceFrom_of_le hplace, hdrop, htake, ok_bind, (hsecond a).cut hq c, ok_bind]

end Wire
