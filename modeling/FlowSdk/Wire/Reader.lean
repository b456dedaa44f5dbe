/-
  FlowSdk.Wire.Reader — readers over byte slices.

  A reader looks at the front of a slice and answers with a value and the number
  of symbols it took. Decoders written with running offsets read `buffer[n..]` and
  `buffer[i..j]`; the lemmas below move such reads past a known prefix, so that a
  round trip can be proved field by field.

  Main results:
    1. `Reads.drop`             a reader at the offset where its encoding starts
    2. `At.sliceFrom`, `At.sliceRange`, `At.getElem?`
    3. `readMany_flatMap`       a loop of readers over a list of encodings
-/
import FlowSdk.Wire.Outcome
import Mathlib.Algebra.GroupWithZero.Nat

namespace Wire

variable {β α γ ε : Type}

/-! ## Slices -/

/-- `buffer.get(n..)`. -/
def sliceFrom (buffer : List β) (n : Nat) : Option (List β) :=
  if n ≤ buffer.length then some (buffer.drop n) else none

/-- `buffer.get(i..j)`. -/
def sliceRange (buffer : List β) (i j : Nat) : Option (List β) :=
  if i ≤ j ∧ j ≤ buffer.length then some ((buffer.take j).drop i) else none

theorem sliceFrom_of_le {buffer : List β} {n : Nat} (h : n ≤ buffer.length) :
    sliceFrom buffer n = some (buffer.drop n) := if_pos h

/-- The slice up to the end of the buffer is the whole rest. -/
theorem sliceRange_to_length {buffer : List β} {n : Nat} (h : n ≤ buffer.length) :
    sliceRange buffer n buffer.length = some (buffer.drop n) := by
  simp [sliceRange, h]

/-! ## Places in a buffer -/

/-- From the place `n` on, the buffer reads `rest`. -/
structure At (buffer : List β) (n : Nat) (rest : List β) : Prop where
  le : n ≤ buffer.length
  drop_eq : buffer.drop n = rest

namespace At

variable {buffer front field rest : List β} {n m : Nat}

theorem start (h : buffer = front ++ rest) : At buffer front.length rest := by
  subst h
  exact ⟨by rw [List.length_append]; exact Nat.le_add_right _ _, List.drop_left⟩

theorem length (h : At buffer n rest) : buffer.length = n + rest.length := by
  have hlen := congrArg List.length h.drop_eq
  rw [List.length_drop] at hlen
  have := h.le
  omega

/-- Behind a field that was read, the rest is left. -/
theorem advance (h : At buffer n (field ++ rest)) : At buffer (n + field.length) rest := by
  have hlen := h.length
  rw [List.length_append] at hlen
  refine ⟨by omega, ?_⟩
  rw [← List.drop_drop, h.drop_eq, List.drop_left]

theorem next {item : β} (h : At buffer n (item :: rest)) : At buffer (n + 1) rest :=
  advance (show At buffer n ([item] ++ rest) from h)

theorem skip {c : Nat} (h : At buffer n rest) (hc : c ≤ rest.length) :
    At buffer (n + c) (rest.drop c) := by
  have hlen := h.length
  refine ⟨by omega, ?_⟩
  rw [← h.drop_eq, List.drop_drop]

theorem sliceFrom (h : At buffer n rest) : sliceFrom buffer n = some rest := by
  rw [sliceFrom_of_le h.le, h.drop_eq]

theorem getElem? {item : β} (h : At buffer n (item :: rest)) : buffer[n]? = some item := by
  have hhead : (buffer.drop n)[0]? = some item := by rw [h.drop_eq]; rfl
  rwa [List.getElem?_drop, Nat.add_zero] at hhead

theorem sliceRange (h : At buffer n (field ++ rest)) (hm : m = n + field.length) :
    sliceRange buffer n m = some field := by
  have hlen := h.length
  rw [List.length_append] at hlen
  rw [Wire.sliceRange, if_pos ⟨by omega, by omega⟩, List.drop_take, h.drop_eq, hm,
    Nat.add_sub_cancel_left, List.take_left]

end At

/-! ## Readers -/

/-- Whatever follows, the reader takes exactly `enc` off the front and answers `v`. -/
def Reads (r : List β → Except ε (α × Nat)) (enc : List β) (v : α) : Prop :=
  ∀ rest : List β, r (enc ++ rest) = .ok (v, enc.length)

theorem Reads.nil {r : List β → Except ε (α × Nat)} {enc : List β} {v : α} (h : Reads r enc v) :
    r enc = .ok (v, enc.length) := by
  simpa using h []

/-- A reader stopped at offset `pre.length` of a buffer that continues with its encoding. -/
theorem Reads.drop {r : List β → Except ε (α × Nat)} {enc : List β} {v : α} (h : Reads r enc v)
    (pre rest : List β) {n : Nat} (hn : n = pre.length) :
    r ((pre ++ (enc ++ rest)).drop n) = .ok (v, enc.length) := by
  subst hn
  simpa using h rest

/-! ## Reading until an offset -/

/-- `while offset < stop { let (v, n) = read(offset)?; vs.push(v); offset += n; }`, with the
offset it stops at. A reader that takes at least one symbol a turn uses at most `stop` turns. -/
def readMany (read : Nat → Except ε (α × Nat)) (stop : Nat) : Nat → Nat → Except ε (List α × Nat)
  | 0, offset => .ok ([], offset)
  | fuel + 1, offset =>
    if offset < stop then do
      let (v, n) ← read offset
      let (vs, finish) ← readMany read stop fuel (offset + n)
      return (v :: vs, finish)
    else .ok ([], offset)

/-- The loop reads back a list of values written one after the other. The reader is only
asked at the offsets where an encoding starts. -/
theorem readMany_flatMap (read : Nat → Except ε (α × Nat)) (stop : Nat) {enc : α → List β}
    (hpos : ∀ v, enc v ≠ []) :
    ∀ (vs : List α) (pre : List β) (fuel : Nat), vs.length < fuel →
      stop = (pre ++ vs.flatMap enc).length →
      (∀ v ∈ vs, ∀ before after : List α, vs = before ++ v :: after →
        read (pre ++ before.flatMap enc).length = .ok (v, (enc v).length)) →
      readMany read stop fuel pre.length = .ok (vs, stop) := by
  intro vs
  induction vs with
  | nil =>
    intro pre fuel hfuel hstop _
    obtain ⟨fuel, rfl⟩ : ∃ f, fuel = f + 1 := ⟨fuel - 1, by simp at hfuel; omega⟩
    simp [readMany, hstop]
  | cons v vs ih =>
    intro pre fuel hfuel hstop hread
    obtain ⟨fuel, rfl⟩ : ∃ f, fuel = f + 1 := ⟨fuel - 1, by simp at hfuel; omega⟩
    have hfirst := hread v (List.mem_cons_self ..) [] vs rfl
    have hlt : pre.length < stop := by
      have := List.length_pos_iff.mpr (hpos v)
      simp only [hstop, List.flatMap_cons, List.length_append]
      omega
    have hrest := ih (pre ++ enc v) fuel (by simpa using hfuel)
      (by simpa [List.append_assoc] using hstop)
      (fun w hw before after hsplit => by
        have := hread w (List.mem_cons_of_mem _ hw) (v :: before) after (by simp [hsplit])
        simpa [List.append_assoc] using this)
    rw [List.length_append] at hrest
    simp only [List.flatMap_nil, List.append_nil] at hfirst
    simp only [readMany, hlt, if_true, hfirst, ok_bind, hrest, pure_eq_ok]

/-- The loop over a buffer that ends with the encodings, when each turn first takes the rest
of the buffer as a slice. -/
theorem readMany_slice (slice : Nat → Except ε (List β)) {r : List β → Except ε (α × Nat)}
    {enc : α → List β} (hpos : ∀ v, enc v ≠ []) {vs : List α}
    (hreads : ∀ v ∈ vs, Reads r (enc v) v) {b : List β} (pre : List β)
    (hb : b = pre ++ vs.flatMap enc)
    (hslice : ∀ front rest : List β, b = front ++ rest → slice front.length = .ok rest)
    {fuel n stop : Nat} (hfuel : vs.length < fuel) (hn : n = pre.length) (hstop : stop = b.length) :
    readMany (fun offset => slice offset >>= fun rest => r rest) stop fuel n = .ok (vs, stop) := by
  subst hn
  refine readMany_flatMap _ _ hpos vs pre fuel hfuel (by rw [hstop, hb]) ?_
  intro v hv before after hsplit
  have hcut : b = (pre ++ before.flatMap enc) ++ (enc v ++ after.flatMap enc) := by
    rw [hb, hsplit]
    simp [List.flatMap_append]
  rw [hslice _ _ hcut, ok_bind]
  exact hreads v hv _

theorem length_le_flatMap {enc : α → List β} (hpos : ∀ v, enc v ≠ []) (vs : List α) :
    vs.length ≤ (vs.flatMap enc).length := by
  induction vs with
  | nil => simp
  | cons v vs ih =>
    have := List.length_pos_iff.mpr (hpos v)
    simp only [List.flatMap_cons, List.length_cons, List.length_append]
    omega

/-- What the loop has read: each value is one the reader answers, and the sizes of the values
add up to no more than the loop has advanced. -/
theorem readMany_size {read : Nat → Except ε (α × Nat)} {stop : Nat} (P : α → Prop) (size : α → Nat)
    (hread : ∀ {n v c}, read n = .ok (v, c) → P v ∧ size v ≤ c) :
    ∀ {fuel n : Nat} {vs : List α} {m : Nat}, readMany read stop fuel n = .ok (vs, m) →
      (∀ v ∈ vs, P v) ∧ n + (vs.map size).sum ≤ m
  | 0, n, vs, m, h => by
    cases h
    exact ⟨fun _ hv => (List.not_mem_nil hv).elim, Nat.le_refl n⟩
  | fuel + 1, n, vs, m, h => by
    unfold readMany at h
    split at h
    next =>
      obtain ⟨⟨v, c⟩, hfirst, h⟩ := bind_eq_ok.mp h
      obtain ⟨⟨vs, m⟩, hrest, heq⟩ := bind_eq_ok.mp h
      cases heq
      obtain ⟨hv, hsize⟩ := hread hfirst
      obtain ⟨hvs, hsum⟩ := readMany_size P size hread hrest
      refine ⟨List.forall_mem_cons.mpr ⟨hv, hvs⟩, ?_⟩
      rw [List.map_cons, List.sum_cons]
      omega
    next =>
      cases h
      exact ⟨fun _ hv => (List.not_mem_nil hv).elim, Nat.le_refl n⟩

end Wire
