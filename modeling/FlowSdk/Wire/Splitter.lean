/-
  FlowSdk.Wire.Splitter — cutting a stream into items, whatever the chunks it comes in.

  A splitter looks at the unread part of a stream and answers an item with the number of
  symbols it takes, a failure, or that it needs more. It is stable when an answer stays the
  same however the stream goes on. For a stable splitter the items, and the failure if there
  is one, do not depend on where the stream was cut into chunks.

  Main results:
    1. `Drains.append`      draining in two rounds is draining once
    2. `Feeds.drains`       feeding chunk by chunk is draining the concatenation
-/
import Mathlib.Data.List.Basic

namespace Wire

variable {ε α β : Type}

/-- A function from the unread part of a stream to an item and its length, to `none` when
the stream has to go on first, or to a failure. -/
abbrev Splitter (ε α β : Type) := List β → Except ε (Option (α × Nat))

/-- No answer depends on what follows, and an item takes at least one symbol and no more
than there are. -/
structure Stable (split : Splitter ε α β) : Prop where
  item_append : ∀ {b : List β} {a : α} {n : Nat}, split b = .ok (some (a, n)) →
    ∀ c, split (b ++ c) = .ok (some (a, n))
  error_append : ∀ {b : List β} {e : ε}, split b = .error e → ∀ c, split (b ++ c) = .error e
  item_pos : ∀ {b : List β} {a : α} {n : Nat}, split b = .ok (some (a, n)) → 0 < n
  item_le : ∀ {b : List β} {a : α} {n : Nat}, split b = .ok (some (a, n)) → n ≤ b.length

/-- `Drains split b items failure rest`: taking items from `b` for as long as there are any
yields `items`, ends with `failure` if one occurs, and leaves `rest`. -/
inductive Drains (split : Splitter ε α β) : List β → List α → Option ε → List β → Prop where
  | stop {b : List β} (h : split b = .ok none) : Drains split b [] none b
  | fail {b : List β} {e : ε} (h : split b = .error e) : Drains split b [] (some e) b
  | item {b : List β} {a : α} {n : Nat} {items : List α} {failure : Option ε} {rest : List β}
      (h : split b = .ok (some (a, n))) (hrest : Drains split (b.drop n) items failure rest) :
      Drains split b (a :: items) failure rest

namespace Drains

variable {split : Splitter ε α β} {b c rest rest' : List β} {items items' : List α}
  {failure failure' : Option ε}

/-- What is left when no failure occurred holds no further item. -/
theorem rest_none (h : Drains split b items none rest) : split rest = .ok none := by
  generalize hf : (none : Option ε) = f at h
  induction h with
  | stop h => exact h
  | fail h => cases hf
  | item h hrest ih => exact ih hf

theorem functional (h : Drains split b items failure rest)
    (h' : Drains split b items' failure' rest') :
    items = items' ∧ failure = failure' ∧ rest = rest' := by
  induction h generalizing items' with
  | stop h =>
    cases h' with
    | stop h' => exact ⟨rfl, rfl, rfl⟩
    | fail h' => rw [h] at h'; cases h'
    | item h' _ => rw [h] at h'; cases h'
  | fail h =>
    cases h' with
    | stop h' => rw [h] at h'; cases h'
    | fail h' => rw [h] at h'; cases h'; exact ⟨rfl, rfl, rfl⟩
    | item h' _ => rw [h] at h'; cases h'
  | item h hrest ih =>
    cases h' with
    | stop h' => rw [h] at h'; cases h'
    | fail h' => rw [h] at h'; cases h'
    | item h' hrest' =>
      rw [h] at h'
      cases h'
      obtain ⟨rfl, rfl, rfl⟩ := ih hrest'
      exact ⟨rfl, rfl, rfl⟩

/-- Draining what came first and then the rest with what came later is draining at once. -/
theorem append (hs : Stable split) (h : Drains split b items none rest)
    (h' : Drains split (rest ++ c) items' failure rest') :
    Drains split (b ++ c) (items ++ items') failure rest' := by
  generalize hf : (none : Option ε) = f at h
  induction h with
  | stop h => exact h'
  | fail h => cases hf
  | item h hrest ih =>
    refine .item (hs.item_append h c) ?_
    rw [List.drop_append_of_le_length (hs.item_le h)]
    exact ih h' hf

/-- After a failure it does not matter what comes later. -/
theorem append_of_failure (hs : Stable split) {e : ε} (h : Drains split b items (some e) rest) :
    Drains split (b ++ c) items (some e) (rest ++ c) := by
  generalize hf : some e = f at h ⊢
  induction h with
  | stop h => cases hf
  | fail h => exact .fail (hs.error_append h c)
  | item h hrest ih =>
    refine .item (hs.item_append h c) ?_
    rw [List.drop_append_of_le_length (hs.item_le h)]
    exact ih hf

end Drains

/-- `Feeds split b chunks items failure rest`: with `b` unread, the chunks are appended one
after the other and the stream is drained after each, up to the first failure. -/
inductive Feeds (split : Splitter ε α β) :
    List β → List (List β) → List α → Option ε → List β → Prop where
  | done {b : List β} : Feeds split b [] [] none b
  | fail {b c : List β} {chunks : List (List β)} {items : List α} {e : ε} {rest : List β}
      (h : Drains split (b ++ c) items (some e) rest) :
      Feeds split b (c :: chunks) items (some e) rest
  | next {b c : List β} {chunks : List (List β)} {items items' : List α} {failure : Option ε}
      {rest rest' : List β} (h : Drains split (b ++ c) items none rest)
      (hrest : Feeds split rest chunks items' failure rest') :
      Feeds split b (c :: chunks) (items ++ items') failure rest'

/-- The chunks only matter through their concatenation, and when nothing failed what is left
is the same too. -/
theorem Feeds.drains {split : Splitter ε α β} (hs : Stable split) {b : List β}
    {chunks : List (List β)} {items : List α} {failure : Option ε} {rest : List β}
    (h : Feeds split b chunks items failure rest) (hb : split b = .ok none) :
    ∃ rest', Drains split (b ++ chunks.flatten) items failure rest' ∧
      (failure = none → rest' = rest) := by
  induction h with
  | done => exact ⟨_, by rw [List.flatten_nil, List.append_nil]; exact .stop hb, fun _ => rfl⟩
  | fail h =>
    rw [List.flatten_cons, ← List.append_assoc]
    exact ⟨_, h.append_of_failure hs, fun hf => nomatch hf⟩
  | next h hrest ih =>
    obtain ⟨rest', hdrains, heq⟩ := ih h.rest_none
    rw [List.flatten_cons, ← List.append_assoc]
    exact ⟨rest', h.append hs hdrains, heq⟩

end Wire
