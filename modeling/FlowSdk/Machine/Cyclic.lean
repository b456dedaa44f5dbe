/-
  FlowSdk.Machine.Cyclic — the search for a free name along a cycle.

  A counter moves to its next value and takes it, unless it is in use; then it moves on, for
  as many turns as there are names. The search answers the first free value of the orbit, and
  it finds one if fewer names are in use than the orbit has values.

  `successor` is a counter of 16 bits without zero: 1 to 65535, then 1 again.
-/
import Mathlib.Data.Finset.Card
import Mathlib.Logic.Function.Iterate
import Mathlib.Order.Interval.Finset.Nat

namespace Machine

variable {α : Type} {next : α → α} {taken : α → Bool}

/-- The first value after `a` that is free, and where the counter stops. -/
def searchFree (next : α → α) (taken : α → Bool) : Nat → α → Option α × α
  | 0, a => (none, a)
  | fuel + 1, a =>
    if taken (next a) then searchFree next taken fuel (next a) else (some (next a), next a)

theorem searchFree_some {fuel : Nat} {a b : α} (h : (searchFree next taken fuel a).1 = some b) :
    (searchFree next taken fuel a).2 = b ∧ taken b = false ∧ ∃ k < fuel, b = next^[k + 1] a ∧
      ∀ j < k, taken (next^[j + 1] a) = true := by
  induction fuel generalizing a with
  | zero => cases h
  | succ fuel ih =>
    rw [searchFree] at h ⊢
    by_cases htaken : taken (next a) = true
    · rw [if_pos htaken] at h ⊢
      obtain ⟨hstop, hfree, k, hk, heq, hbefore⟩ := ih h
      refine ⟨hstop, hfree, k + 1, Nat.succ_lt_succ hk, heq, fun j hj => ?_⟩
      cases j with
      | zero => exact htaken
      | succ j => exact hbefore j (Nat.lt_of_succ_lt_succ hj)
    · rw [if_neg htaken] at h ⊢
      cases h
      exact ⟨rfl, Bool.eq_false_iff.mpr htaken, 0, Nat.zero_lt_succ _, rfl, fun j hj => by cases hj⟩

theorem searchFree_none {fuel : Nat} {a : α} (h : (searchFree next taken fuel a).1 = none) :
    ∀ k < fuel, taken (next^[k + 1] a) = true := by
  induction fuel generalizing a with
  | zero => exact fun k hk => by cases hk
  | succ fuel ih =>
    rw [searchFree] at h
    by_cases htaken : taken (next a) = true
    · rw [if_pos htaken] at h
      intro k hk
      cases k with
      | zero => exact htaken
      | succ k => exact ih h k (Nat.lt_of_succ_lt_succ hk)
    · rw [if_neg htaken] at h
      cases h

/-- Fewer names are in use than the orbit has values: the search succeeds. -/
theorem searchFree_isSome [DecidableEq α] {fuel : Nat} {a : α} {used : Finset α}
    (hused : ∀ b, taken b = true → b ∈ used)
    (horbit : ∀ j < fuel, ∀ k < fuel, next^[j + 1] a = next^[k + 1] a → j = k)
    (hroom : used.card < fuel) : ((searchFree next taken fuel a).1).isSome = true := by
  by_contra hnone
  have hall := searchFree_none (Option.not_isSome_iff_eq_none.mp hnone)
  have hsub : (Finset.range fuel).image (fun k => next^[k + 1] a) ⊆ used := by
    intro b hb
    obtain ⟨k, hk, rfl⟩ := Finset.mem_image.mp hb
    exact hused _ (hall k (Finset.mem_range.mp hk))
  have hcard : ((Finset.range fuel).image (fun k => next^[k + 1] a)).card = fuel := by
    rw [Finset.card_image_of_injOn, Finset.card_range]
    intro j hj k hk heq
    exact horbit j (Finset.mem_range.mp hj) k (Finset.mem_range.mp hk) heq
  exact Nat.not_le.mpr hroom (hcard ▸ Finset.card_le_card hsub)

/-! ## A counter of 16 bits -/

/-- One more, and 1 after the last value. -/
def successor (a : UInt16) : UInt16 := if a = 65535 then 1 else a + 1

theorem toNat_successor (a : UInt16) : (successor a).toNat = a.toNat % 65535 + 1 := by
  rw [successor]
  have hlt := a.toNat_lt
  split
  next h =>
    subst h
    rfl
  next h =>
    have hne : a.toNat ≠ 65535 := fun heq => h (UInt16.toNat_inj.mp heq)
    rw [UInt16.toNat_add, Nat.mod_eq_of_lt (show a.toNat < 65535 by omega)]
    exact Nat.mod_eq_of_lt (show a.toNat + 1 < 2 ^ 16 by omega)

theorem successor_ne_zero (a : UInt16) : successor a ≠ 0 := by
  intro h
  have hzero := congrArg UInt16.toNat h
  rw [toNat_successor] at hzero
  cases hzero

theorem toNat_successor_iterate (k : Nat) (a : UInt16) :
    (successor^[k + 1] a).toNat = (a.toNat + k) % 65535 + 1 := by
  induction k generalizing a with
  | zero => exact toNat_successor a
  | succ k ih =>
    rw [Function.iterate_succ_apply, ih, toNat_successor]
    congr 1
    omega

theorem successor_orbit (a : UInt16) : ∀ j < 65535, ∀ k < 65535,
    successor^[j + 1] a = successor^[k + 1] a → j = k := by
  intro j hj k hk h
  have hnat := congrArg UInt16.toNat h
  rw [toNat_successor_iterate, toNat_successor_iterate] at hnat
  omega

/-- Every value but zero is met once in a turn. -/
theorem exists_successor_iterate (a : UInt16) {b : UInt16} (hb : b ≠ 0) :
    ∃ k < 65535, successor^[k + 1] a = b := by
  have hpos : b.toNat ≠ 0 := fun h => hb (UInt16.toNat_inj.mp h)
  have hlt := b.toNat_lt
  refine ⟨(b.toNat + 65534 - a.toNat % 65535) % 65535, Nat.mod_lt _ (by decide), ?_⟩
  apply UInt16.toNat_inj.mp
  rw [toNat_successor_iterate]
  omega

end Machine
