/-
  FlowSdk.Machine.Stable — lists of keyed items, up to the order between different keys.

  The level of a key is the sublist of its items. A list in which greater keys come first is
  determined by its levels, so two lists with the same levels have the same stable sort, the
  same first item of the greatest key and the same first item of the least one.

  Main results:
    1. `eq_of_level`            a descending list is determined by its levels
    2. `insertionSort_level`    the stable sort of a list has its levels
    3. `find?_greatest`         the first item of the greatest key
    4. `level_eraseP`           taking the first item of a key
-/
import Mathlib.Data.List.Sort

namespace Machine

variable {K α : Type} [LinearOrder K] {k : K} {l l' : List (K × α)}

/-- The items of a key, in their order. -/
def level (k : K) (l : List (K × α)) : List (K × α) := l.filter (fun e => e.1 = k)

/-- Greater keys come first. -/
def Descending (l : List (K × α)) : Prop := l.Pairwise (fun a b => b.1 ≤ a.1)

/-- No item of the list has a greater key. -/
def Greatest (l : List (K × α)) (e : K × α) : Prop := ∀ other ∈ l, other.1 ≤ e.1

/-- No item of the list has a smaller key. -/
def Least (l : List (K × α)) (e : K × α) : Prop := ∀ other ∈ l, e.1 ≤ other.1

instance (l : List (K × α)) : DecidablePred (Greatest l) :=
  fun e => inferInstanceAs (Decidable (∀ other ∈ l, other.1 ≤ e.1))

instance (l : List (K × α)) : DecidablePred (Least l) :=
  fun e => inferInstanceAs (Decidable (∀ other ∈ l, e.1 ≤ other.1))

theorem mem_level {e : K × α} : e ∈ level k l ↔ e ∈ l ∧ e.1 = k := by
  rw [level, List.mem_filter, decide_eq_true_eq]

theorem level_append (k : K) (l l' : List (K × α)) : level k (l ++ l') = level k l ++ level k l' :=
  List.filter_append _ _

theorem level_cons_self (e : K × α) (l : List (K × α)) : level e.1 (e :: l) = e :: level e.1 l :=
  List.filter_cons_of_pos (decide_eq_true rfl)

theorem level_cons_ne {e : K × α} (h : e.1 ≠ k) (l : List (K × α)) : level k (e :: l) = level k l :=
  List.filter_cons_of_neg (by simpa using h)

/-- Lists with the same levels have the same items. -/
theorem mem_of_level (h : ∀ k, level k l = level k l') {e : K × α} (he : e ∈ l) : e ∈ l' := by
  have hlevel : e ∈ level e.1 l' := by
    rw [← h e.1]
    exact mem_level.mpr ⟨he, rfl⟩
  exact (mem_level.mp hlevel).1

theorem eq_nil_of_level (h : ∀ k, level k l = level k []) : l = [] :=
  List.eq_nil_iff_forall_not_mem.mpr fun _ he => nomatch mem_of_level h he

/-- A descending list is determined by its levels. -/
theorem eq_of_level (hl : Descending l) (hl' : Descending l') (h : ∀ k, level k l = level k l') :
    l = l' := by
  induction l generalizing l' with
  | nil => exact (eq_nil_of_level fun k => (h k).symm).symm
  | cons a l ih =>
    cases l' with
    | nil => exact eq_nil_of_level h
    | cons b l' =>
      obtain ⟨ha, hrest⟩ := List.pairwise_cons.mp hl
      obtain ⟨hb, hrest'⟩ := List.pairwise_cons.mp hl'
      have hab : a.1 ≤ b.1 := by
        rcases List.mem_cons.mp (mem_of_level h List.mem_cons_self) with heq | hmem
        · exact le_of_eq (congrArg Prod.fst heq)
        · exact hb a hmem
      have hba : b.1 ≤ a.1 := by
        rcases List.mem_cons.mp (mem_of_level (fun k => (h k).symm) List.mem_cons_self) with heq | hmem
        · exact le_of_eq (congrArg Prod.fst heq)
        · exact ha b hmem
      have hkey : a.1 = b.1 := le_antisymm hab hba
      -- Both heads lead the level of their common key.
      have hhead := h a.1
      rw [level_cons_self, hkey, level_cons_self] at hhead
      obtain ⟨rfl, -⟩ := List.cons.inj hhead
      refine congrArg (a :: ·) (ih hrest hrest' fun k => ?_)
      by_cases hk : a.1 = k
      · subst hk
        have hlevel := h a.1
        rw [level_cons_self, level_cons_self] at hlevel
        exact (List.cons.inj hlevel).2
      · have hlevel := h k
        rwa [level_cons_ne hk, level_cons_ne hk] at hlevel

/-! ## The stable sort -/

/-- The order of `Descending`, for sorting. -/
def NotAfter (a b : K × α) : Prop := b.1 ≤ a.1

instance : DecidableRel (NotAfter (K := K) (α := α)) := fun a b => inferInstanceAs (Decidable (b.1 ≤ a.1))

instance : Std.Total (NotAfter (K := K) (α := α)) := ⟨fun a b => le_total b.1 a.1⟩

instance : IsTrans (K × α) NotAfter := ⟨fun _ _ _ hab hbc => le_trans hbc hab⟩

theorem descending_insertionSort (l : List (K × α)) : Descending (l.insertionSort NotAfter) :=
  List.pairwise_insertionSort NotAfter l

theorem level_orderedInsert (a : K × α) (l : List (K × α)) :
    level k (l.orderedInsert NotAfter a) = level k (a :: l) := by
  induction l with
  | nil => rfl
  | cons b l ih =>
    rw [List.orderedInsert]
    split
    · rfl
    next hafter =>
      -- The item that stays in front has another key.
      have hne : b.1 ≠ a.1 := fun heq => hafter (le_of_eq heq)
      by_cases hb : b.1 = k
      · subst hb
        rw [level_cons_self, ih, level_cons_ne hne.symm, level_cons_ne hne.symm, level_cons_self]
      · rw [level_cons_ne hb, ih]
        by_cases ha : a.1 = k
        · subst ha
          rw [level_cons_self, level_cons_self, level_cons_ne hb]
        · rw [level_cons_ne ha, level_cons_ne ha, level_cons_ne hb]

theorem insertionSort_level (k : K) (l : List (K × α)) :
    level k (l.insertionSort NotAfter) = level k l := by
  induction l with
  | nil => rfl
  | cons a l ih =>
    rw [List.insertionSort_cons, level_orderedInsert]
    by_cases ha : a.1 = k
    · subst ha
      rw [level_cons_self, level_cons_self, ih]
    · rw [level_cons_ne ha, level_cons_ne ha, ih]

/-! ## The first item of a key -/

theorem level_eraseP (l : List (K × α)) (key : K) :
    level k (l.eraseP (fun e => e.1 = key)) = if key = k then (level k l).tail else level k l := by
  induction l with
  | nil => rw [List.eraseP_nil, level, List.filter_nil, List.tail_nil, ite_self]
  | cons a l ih =>
    by_cases ha : a.1 = key
    · subst ha
      rw [List.eraseP_cons_of_pos (p := fun e : K × α => e.1 = a.1) (decide_eq_true rfl)]
      by_cases hk : a.1 = k
      · subst hk
        rw [if_pos rfl, level_cons_self, List.tail_cons]
      · rw [if_neg hk, level_cons_ne hk]
    · rw [List.eraseP_cons_of_neg (by simpa using ha)]
      by_cases hk : a.1 = k
      · subst hk
        rw [level_cons_self, ih, if_neg (Ne.symm ha), if_neg (Ne.symm ha), level_cons_self]
      · rw [level_cons_ne hk, ih, level_cons_ne hk]

omit [LinearOrder K] in
theorem eraseP_congr {p q : K × α → Bool} (h : ∀ e ∈ l, p e = q e) : l.eraseP p = l.eraseP q := by
  induction l with
  | nil => rfl
  | cons a l ih =>
    obtain ⟨ha, hl⟩ := List.forall_mem_cons.mp h
    rw [List.eraseP_cons, List.eraseP_cons, ha, ih hl]

/-- Taking the first item of a key from two lists with the same levels. -/
theorem level_eraseP_eq (h : ∀ k, level k l = level k l') (key : K) (k : K) :
    level k (l.eraseP (fun e => e.1 = key)) = level k (l'.eraseP (fun e => e.1 = key)) := by
  rw [level_eraseP, level_eraseP, h]

/-- The greatest key of a list, when the list is sorted into another one. -/
theorem greatest_iff {first : K × α} {rest : List (K × α)} (hsorted : Descending (first :: rest))
    (h : ∀ k, level k l = level k (first :: rest)) {e : K × α} (he : e ∈ l) :
    Greatest l e ↔ e.1 = first.1 := by
  have hfirst : ∀ other ∈ l, other.1 ≤ first.1 := by
    intro other hother
    rcases List.mem_cons.mp (mem_of_level h hother) with rfl | hmem
    · exact le_refl _
    · exact (List.pairwise_cons.mp hsorted).1 other hmem
  constructor
  · intro hgreatest
    have hmem : first ∈ l := mem_of_level (fun k => (h k).symm) List.mem_cons_self
    exact le_antisymm (hfirst e he) (hgreatest first hmem)
  · intro heq other hother
    rw [heq]
    exact hfirst other hother

theorem find?_greatest (hsorted : Descending l') (h : ∀ k, level k l = level k l') :
    l.find? (fun e => Greatest l e) = l'.head? := by
  cases l' with
  | nil =>
    rw [eq_nil_of_level h]
    rfl
  | cons first rest =>
    have hlevel : l.filter (fun e => Greatest l e) = level first.1 l :=
      List.filter_congr fun e he => by rw [decide_eq_decide, greatest_iff hsorted h he]
    rw [← List.head?_filter, hlevel, h, level_cons_self]
    rfl

theorem eraseP_greatest {first : K × α} {rest : List (K × α)} (hsorted : Descending (first :: rest))
    (h : ∀ k, level k l = level k (first :: rest)) :
    l.eraseP (fun e => Greatest l e) = l.eraseP (fun e => e.1 = first.1) :=
  eraseP_congr fun e he => by rw [decide_eq_decide, greatest_iff hsorted h he]

/-- The least key of a list. -/
theorem eraseP_least (hkey : ∀ e ∈ l, k ≤ e.1) (hmem : ∃ e ∈ l, e.1 = k) :
    l.eraseP (fun e => Least l e) = l.eraseP (fun e => e.1 = k) := by
  refine eraseP_congr fun e he => ?_
  rw [decide_eq_decide]
  constructor
  · intro hleast
    obtain ⟨least, hin, rfl⟩ := hmem
    exact le_antisymm (hleast least hin) (hkey e he)
  · intro heq other hother
    rw [heq]
    exact hkey other hother

end Machine
