/-
  FlowSdk.Client.PriorityQueue — the bounded queue of publications waiting to be sent.

  The ordered map from a priority to its FIFO level is a list of levels, highest priority
  first. The fields of the structure say what the map guarantees: the priorities decrease,
  no level is empty, and `size` counts the items.

  What the engine relies on is the list `items` in the order of `iter`:
    1. `items_enqueue`      below the capacity, `enqueue` is a stable insertion
    2. `dequeue_of_items`   `dequeue` takes the head
    3. `peek_eq`            `peek` reads it
-/
import Mathlib.Algebra.GroupWithZero.Nat
import Mathlib.Data.List.Sort

namespace FlowSdk

variable {P α : Type}

structure PriorityQueue (P α : Type) [LinearOrder P] where
  map : List (P × List α)
  capacity : Nat
  size : Nat
  sorted : (map.map Prod.fst).Pairwise (· > ·)
  filled : ∀ level ∈ map, level.2 ≠ []
  size_eq : size = (map.map (·.2.length)).sum

namespace PriorityQueue

/-! ## The levels -/

/-- Take the front of the first level, and the level with it when it was the only item. -/
def popFront : List (P × List α) → List (P × List α)
  | [] => []
  | (p, level) :: rest => if level.tail = [] then rest else (p, level.tail) :: rest

/-- Take the front of the last level. -/
def dropLast : List (P × List α) → List (P × List α)
  | [] => []
  | [entry] => popFront [entry]
  | entry :: rest => entry :: dropLast rest

def count (map : List (P × List α)) : Nat := (map.map (·.2.length)).sum

theorem keys_popFront_sublist (map : List (P × List α)) :
    ((popFront map).map Prod.fst).Sublist (map.map Prod.fst) := by
  cases map with
  | nil => exact .slnil
  | cons entry rest =>
    rw [popFront]
    split
    · exact .cons _ (.refl _)
    · exact .refl _

theorem popFront_filled {map : List (P × List α)} (h : ∀ level ∈ map, level.2 ≠ []) :
    ∀ level ∈ popFront map, level.2 ≠ [] := by
  cases map with
  | nil => exact h
  | cons entry rest =>
    rw [popFront]
    split
    next => exact (List.forall_mem_cons.mp h).2
    next hne => exact List.forall_mem_cons.mpr ⟨hne, (List.forall_mem_cons.mp h).2⟩

theorem count_popFront {map : List (P × List α)} (h : ∀ level ∈ map, level.2 ≠ []) :
    count (popFront map) = count map - 1 := by
  cases map with
  | nil => rfl
  | cons entry rest =>
    obtain ⟨p, level⟩ := entry
    obtain ⟨item, level, rfl⟩ := List.exists_cons_of_ne_nil (h _ List.mem_cons_self)
    rw [popFront]
    split
    next hnil =>
      have hlevel : level = [] := hnil
      simp [count, hlevel]
    next => simp [count]

theorem keys_dropLast_sublist :
    ∀ map : List (P × List α), ((dropLast map).map Prod.fst).Sublist (map.map Prod.fst)
  | [] => .slnil
  | [entry] => keys_popFront_sublist [entry]
  | _ :: e :: rest => (keys_dropLast_sublist (e :: rest)).cons_cons _

theorem dropLast_filled : ∀ {map : List (P × List α)}, (∀ level ∈ map, level.2 ≠ []) →
    ∀ level ∈ dropLast map, level.2 ≠ []
  | [], h => h
  | [_], h => popFront_filled h
  | _ :: _ :: _, h =>
    List.forall_mem_cons.mpr ⟨(List.forall_mem_cons.mp h).1,
      dropLast_filled (List.forall_mem_cons.mp h).2⟩

theorem count_dropLast : ∀ {map : List (P × List α)}, (∀ level ∈ map, level.2 ≠ []) →
    count (dropLast map) = count map - 1
  | [], _ => rfl
  | [_], h => count_popFront h
  | entry :: e :: rest, h => by
    have hrest := (List.forall_mem_cons.mp h).2
    have ih := count_dropLast hrest
    have hpos : 0 < count (e :: rest) := by
      have := List.length_pos_of_ne_nil (hrest e List.mem_cons_self)
      simp only [count, List.map_cons, List.sum_cons]
      omega
    simp only [dropLast]
    simp only [count, List.map_cons, List.sum_cons] at ih hpos ⊢
    omega

theorem mem_flatMap_key {map : List (P × List α)} {e : P × α}
    (h : e ∈ map.flatMap (fun entry => entry.2.map (fun item => (entry.1, item)))) :
    e.1 ∈ map.map Prod.fst := by
  obtain ⟨entry, hentry, he⟩ := List.mem_flatMap.mp h
  obtain ⟨item, _, rfl⟩ := List.mem_map.mp he
  exact List.mem_map_of_mem hentry

variable [LinearOrder P]

/-- `map.entry(priority).or_default().push_back(item)`. -/
def pushBack (priority : P) (item : α) : List (P × List α) → List (P × List α)
  | [] => [(priority, [item])]
  | (p, level) :: rest =>
    if priority = p then (p, level ++ [item]) :: rest
    else if p < priority then (priority, [item]) :: (p, level) :: rest
    else (p, level) :: pushBack priority item rest

theorem mem_keys_pushBack {priority k : P} {item : α} (map : List (P × List α)) :
    k ∈ (pushBack priority item map).map Prod.fst ↔ k = priority ∨ k ∈ map.map Prod.fst := by
  induction map with
  | nil => simp [pushBack]
  | cons entry rest ih =>
    obtain ⟨p, level⟩ := entry
    rw [pushBack]
    split
    · subst priority
      simp
    · split
      · simp
      · simp only [List.map_cons, List.mem_cons, ih]
        exact or_left_comm

theorem pushBack_sorted (priority : P) (item : α) :
    ∀ map : List (P × List α), (map.map Prod.fst).Pairwise (· > ·) →
      ((pushBack priority item map).map Prod.fst).Pairwise (· > ·)
  | [], _ => by simp [pushBack]
  | (p, level) :: rest, h => by
    obtain ⟨hp, hrest⟩ := List.pairwise_cons.mp h
    rw [pushBack]
    split
    · exact h
    · split
      next hne hlt =>
        refine List.pairwise_cons.mpr ⟨?_, h⟩
        rintro k (_ | ⟨_, hk⟩)
        · exact hlt
        · exact lt_trans (hp k hk) hlt
      next hne hle =>
        refine List.pairwise_cons.mpr ⟨?_, pushBack_sorted priority item rest hrest⟩
        intro k hk
        rcases (mem_keys_pushBack rest).mp hk with rfl | hk
        · exact lt_of_le_of_ne (not_lt.mp hle) hne
        · exact hp k hk

theorem pushBack_filled (priority : P) (item : α) :
    ∀ map : List (P × List α), (∀ level ∈ map, level.2 ≠ []) →
      ∀ level ∈ pushBack priority item map, level.2 ≠ []
  | [], _ => by simp [pushBack]
  | (p, level) :: rest, h => by
    obtain ⟨hp, hrest⟩ := List.forall_mem_cons.mp h
    rw [pushBack]
    split
    · exact List.forall_mem_cons.mpr ⟨by simp, hrest⟩
    · split
      · exact List.forall_mem_cons.mpr ⟨by simp, h⟩
      · exact List.forall_mem_cons.mpr ⟨hp, pushBack_filled priority item rest hrest⟩

theorem count_pushBack (priority : P) (item : α) (map : List (P × List α)) :
    count (pushBack priority item map) = count map + 1 := by
  induction map with
  | nil => simp [pushBack, count]
  | cons entry rest ih =>
    obtain ⟨p, level⟩ := entry
    rw [pushBack]
    split
    · simp [count]
      omega
    · split
      · simp [count]
        omega
      · simp only [count, List.map_cons, List.sum_cons] at ih ⊢
        omega

/-! ## The operations -/

def new (capacity : Nat) : PriorityQueue P α :=
  ⟨[], capacity, 0, .nil, fun _ h => (by cases h), rfl⟩

def pushed (q : PriorityQueue P α) (priority : P) (item : α) : PriorityQueue P α :=
  ⟨pushBack priority item q.map, q.capacity, q.size + 1, pushBack_sorted _ _ _ q.sorted,
    pushBack_filled _ _ _ q.filled, by rw [q.size_eq]; exact (count_pushBack _ _ _).symm⟩

def dropLowestPriority (q : PriorityQueue P α) : PriorityQueue P α :=
  ⟨dropLast q.map, q.capacity, q.size - 1, q.sorted.sublist (keys_dropLast_sublist _),
    dropLast_filled q.filled, by rw [q.size_eq]; exact (count_dropLast q.filled).symm⟩

def enqueue (q : PriorityQueue P α) (priority : P) (item : α) : PriorityQueue P α :=
  let q := q.pushed priority item
  if q.size > q.capacity then q.dropLowestPriority else q

def peek (q : PriorityQueue P α) : Option (P × α) :=
  match q.map with
  | [] => none
  | (priority, level) :: _ => level.head?.map (fun item => (priority, item))

/-- `dequeue`, without the returned item, which is the one `peek` answers. -/
def rest (q : PriorityQueue P α) : PriorityQueue P α :=
  ⟨popFront q.map, q.capacity, q.size - 1, q.sorted.sublist (keys_popFront_sublist _),
    popFront_filled q.filled, by rw [q.size_eq]; exact (count_popFront q.filled).symm⟩

def dequeue (q : PriorityQueue P α) : Option ((P × α) × PriorityQueue P α) :=
  if q.size = 0 then none else q.peek.map (fun entry => (entry, q.rest))

/-- `iter`: by descending priority, and by arrival within a priority. -/
def items (q : PriorityQueue P α) : List (P × α) :=
  q.map.flatMap (fun entry => entry.2.map (fun item => (entry.1, item)))

/-- `iter_mut` with a function applied to every item. -/
def modify (q : PriorityQueue P α) (f : α → α) : PriorityQueue P α :=
  ⟨q.map.map (fun entry => (entry.1, entry.2.map f)), q.capacity, q.size,
    by simpa [List.map_map, Function.comp_def] using q.sorted,
    by
      intro level h
      obtain ⟨entry, hentry, rfl⟩ := List.mem_map.mp h
      simpa using q.filled entry hentry,
    by simpa [List.map_map, Function.comp_def] using q.size_eq⟩

def clear (q : PriorityQueue P α) : PriorityQueue P α := new q.capacity

/-! ## The queue as a list -/

/-- A newcomer goes right before the first item of a smaller priority. -/
def Before (a b : P × α) : Prop := b.1 < a.1

instance : DecidableRel (Before (P := P) (α := α)) := fun a b => inferInstanceAs (Decidable (b.1 < a.1))

theorem orderedInsert_level (priority p : P) (item : α) (level : List α) (rest : List (P × α))
    (h : ¬ p < priority) :
    List.orderedInsert Before (priority, item) (level.map (fun x => (p, x)) ++ rest) =
      level.map (fun x => (p, x)) ++ List.orderedInsert Before (priority, item) rest := by
  induction level with
  | nil => rfl
  | cons x level ih =>
    simp only [List.map_cons, List.cons_append, List.orderedInsert]
    rw [if_neg (show ¬ Before (priority, item) (p, x) from h), ih]

theorem orderedInsert_lower (priority : P) (item : α) (rest : List (P × α))
    (h : ∀ e ∈ rest, e.1 < priority) :
    List.orderedInsert Before (priority, item) rest = (priority, item) :: rest := by
  cases rest with
  | nil => rfl
  | cons e rest => exact if_pos (h e List.mem_cons_self)

theorem items_new (capacity : Nat) : (new capacity : PriorityQueue P α).items = [] := rfl

theorem flatMap_pushBack (priority : P) (item : α) :
    ∀ map : List (P × List α), (map.map Prod.fst).Pairwise (· > ·) →
      (∀ level ∈ map, level.2 ≠ []) →
      (pushBack priority item map).flatMap (fun e => e.2.map (fun x => (e.1, x))) =
        List.orderedInsert Before (priority, item)
          (map.flatMap (fun e => e.2.map (fun x => (e.1, x))))
  | [], _, _ => rfl
  | (p, level) :: rest, hsorted, hfilled => by
    obtain ⟨hp, hrest⟩ := List.pairwise_cons.mp hsorted
    obtain ⟨hlevel, hfilled⟩ := List.forall_mem_cons.mp hfilled
    rw [pushBack]
    split
    next heq =>
      subst heq
      rw [List.flatMap_cons, List.flatMap_cons, orderedInsert_level _ _ _ _ _ (lt_irrefl _),
        orderedInsert_lower _ _ _ (fun e he => hp _ (mem_flatMap_key he))]
      simp
    next hne =>
      split
      next hlt =>
        obtain ⟨x, level, rfl⟩ := List.exists_cons_of_ne_nil hlevel
        exact (if_pos hlt).symm
      next hle =>
        rw [List.flatMap_cons, List.flatMap_cons, orderedInsert_level _ _ _ _ _ hle,
          flatMap_pushBack priority item rest hrest hfilled]

/-- Below the capacity nothing is evicted and the newcomer is inserted stably. -/
theorem items_enqueue {q : PriorityQueue P α} (h : q.size < q.capacity) (priority : P) (item : α) :
    (q.enqueue priority item).items = List.orderedInsert Before (priority, item) q.items := by
  have hpush : q.enqueue priority item = q.pushed priority item := by
    rw [enqueue]
    exact if_neg (by show ¬ q.size + 1 > q.capacity; omega)
  rw [hpush]
  exact flatMap_pushBack priority item q.map q.sorted q.filled

theorem enqueue_size {q : PriorityQueue P α} (h : q.size < q.capacity) (priority : P) (item : α) :
    (q.enqueue priority item).size = q.size + 1 := by
  rw [enqueue]
  rw [if_neg (by show ¬ q.size + 1 > q.capacity; omega)]
  rfl

@[simp] theorem enqueue_capacity (q : PriorityQueue P α) (priority : P) (item : α) :
    (q.enqueue priority item).capacity = q.capacity := by
  rw [enqueue]
  split <;> rfl

theorem items_length (q : PriorityQueue P α) : q.items.length = q.size := by
  rw [q.size_eq, items, List.length_flatMap]
  simp

theorem peek_eq (q : PriorityQueue P α) : q.peek = q.items.head? := by
  rcases hmap : q.map with _ | ⟨⟨p, level⟩, rest⟩
  · simp [peek, items, hmap]
  · obtain ⟨x, level, rfl⟩ := List.exists_cons_of_ne_nil (q.filled (p, level) (by simp [hmap]))
    simp [peek, items, hmap]

theorem items_rest (q : PriorityQueue P α) : q.rest.items = q.items.tail := by
  rcases hmap : q.map with _ | ⟨⟨p, level⟩, rest⟩
  · simp [PriorityQueue.rest, items, hmap, popFront]
  · obtain ⟨x, level, rfl⟩ := List.exists_cons_of_ne_nil (q.filled (p, level) (by simp [hmap]))
    simp only [PriorityQueue.rest, items, hmap, popFront, List.flatMap_cons]
    split
    next hnil =>
      have hlevel : level = [] := hnil
      simp [hlevel]
    next => simp

theorem dequeue_of_items {q : PriorityQueue P α} {entry : P × α} {tail : List (P × α)}
    (h : q.items = entry :: tail) : q.dequeue = some (entry, q.rest) := by
  have hsize : q.size ≠ 0 := by
    rw [← items_length, h]
    simp
  rw [dequeue, if_neg hsize, peek_eq, h]
  rfl

theorem items_modify (q : PriorityQueue P α) (f : α → α) :
    (q.modify f).items = q.items.map (fun e => (e.1, f e.2)) := by
  simp [items, modify, List.flatMap_map, List.map_flatMap, Function.comp_def]

end PriorityQueue

end FlowSdk
