/-
  FlowSdk.Client.PriorityList — the queue of publications is a stable priority list.

  The reference keeps the items in the order of their arrival and looks for what it needs: the
  earliest item of the greatest priority to answer, the earliest one of the least priority to
  evict. The queue keeps a map of FIFO levels and a counter. The two stand for the same items
  when their levels agree, and every operation keeps it so.

  Main results:
    1. `Lists.enqueue`, `Lists.dequeue`   the operations keep the representation
    2. `queue_refines`                    no sequence of operations tells the two apart
-/
import FlowSdk.Client.PriorityQueue
import FlowSdk.Machine.Stable

namespace FlowSdk

open Machine

variable {P α : Type} [LinearOrder P]

/-! ## The reference -/

/-- What is stored, in the order of arrival. -/
structure PriorityList (P α : Type) where
  capacity : Nat
  arrivals : List (P × α)

namespace PriorityList

/-- The earliest item of the greatest priority. -/
def peek (l : PriorityList P α) : Option (P × α) :=
  l.arrivals.find? (fun e => Greatest l.arrivals e)

def dequeue (l : PriorityList P α) : Option ((P × α) × PriorityList P α) :=
  l.peek.map (fun entry =>
    (entry, { l with arrivals := l.arrivals.eraseP (fun e => Greatest l.arrivals e) }))

/-- Without the earliest item of the least priority. -/
def evicted (arrivals : List (P × α)) : List (P × α) := arrivals.eraseP (fun e => Least arrivals e)

def enqueue (l : PriorityList P α) (priority : P) (item : α) : PriorityList P α :=
  let arrivals := l.arrivals ++ [(priority, item)]
  { l with arrivals := if arrivals.length > l.capacity then evicted arrivals else arrivals }

/-- By descending priority, and by arrival within a priority. -/
def iter (l : PriorityList P α) : List (P × α) := l.arrivals.insertionSort NotAfter

end PriorityList

/-! ## Sequences of operations -/

inductive QueueOp (P α : Type) where
  | enqueue (priority : P) (item : α)
  | dequeue | peek | iter | len | clear

/-- What an operation answers. -/
inductive QueueAnswer (P α : Type) where
  | done
  | entry (entry : Option (P × α))
  | listing (items : List (P × α))
  | count (n : Nat)

namespace PriorityQueue

def perform (q : PriorityQueue P α) : QueueOp P α → QueueAnswer P α × PriorityQueue P α
  | .enqueue priority item => (.done, q.enqueue priority item)
  | .dequeue =>
    match q.dequeue with
    | some (entry, rest) => (.entry (some entry), rest)
    | none => (.entry none, q)
  | .peek => (.entry q.peek, q)
  | .iter => (.listing q.items, q)
  | .len => (.count q.size, q)
  | .clear => (.done, q.clear)

/-- The answers to a sequence of operations, and the queue after it. -/
def performAll : PriorityQueue P α → List (QueueOp P α) → List (QueueAnswer P α) × PriorityQueue P α
  | q, [] => ([], q)
  | q, op :: ops =>
    let (answer, q) := q.perform op
    let (answers, q) := performAll q ops
    (answer :: answers, q)

end PriorityQueue

namespace PriorityList

def perform (l : PriorityList P α) : QueueOp P α → QueueAnswer P α × PriorityList P α
  | .enqueue priority item => (.done, l.enqueue priority item)
  | .dequeue =>
    match l.dequeue with
    | some (entry, rest) => (.entry (some entry), rest)
    | none => (.entry none, l)
  | .peek => (.entry l.peek, l)
  | .iter => (.listing l.iter, l)
  | .len => (.count l.arrivals.length, l)
  | .clear => (.done, { l with arrivals := [] })

def performAll : PriorityList P α → List (QueueOp P α) → List (QueueAnswer P α) × PriorityList P α
  | l, [] => ([], l)
  | l, op :: ops =>
    let (answer, l) := l.perform op
    let (answers, l) := performAll l ops
    (answer :: answers, l)

theorem capacity_perform (l : PriorityList P α) (op : QueueOp P α) :
    (l.perform op).2.capacity = l.capacity := by
  cases op with
  | dequeue =>
    unfold perform dequeue
    cases l.peek <;> rfl
  | _ => rfl

theorem capacity_performAll (l : PriorityList P α) (ops : List (QueueOp P α)) :
    (l.performAll ops).2.capacity = l.capacity := by
  induction ops generalizing l with
  | nil => rfl
  | cons op ops ih => exact (ih _).trans (capacity_perform l op)

end PriorityList

/-! ## The representation -/

namespace PriorityQueue

/-- The queue stands for the list. -/
structure Lists (q : PriorityQueue P α) (l : PriorityList P α) : Prop where
  capacity : q.capacity = l.capacity
  levels : ∀ k, level k q.items = level k l.arrivals
  size : q.size = l.arrivals.length
  bounded : q.size ≤ q.capacity

variable {q : PriorityQueue P α} {l : PriorityList P α}

theorem descending_flatMap : ∀ map : List (P × List α), (map.map Prod.fst).Pairwise (· > ·) →
    Descending (map.flatMap (fun entry => entry.2.map (fun item => (entry.1, item))))
  | [], _ => .nil
  | (p, items) :: rest, h => by
    obtain ⟨hp, hrest⟩ := List.pairwise_cons.mp h
    refine List.pairwise_append.mpr ⟨?_, descending_flatMap rest hrest, ?_⟩
    · exact List.pairwise_map.mpr (List.pairwise_of_forall fun _ _ => le_refl p)
    · intro a ha b hb
      obtain ⟨item, _, rfl⟩ := List.mem_map.mp ha
      exact le_of_lt (hp b.1 (mem_flatMap_key hb))

theorem items_descending (q : PriorityQueue P α) : Descending q.items :=
  descending_flatMap q.map q.sorted

/-- The lowest level loses its front: the first item of the least priority. -/
theorem flatMap_dropLast : ∀ {map : List (P × List α)}, map ≠ [] →
    (map.map Prod.fst).Pairwise (· > ·) → (∀ entry ∈ map, entry.2 ≠ []) →
    ∃ k, (∀ p ∈ map.map Prod.fst, k ≤ p) ∧ k ∈ map.map Prod.fst ∧
      (dropLast map).flatMap (fun e => e.2.map (fun x => (e.1, x))) =
        (map.flatMap (fun e => e.2.map (fun x => (e.1, x)))).eraseP (fun e => e.1 = k)
  | [], hne, _, _ => absurd rfl hne
  | [(p, items)], _, _, hfilled => by
    obtain ⟨x, items, rfl⟩ := List.exists_cons_of_ne_nil (hfilled _ List.mem_cons_self)
    refine ⟨p, by simp, by simp, ?_⟩
    rw [dropLast, popFront]
    split
    next hnil =>
      have hitems : items = [] := hnil
      simp [hitems]
    next => simp
  | (p, items) :: e :: rest, _, hsorted, hfilled => by
    obtain ⟨hp, hrest⟩ := List.pairwise_cons.mp hsorted
    obtain ⟨k, hleast, hmem, heq⟩ := flatMap_dropLast (List.cons_ne_nil e rest) hrest
      (List.forall_mem_cons.mp hfilled).2
    have hlt : k < p := hp k hmem
    refine ⟨k, ?_, List.mem_cons_of_mem _ hmem, ?_⟩
    · rintro p' (_ | ⟨_, hp'⟩)
      · exact le_of_lt hlt
      · exact hleast p' hp'
    · -- No item of the first level has the least priority.
      have hother : ∀ e ∈ items.map (fun x => (p, x)), ¬ (decide (e.1 = k) = true) := by
        intro e he
        obtain ⟨x, _, rfl⟩ := List.mem_map.mp he
        simpa using ne_of_gt hlt
      rw [dropLast, List.flatMap_cons, List.flatMap_cons, List.eraseP_append_right _ hother, heq]
      exact List.cons_ne_nil _ _

theorem mem_keys_items {p : P} : p ∈ q.map.map Prod.fst ↔ ∃ e ∈ q.items, e.1 = p := by
  constructor
  · intro hp
    obtain ⟨entry, hentry, rfl⟩ := List.mem_map.mp hp
    obtain ⟨x, items, hitems⟩ := List.exists_cons_of_ne_nil (q.filled entry hentry)
    refine ⟨(entry.1, x), List.mem_flatMap.mpr ⟨entry, hentry, ?_⟩, rfl⟩
    rw [hitems]
    exact List.mem_cons_self
  · rintro ⟨e, he, rfl⟩
    exact mem_flatMap_key he

/-- `drop_lowest_priority` of a queue with items. -/
theorem items_dropLowestPriority (h : q.items ≠ []) :
    ∃ k, (∀ e ∈ q.items, k ≤ e.1) ∧ (∃ e ∈ q.items, e.1 = k) ∧
      q.dropLowestPriority.items = q.items.eraseP (fun e => e.1 = k) := by
  have hmap : q.map ≠ [] := by
    intro hnil
    rw [items, hnil] at h
    exact h rfl
  obtain ⟨k, hleast, hmem, heq⟩ := flatMap_dropLast hmap q.sorted q.filled
  exact ⟨k, fun e he => hleast e.1 (mem_flatMap_key he), mem_keys_items.mp hmem, heq⟩

/-! ## The operations -/

theorem Lists.of_new (capacity : Nat) : (new capacity : PriorityQueue P α).Lists ⟨capacity, []⟩ :=
  ⟨rfl, fun _ => rfl, rfl, Nat.zero_le _⟩

theorem level_pushed (q : PriorityQueue P α) (priority : P) (item : α) (k : P) :
    level k (q.pushed priority item).items = level k (q.items ++ [(priority, item)]) := by
  have hitems : (q.pushed priority item).items = q.items.orderedInsert Before (priority, item) :=
    flatMap_pushBack priority item q.map q.sorted q.filled
  rw [hitems, level_append]
  -- The newcomer is inserted behind the items of its own priority.
  have hdescending := items_descending q
  generalize q.items = list at hdescending
  induction list with
  | nil => rfl
  | cons b list ih =>
    obtain ⟨hb, hlist⟩ := List.pairwise_cons.mp hdescending
    rw [List.orderedInsert]
    split
    next hbefore =>
      have hlower : ∀ e ∈ b :: list, e.1 < priority := by
        rintro e (_ | ⟨_, he⟩)
        · exact hbefore
        · exact lt_of_le_of_lt (hb e he) hbefore
      by_cases hk : priority = k
      · subst hk
        have hnil : level priority (b :: list) = [] :=
          List.filter_eq_nil_iff.mpr fun e he => by simpa using ne_of_lt (hlower e he)
        rw [level_cons_self (priority, item), hnil]
        exact (level_cons_self (priority, item) []).symm
      · rw [level_cons_ne (e := (priority, item)) hk, level_cons_ne (e := (priority, item)) hk]
        exact (List.append_nil _).symm
    next =>
      by_cases hk : b.1 = k
      · subst hk
        rw [level_cons_self, level_cons_self, ih hlist]
        rfl
      · rw [level_cons_ne hk, level_cons_ne hk, ih hlist]

theorem Lists.enqueue (h : q.Lists l) (priority : P) (item : α) :
    (q.enqueue priority item).Lists (l.enqueue priority item) := by
  let arrivals := l.arrivals ++ [(priority, item)]
  let pushed := q.pushed priority item
  have hlevels : ∀ k, level k pushed.items = level k arrivals := by
    intro k
    rw [level_pushed, level_append, level_append, h.levels]
  have hsize : pushed.size = arrivals.length := by
    show q.size + 1 = _
    rw [h.size, List.length_append, List.length_singleton]
  by_cases hfull : pushed.size > pushed.capacity
  · have hqueue : q.enqueue priority item = pushed.dropLowestPriority := if_pos hfull
    have hlist : l.enqueue priority item = { l with arrivals := PriorityList.evicted arrivals } := by
      have hover : arrivals.length > l.capacity := by
        rw [← hsize, ← h.capacity]
        exact hfull
      exact congrArg (PriorityList.mk l.capacity) (if_pos hover)
    have hne : pushed.items ≠ [] := by
      intro hnil
      have hlength := items_length pushed
      rw [hnil] at hlength
      exact absurd hlength (Nat.succ_ne_zero q.size).symm
    obtain ⟨k, hkey, ⟨least, hmem, hleast⟩, hitems⟩ := items_dropLowestPriority hne
    have hevicted : PriorityList.evicted arrivals = arrivals.eraseP (fun e => e.1 = k) :=
      eraseP_least (fun e he => hkey e (mem_of_level (fun k => (hlevels k).symm) he))
        ⟨least, mem_of_level hlevels hmem, hleast⟩
    rw [hqueue, hlist]
    refine ⟨h.capacity, fun k' => ?_, ?_, ?_⟩
    · rw [hitems, hevicted]
      exact level_eraseP_eq hlevels k k'
    · show pushed.size - 1 = (PriorityList.evicted arrivals).length
      rw [hevicted, List.length_eraseP_of_mem (mem_of_level hlevels hmem) (decide_eq_true hleast),
        hsize]
    · show q.size + 1 - 1 ≤ q.capacity
      exact h.bounded
  · have hqueue : q.enqueue priority item = pushed := if_neg hfull
    have hlist : l.enqueue priority item = { l with arrivals := arrivals } := by
      have hfits : ¬ arrivals.length > l.capacity := by
        rw [← hsize, ← h.capacity]
        exact hfull
      exact congrArg (PriorityList.mk l.capacity) (if_neg hfits)
    rw [hqueue, hlist]
    exact ⟨h.capacity, hlevels, hsize, not_lt.mp hfull⟩

theorem Lists.peek (h : q.Lists l) : q.peek = l.peek := by
  rw [peek_eq]
  exact (find?_greatest (items_descending q) fun k => (h.levels k).symm).symm

theorem Lists.iter (h : q.Lists l) : q.items = l.iter := by
  refine eq_of_level (items_descending q) (descending_insertionSort _) fun k => ?_
  rw [PriorityList.iter, insertionSort_level, h.levels]

/-- Both queues are empty, or both answer the same item and stand for the same rest. -/
theorem Lists.dequeue (h : q.Lists l) :
    (q.dequeue = none ∧ l.dequeue = none) ∨
      ∃ entry rest rest', q.dequeue = some (entry, rest) ∧ l.dequeue = some (entry, rest') ∧
        rest.Lists rest' := by
  have hpeek : l.peek = q.items.head? := by rw [← h.peek, peek_eq]
  cases hitems : q.items with
  | nil =>
    refine .inl ⟨?_, ?_⟩
    · rw [PriorityQueue.dequeue, peek_eq, hitems]
      exact ite_self _
    · rw [PriorityList.dequeue, hpeek, hitems]
      rfl
  | cons entry tail =>
    refine .inr ⟨entry, q.rest,
      { l with arrivals := l.arrivals.eraseP (fun e => Greatest l.arrivals e) },
      dequeue_of_items hitems, ?_, ?_⟩
    · rw [PriorityList.dequeue, hpeek, hitems]
      rfl
    · have hlevels : ∀ k, level k l.arrivals = level k (entry :: tail) := fun k => by
        rw [← hitems, h.levels]
      have hdescending : Descending (entry :: tail) := hitems ▸ items_descending q
      have hmem : entry ∈ l.arrivals := mem_of_level (fun k => (hlevels k).symm) List.mem_cons_self
      have herase := eraseP_greatest hdescending hlevels
      have htail : (entry :: tail).eraseP (fun e => e.1 = entry.1) = tail :=
        List.eraseP_cons_of_pos (p := fun e : P × α => e.1 = entry.1) (decide_eq_true rfl)
      refine ⟨h.capacity, fun k => ?_, ?_, ?_⟩
      · rw [items_rest, hitems, herase, level_eraseP_eq hlevels, htail]
        rfl
      · show q.size - 1 = (l.arrivals.eraseP _).length
        rw [herase, List.length_eraseP_of_mem hmem (decide_eq_true rfl), h.size]
      · exact le_trans (Nat.sub_le q.size 1) h.bounded

theorem Lists.perform (h : q.Lists l) (op : QueueOp P α) :
    (q.perform op).1 = (l.perform op).1 ∧ (q.perform op).2.Lists (l.perform op).2 := by
  cases op with
  | enqueue priority item => exact ⟨rfl, h.enqueue priority item⟩
  | dequeue =>
    rcases h.dequeue with ⟨hq, hl⟩ | ⟨entry, rest, rest', hq, hl, hrest⟩
    · unfold PriorityQueue.perform PriorityList.perform
      rw [hq, hl]
      exact ⟨rfl, h⟩
    · unfold PriorityQueue.perform PriorityList.perform
      rw [hq, hl]
      exact ⟨rfl, hrest⟩
  | peek => exact ⟨congrArg QueueAnswer.entry h.peek, h⟩
  | iter => exact ⟨congrArg QueueAnswer.listing h.iter, h⟩
  | len => exact ⟨congrArg QueueAnswer.count h.size, h⟩
  | clear => exact ⟨rfl, h.capacity, fun _ => rfl, rfl, Nat.zero_le _⟩

theorem Lists.performAll (h : q.Lists l) (ops : List (QueueOp P α)) :
    (q.performAll ops).1 = (l.performAll ops).1 ∧ (q.performAll ops).2.Lists (l.performAll ops).2 := by
  induction ops generalizing q l with
  | nil => exact ⟨rfl, h⟩
  | cons op ops ih =>
    obtain ⟨hanswer, hlists⟩ := h.perform op
    obtain ⟨hanswers, hlast⟩ := ih hlists
    exact ⟨congrArg₂ List.cons hanswer hanswers, hlast⟩

/-- Whatever the capacity, no sequence of operations tells the queue from the reference list;
its counter is the number of stored items, within the capacity, and no level is empty. -/
theorem queue_refines (capacity : Nat) (ops : List (QueueOp P α)) :
    let queue := (new capacity : PriorityQueue P α).performAll ops
    let list := (⟨capacity, []⟩ : PriorityList P α).performAll ops
    queue.1 = list.1 ∧ queue.2.items = list.2.iter ∧ queue.2.peek = list.2.peek ∧
      queue.2.size = (queue.2.map.map (·.2.length)).sum ∧ queue.2.size = list.2.arrivals.length ∧
      queue.2.size ≤ capacity ∧ ∀ entry ∈ queue.2.map, entry.2 ≠ [] := by
  intro queue list
  obtain ⟨hanswers, hlists⟩ := (Lists.of_new capacity).performAll ops
  have hcapacity : list.2.capacity = capacity := PriorityList.capacity_performAll ⟨capacity, []⟩ ops
  refine ⟨hanswers, hlists.iter, hlists.peek, queue.2.size_eq, hlists.size, ?_, queue.2.filled⟩
  rw [← hcapacity, ← hlists.capacity]
  exact hlists.bounded

end PriorityQueue

end FlowSdk
