/-
  FlowSdk.Client.Exchanges — lists of exchanges and how they are merged.

  The engine merges lists of exchanges when it connects and when it takes a snapshot: an
  exchange that is listed already keeps its place and takes the later packet.
    1. `mem_ids_mergeEntries`, `nodup_ids_mergeEntries`   the identifiers of a merge
    2. `perm_replayOrder`                                 the replay is a rearrangement
-/
import FlowSdk.Client.Ledger

namespace FlowSdk

open Ledger

namespace Ledger

theorem mem_ids_filter {exchanges : List Exchange} {id i : UInt16} :
    i ∈ ids (exchanges.filter (fun e => e.1 ≠ id)) ↔ i ∈ ids exchanges ∧ i ≠ id := by
  simp only [ids, List.mem_map, List.mem_filter, decide_eq_true_eq]
  constructor
  · rintro ⟨e, ⟨he, hne⟩, rfl⟩
    exact ⟨⟨e, he, rfl⟩, hne⟩
  · rintro ⟨⟨e, he, rfl⟩, hne⟩
    exact ⟨e, ⟨he, hne⟩, rfl⟩

theorem nodup_ids_filter {exchanges : List Exchange} (h : (ids exchanges).Nodup)
    (keep : Exchange → Bool) : (ids (exchanges.filter keep)).Nodup :=
  h.sublist (List.filter_sublist.map _)

theorem ids_append (a b : List Exchange) : ids (a ++ b) = ids a ++ ids b := List.map_append

theorem ids_map_same (exchanges : List Exchange) {f : Exchange → Exchange}
    (h : ∀ e, (f e).1 = e.1) : ids (exchanges.map f) = ids exchanges := by
  rw [ids, List.map_map]
  exact List.map_congr_left fun e _ => h e

theorem mem_ids_of_mem {exchanges : List Exchange} {id : UInt16} {packet : MqttPacket}
    (h : (id, packet) ∈ exchanges) : id ∈ ids exchanges :=
  List.mem_map_of_mem h

end Ledger

/-! ## Merging -/

theorem ids_replaceEntry (entry : Exchange) :
    ∀ list : List Exchange, ids (replaceEntry entry list) = ids list
  | [] => rfl
  | old :: rest => by
    rw [replaceEntry]
    split
    next h => exact congrArg (· :: ids rest) h.1.symm
    next => exact congrArg (old.1 :: ·) (ids_replaceEntry entry rest)

theorem mem_ids_mergeEntry {list : List Exchange} {entry : Exchange} {i : UInt16} :
    i ∈ ids (mergeEntry list entry) ↔ i ∈ ids list ∨ i = entry.1 := by
  rw [mergeEntry]
  split
  next h =>
    rw [ids_replaceEntry]
    constructor
    · exact .inl
    · rintro (hi | rfl)
      · exact hi
      · exact h
  next => simp [ids]

theorem nodup_ids_mergeEntry {list : List Exchange} (entry : Exchange) (h : (ids list).Nodup) :
    (ids (mergeEntry list entry)).Nodup := by
  rw [mergeEntry]
  split
  next => rwa [ids_replaceEntry]
  next hnew =>
    rw [ids_append]
    refine h.append (List.nodup_singleton _) ?_
    intro i hi hlast
    rw [List.mem_singleton.mp hlast] at hi
    exact hnew hi

theorem mem_ids_mergeEntries {i : UInt16} (entries : List Exchange) :
    ∀ list : List Exchange, i ∈ ids (mergeEntries list entries) ↔ i ∈ ids list ∨ i ∈ ids entries := by
  induction entries with
  | nil => simp [mergeEntries, ids]
  | cons entry rest ih =>
    intro list
    rw [mergeEntries, ih, mem_ids_mergeEntry, or_assoc]
    simp [ids]

theorem nodup_ids_mergeEntries (entries : List Exchange) :
    ∀ {list : List Exchange}, (ids list).Nodup → (ids (mergeEntries list entries)).Nodup := by
  induction entries with
  | nil => exact fun h => h
  | cons entry rest ih => exact fun h => ih (nodup_ids_mergeEntry entry h)

theorem perm_replayOrder (previous : List Exchange) :
    (MqttEngine.replayOrder previous).Perm previous := by
  simpa [MqttEngine.replayOrder, Function.comp_def] using
    List.filter_append_perm (fun entry : Exchange => entry.2.isPubRel) previous

end FlowSdk
