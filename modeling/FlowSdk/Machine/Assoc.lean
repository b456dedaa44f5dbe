/-
  FlowSdk.Machine.Assoc — a filtered map.

  `retain` keeps the entries of an association list that satisfy a test; looking a key up
  afterwards is looking it up before and testing the value found.
-/
import Mathlib.Data.List.AList

namespace Machine

variable {α β : Type} [DecidableEq α]

def retain (keep : α → β → Bool) (m : AList (fun _ : α => β)) : AList (fun _ : α => β) :=
  ⟨m.entries.filter (fun s => keep s.1 s.2), by
    have hsub : (m.entries.filter (fun s => keep s.1 s.2)).Sublist m.entries :=
      List.filter_sublist
    exact m.nodupKeys.sublist hsub⟩

theorem lookup_retain (keep : α → β → Bool) (m : AList (fun _ : α => β)) (a : α) :
    (retain keep m).lookup a = (m.lookup a).filter (keep a) := by
  ext b
  rw [Option.filter_eq_some_iff]
  have hnodup := m.nodupKeys
  constructor
  · intro h
    have hmem := (List.mem_dlookup_iff (retain keep m).nodupKeys).mp h
    obtain ⟨hin, hkeep⟩ := List.mem_filter.mp hmem
    exact ⟨(List.mem_dlookup_iff hnodup).mpr hin, hkeep⟩
  · rintro ⟨h, hkeep⟩
    have hin := (List.mem_dlookup_iff hnodup).mp h
    exact (List.mem_dlookup_iff (retain keep m).nodupKeys).mpr (List.mem_filter.mpr ⟨hin, hkeep⟩)

end Machine
