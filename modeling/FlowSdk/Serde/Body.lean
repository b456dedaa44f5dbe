/-
  FlowSdk.Serde.Body — the places in the body of a whole frame.

  On a whole frame the decoders find the body at an offset they have computed, and read it to
  the end of the frame. The lemmas give the outcome of each way to take a slice at a place whose
  rest is known.

  Main results:
    1. `IsFrame.hasBody`       where the body of a frame is
    2. `getRange_to_end`, `indexRange_to_end`, `indexU16_place`
-/
import FlowSdk.Serde.Frame
import FlowSdk.Serde.FrameLocal

namespace FlowSdk

open Wire

section Places

variable {f rest : Bytes} {n : Nat}

/-- The bytes up to the end of the frame. -/
theorem getRange_to_end (h : At f n rest) : getRange f n f.length = .ok rest := by
  rw [getRange, sliceRange_to_length h.le, h.drop_eq, Decode.okOr_some]

theorem indexRange_to_end (h : At f n rest) : indexRange f n f.length = .ok rest := by
  rw [indexRange, sliceRange_to_length h.le, h.drop_eq, Decode.index_some]

theorem index_eq_ok {α : Type} {x : Option α} {a : α} : Decode.index x = .ok a ↔ x = some a := by
  cases x with
  | none => exact ⟨(fun h => nomatch h), (fun h => nomatch h)⟩
  | some b => exact ⟨fun h => congrArg some (Except.ok.inj h), fun h => congrArg _ h⟩

theorem indexRange_length {data : Bytes} (h : indexRange f n f.length = .ok data) :
    n + data.length = f.length := by
  have hslice := index_eq_ok.mp h
  unfold sliceRange at hslice
  split at hslice
  next hrange =>
    cases hslice
    rw [List.take_length, List.length_drop]
    omega
  next => cases hslice

theorem indexU16_place {id : UInt16} (h : At f n rest) :
    indexU16 f n = .ok id ↔ TwoByteInteger.decode rest = .ok (id, 2) := by
  have hget : ∀ i, f[n + i]? = rest[i]? := by
    intro i
    rw [← h.drop_eq, List.getElem?_drop]
  have hfirst : f[n]? = rest[0]? := hget 0
  unfold indexU16
  rw [hfirst, hget 1]
  rcases rest with _ | ⟨a, _ | ⟨b, rest⟩⟩
  · exact ⟨(fun h => nomatch h), (fun h => nomatch h)⟩
  · exact ⟨(fun h => nomatch h), (fun h => nomatch h)⟩
  · constructor
    · intro h
      cases h
      rfl
    · intro h
      cases h
      rfl

end Places

/-- The fixed header of the frame is known: `size` bytes follow it at `offset`. -/
structure HasBody (strict : Bool) (f : Bytes) (size offset : Nat) : Prop where
  withFrame_eq : ∀ k, withFrame strict f k = k size offset f.length
  total : offset + size = f.length

namespace HasBody

variable {strict : Bool} {f : Bytes} {size offset : Nat}

theorem le (h : HasBody strict f size offset) : offset ≤ f.length := by
  have := h.total
  omega

theorem body_length (h : HasBody strict f size offset) : (f.drop offset).length = size := by
  have := h.total
  rw [List.length_drop]
  omega

theorem start (h : HasBody strict f size offset) : At f offset (f.drop offset) := ⟨h.le, rfl⟩

end HasBody

theorem IsFrame.hasBody {strict : Bool} {f : Bytes} (hf : IsFrame strict f) : ∃ size len,
    parseRemainingLength strict (f.drop 1) = .ok (size, len) ∧
    HasBody strict f size (1 + len) := by
  obtain ⟨size, len, hvbi, htotal, hx, -⟩ := withFrame_append hf []
  rw [List.append_nil] at hvbi
  exact ⟨size, len, hvbi, hx, htotal⟩

end FlowSdk
