/-
  FlowSdk.Serde.WholeFrame — what the parsers make of a whole frame.

  A frame is a byte string whose length is the one its fixed header announces. The length is
  known from the bytes that encode it, so `packetFrameLen` answers the same whatever follows
  the frame; and on a whole frame a typed decoder either fails or yields a packet and
  consumes the frame to its end.

  Main results:
    1. `packetFrameLen_frame`       a complete frame at the front of a buffer
    2. `packetFrameLen_error`       a malformed length stays malformed
    3. `fromBytesWithVersion_answers`  no typed decoder waits for more or stops early
-/
import FlowSdk.Serde.Leveled

namespace FlowSdk

open Wire

/-! ## Frames -/

theorem exists_cons_of_two_le {b : Bytes} (h : ¬ b.length < 2) :
    ∃ first b', b = first :: b' ∧ b' ≠ [] := by
  cases b with
  | nil => exact absurd Nat.zero_lt_two h
  | cons first b => exact ⟨first, b, rfl, by rintro rfl; exact h Nat.one_lt_two⟩

section

variable {strict : Bool} {b : Bytes} {n : Nat} {e : Failure}

/-- The length of a complete frame: a first byte, the encoded length and what it announces. -/
theorem packetFrameLen_some (h : packetFrameLen strict b = .ok (some n)) :
    ∃ first rest size k, b = first :: rest ∧ rest ≠ [] ∧
      parseRemainingLength strict rest = .ok (size, k) ∧ 1 + k + size = n ∧ n ≤ b.length := by
  unfold packetFrameLen at h
  split at h
  · cases h
  rename_i hlen
  obtain ⟨first, rest, rfl, hrest⟩ := exists_cons_of_two_le hlen
  rw [List.drop_succ_cons, List.drop_zero] at h
  split at h
  · rename_i size k hvbi
    dsimp only at h
    split at h
    · cases h
    rename_i hfit
    cases h
    exact ⟨first, rest, size, k, rfl, hrest, hvbi, rfl, Nat.le_of_not_lt hfit⟩
  · cases h
  · cases h

/-- The only failure is that of the encoded length. -/
theorem packetFrameLen_fails (h : packetFrameLen strict b = .error e) :
    ∃ first rest, b = first :: rest ∧ rest ≠ [] ∧ parseRemainingLength strict rest = .error e ∧
      ∀ k msg, e ≠ .err (.more k msg) := by
  unfold packetFrameLen at h
  split at h
  · cases h
  rename_i hlen
  obtain ⟨first, rest, rfl, hrest⟩ := exists_cons_of_two_le hlen
  rw [List.drop_succ_cons, List.drop_zero] at h
  split at h
  · dsimp only at h
    split at h <;> cases h
  · cases h
  · rename_i e' hneed hvbi
    cases h
    exact ⟨first, rest, rfl, hrest, hvbi, fun k msg heq => hneed k msg heq⟩

/-- A frame at the front of a buffer, cut off where its fixed header says it ends. -/
theorem packetFrameLen_frame (h : packetFrameLen strict b = .ok (some n)) :
    ∃ frame rest, b = frame ++ rest ∧ frame.length = n ∧ 2 ≤ n ∧
      ∀ c, packetFrameLen strict (frame ++ c) = .ok (some n) := by
  obtain ⟨first, b, size, k, rfl, -, hvbi, rfl, hfit⟩ := packetFrameLen_some h
  obtain ⟨used, rest, rfl, hk, hne, hall, -⟩ := VariableByteInteger.decode_used hvbi
  have hpos : 0 < used.length := List.length_pos_iff.mpr hne
  have hsize : size ≤ rest.length := by
    rw [List.length_cons, List.length_append] at hfit
    omega
  have hframe : (first :: (used ++ rest.take size)).length = 1 + k + size := by
    rw [List.length_cons, List.length_append, List.length_take_of_le hsize]
    omega
  refine ⟨first :: (used ++ rest.take size), rest.drop size, ?_, hframe, by omega, fun c => ?_⟩
  · rw [List.cons_append, List.append_assoc, List.take_append_drop]
  · have hvbi' : parseRemainingLength strict ((first :: (used ++ rest.take size) ++ c).drop 1) =
        .ok (size, k) := by
      rw [List.cons_append, List.drop_succ_cons, List.drop_zero, List.append_assoc]
      exact hall _
    have hlong : ¬ (first :: (used ++ rest.take size) ++ c).length < 1 + k + size := by
      rw [List.length_append, hframe]
      omega
    unfold packetFrameLen
    rw [if_neg (by omega), hvbi']
    dsimp only
    rw [if_neg hlong]

theorem packetFrameLen_append (h : packetFrameLen strict b = .ok (some n)) (c : Bytes) :
    packetFrameLen strict (b ++ c) = .ok (some n) ∧ (b ++ c).take n = b.take n := by
  obtain ⟨frame, rest, rfl, rfl, -, hall⟩ := packetFrameLen_frame h
  rw [List.append_assoc, List.take_left, List.take_left]
  exact ⟨hall _, rfl⟩

theorem packetFrameLen_le (h : packetFrameLen strict b = .ok (some n)) : 2 ≤ n ∧ n ≤ b.length := by
  obtain ⟨frame, rest, rfl, rfl, hle, -⟩ := packetFrameLen_frame h
  rw [List.length_append]
  exact ⟨hle, Nat.le_add_right _ _⟩

/-- A malformed remaining length is reported whatever follows. -/
theorem packetFrameLen_error (h : packetFrameLen strict b = .error e) (c : Bytes) :
    packetFrameLen strict (b ++ c) = .error e := by
  obtain ⟨first, b, rfl, hb, hvbi, hneed⟩ := packetFrameLen_fails h
  rcases VariableByteInteger.decode_fails hb hvbi with ⟨⟨n, msg, rfl⟩, -⟩ | ⟨-, hall⟩
  · exact absurd rfl (hneed n msg)
  · have hlong : ¬ (first :: b ++ c).length < 2 := by
      have := List.length_pos_iff.mpr hb
      rw [List.length_append, List.length_cons]
      omega
    unfold packetFrameLen
    rw [if_neg hlong, List.cons_append, List.drop_succ_cons, List.drop_zero, parseRemainingLength,
      hall c]
    split
    · rename_i heq; cases heq
    · rename_i heq; cases heq; exact absurd rfl (hneed _ _)
    · rename_i heq; cases heq; rfl

end

/-- A byte string whose length is the one its fixed header announces. -/
structure IsFrame (strict : Bool) (b : Bytes) : Prop where
  packetFrameLen_eq : packetFrameLen strict b = .ok (some b.length)

theorem IsFrame.of_take {strict : Bool} {b : Bytes} {n : Nat}
    (h : packetFrameLen strict b = .ok (some n)) :
    IsFrame strict (b.take n) ∧ (b.take n).length = n := by
  obtain ⟨frame, rest, rfl, rfl, -, hall⟩ := packetFrameLen_frame h
  rw [List.take_left]
  have hall := hall []
  rw [List.append_nil] at hall
  exact ⟨⟨hall⟩, rfl⟩

theorem IsFrame.remainingLength {strict : Bool} {b : Bytes} (h : IsFrame strict b) :
    ∃ size k, parseRemainingLength strict (b.drop 1) = .ok (size, k) ∧
      1 + k + size = b.length ∧ b.drop 1 ≠ [] := by
  obtain ⟨first, rest, size, k, rfl, hrest, hvbi, htotal, -⟩ := packetFrameLen_some h.packetFrameLen_eq
  exact ⟨size, k, hvbi, htotal, hrest⟩

/-! ## Leveled parsers -/

/-- On a complete frame a leveled parser reads the type and hands the frame on. -/
theorem withLeveledFrame_some {strict : Bool} {b : Bytes} {n : Nat}
    (h : packetFrameLen strict b = .ok (some n)) :
    ∃ offset size, offset + size = n ∧ ∀ body, withLeveledFrame strict b body = (do
      let tf ← Decode.check (ControlPacketType.fromFirstByte (b.headD 0))
      let packet ← body tf.1 tf.2 offset size
      return .packet packet n) := by
  obtain ⟨first, rest, size, k, rfl, hrest, hvbi, rfl, hfit⟩ := packetFrameLen_some h
  refine ⟨1 + k, size, rfl, fun body => ?_⟩
  simp only [withLeveledFrame, if_neg hrest, hvbi, if_neg (Nat.not_lt.mpr hfit), List.headD_cons]

/-- An incomplete frame is waited for, unless its type is not one of MQTT. -/
theorem withLeveledFrame_none {strict : Bool} {b : Bytes} (hb : b ≠ [])
    (h : packetFrameLen strict b = .ok none) :
    ∃ hint, ∀ body, withLeveledFrame strict b body = (do
      let _ ← Decode.check (ControlPacketType.fromFirstByte (b.headD 0))
      return .continue hint 0) := by
  cases b with
  | nil => exact absurd rfl hb
  | cons first rest =>
    by_cases hrest : rest = []
    · exact ⟨1, fun body => by simp only [withLeveledFrame, if_pos hrest, List.headD_cons]⟩
    have hlen : ¬ (first :: rest).length < 2 := by
      have := List.length_pos_iff.mpr hrest
      rw [List.length_cons]
      omega
    rw [packetFrameLen, if_neg hlen, List.drop_succ_cons, List.drop_zero] at h
    split at h
    · rename_i size k hvbi
      dsimp only at h
      split at h
      · rename_i hfit
        refine ⟨1 + k + size - (first :: rest).length, fun body => ?_⟩
        simp only [withLeveledFrame, if_neg hrest, hvbi, if_pos hfit, List.headD_cons]
      · cases h
    · rename_i hint msg hvbi
      exact ⟨hint, fun body => by
        simp only [withLeveledFrame, if_neg hrest, hvbi, List.headD_cons]⟩
    · cases h

theorem withLeveledFrame_error {strict : Bool} {b : Bytes} {e : Failure}
    (h : packetFrameLen strict b = .error e)
    (body : ControlPacketType → UInt8 → Nat → Nat → Decode ParsedPacket) :
    withLeveledFrame strict b body = (do
      let _ ← Decode.check (ControlPacketType.fromFirstByte (b.headD 0))
      .error e) := by
  obtain ⟨first, rest, rfl, hrest, hvbi, hneed⟩ := packetFrameLen_fails h
  simp only [withLeveledFrame, if_neg hrest, hvbi, List.headD_cons]

/-! ## Typed decoders on a whole frame -/

/-- The decoder fails, or answers a packet and has consumed `n` bytes. -/
def AnswersPacket (n : Nat) (r : Decode ParseOk) : Prop :=
  ∀ v, r = .ok v → ∃ p, v = .packet p n

namespace AnswersPacket

variable {n : Nat} {α : Type}

theorem error (e : Failure) : AnswersPacket n (.error e) := by
  intro v h; cases h

theorem packet (p : MqttPacket) : AnswersPacket n (.ok (.packet p n)) := by
  intro v h; cases h; exact ⟨p, rfl⟩

theorem bind {x : Decode α} {f : α → Decode ParseOk} (h : ∀ a, AnswersPacket n (f a)) :
    AnswersPacket n (x >>= f) := by
  cases x with
  | error e => exact error e
  | ok a => exact h a

theorem rejectIf {c : Prop} [Decidable c] {e : Failure} {f : Unit → Decode ParseOk}
    (h : ¬ c → AnswersPacket n (f ())) : AnswersPacket n (Wire.rejectIf c e >>= f) := by
  by_cases hc : c
  · rw [rejectIf_pos _ hc]; exact error e
  · rw [rejectIf_neg _ hc]; exact h hc

theorem validatedPacket {strict : Bool} {p : MqttPacket} {m : Nat} (h : m = n) :
    AnswersPacket n (FlowSdk.validatedPacket strict p m) := by
  subst h
  exact bind fun _ => packet p

/-- On a whole frame the test for its end succeeds. -/
theorem withFrame {strict : Bool} {b : Bytes} (hb : IsFrame strict b)
    {body : Nat → Nat → Nat → Decode ParseOk}
    (h : ∀ size offset, AnswersPacket b.length (body size offset b.length)) :
    AnswersPacket b.length (FlowSdk.withFrame strict b body) := by
  obtain ⟨size, k, hvbi, htotal, -⟩ := hb.remainingLength
  unfold FlowSdk.withFrame
  rw [hvbi, ok_bind]
  dsimp only
  rw [htotal, if_neg (Nat.lt_irrefl _)]
  exact h size _

end AnswersPacket

section

variable {strict : Bool} {b : Bytes} (hb : IsFrame strict b)

include hb

namespace V5

theorem MqttConnect.fromBytes_answers :
    AnswersPacket b.length (MqttConnect.fromBytes strict b) := by
  refine .bind fun _ => .bind fun _ => .withFrame hb fun _ _ => ?_
  refine .bind fun _ => .bind fun ⟨_, _⟩ => .bind fun _ => .bind fun _ => .bind fun _ => ?_
  refine .bind fun _ => .bind fun _ => .bind fun ⟨_, _⟩ => .bind fun _ => .bind fun ⟨_, _⟩ => ?_
  refine .bind fun _ => .bind fun ⟨_, _⟩ => .bind fun ⟨_, _⟩ => .bind fun ⟨_, _⟩ => ?_
  exact .bind fun ⟨_, _⟩ => .rejectIf fun h => .validatedPacket (not_not.mp h)

theorem MqttConnAck.fromBytes_answers :
    AnswersPacket b.length (MqttConnAck.fromBytes strict b) := by
  refine .bind fun _ => .bind fun _ => .withFrame hb fun _ _ => ?_
  refine .bind fun _ => .bind fun _ => .bind fun _ => .bind fun _ => .bind fun ⟨_, _⟩ => ?_
  exact .rejectIf fun h => .validatedPacket (not_not.mp h)

theorem MqttPublish.fromBytes_answers :
    AnswersPacket b.length (MqttPublish.fromBytes strict b) := by
  refine .bind fun _ => .bind fun _ => .bind fun _ => .bind fun _ => .withFrame hb fun _ _ => ?_
  refine .bind fun _ => .bind fun ⟨_, _⟩ => .bind fun _ => .bind fun ⟨_, _⟩ => ?_
  refine .bind fun _ => .bind fun ⟨_, _⟩ => ?_
  dsimp only
  split
  · exact .error _
  · exact .bind fun _ => .rejectIf fun h => .validatedPacket (not_not.mp h)

theorem PacketIdAck.fromBytes_answers {kind : ControlPacketType} {flags : UInt8}
    {packetName : String} {mk : PacketIdAck → MqttPacket} :
    AnswersPacket b.length (PacketIdAck.fromBytes kind flags packetName mk strict b) := by
  refine .bind fun _ => .bind fun _ => .withFrame hb fun _ _ => ?_
  refine .bind fun _ => .bind fun ⟨_, _⟩ => .bind fun ⟨_, _⟩ => .bind fun ⟨_, _⟩ => ?_
  exact .rejectIf fun h => .validatedPacket (not_not.mp h)

theorem MqttSubscribe.fromBytes_answers :
    AnswersPacket b.length (MqttSubscribe.fromBytes strict b) := by
  refine .bind fun _ => .bind fun _ => .withFrame hb fun _ _ => ?_
  refine .bind fun _ => .bind fun ⟨_, _⟩ => .bind fun _ => .bind fun _ => .bind fun ⟨_, _⟩ => ?_
  exact .bind fun ⟨_, _⟩ => .bind fun _ => .rejectIf fun h => .validatedPacket (not_not.mp h)

theorem subAckFromBytes_answers {kind : ControlPacketType} {name : String}
    {mk : UInt16 → Bytes → Properties → MqttPacket} :
    AnswersPacket b.length (subAckFromBytes kind name mk strict b) := by
  refine .bind fun _ => .bind fun _ => .withFrame hb fun _ _ => ?_
  refine .bind fun _ => .bind fun ⟨_, _⟩ => .bind fun _ => .bind fun _ => .bind fun ⟨_, _⟩ => ?_
  exact .bind fun _ => .bind fun _ => .validatedPacket rfl

theorem MqttUnsubscribe.fromBytes_answers :
    AnswersPacket b.length (MqttUnsubscribe.fromBytes strict b) := by
  refine .bind fun _ => .bind fun _ => .withFrame hb fun _ _ => ?_
  refine .bind fun _ => .bind fun ⟨_, _⟩ => .bind fun _ => .bind fun _ => .bind fun ⟨_, _⟩ => ?_
  exact .bind fun ⟨_, _⟩ => .bind fun _ => .rejectIf fun h => .validatedPacket (not_not.mp h)

theorem pingFromBytes_answers {kind : ControlPacketType} {name : String} {p : MqttPacket} :
    AnswersPacket b.length (pingFromBytes kind name p strict b) :=
  .bind fun _ => .withFrame hb fun _ _ => .bind fun _ => .bind fun _ => .packet p

theorem MqttDisconnect.fromBytes_answers :
    AnswersPacket b.length (MqttDisconnect.fromBytes strict b) := by
  refine .bind fun _ => .withFrame hb fun _ _ => .bind fun _ => .bind fun ⟨_, _, _⟩ => ?_
  exact .bind fun _ => .validatedPacket rfl

theorem MqttAuth.fromBytes_answers :
    AnswersPacket b.length (MqttAuth.fromBytes strict b) := by
  refine .bind fun _ => .withFrame hb fun _ _ => .bind fun _ => ?_
  split
  · exact .validatedPacket rfl
  · refine .bind fun _ => .bind fun _ => .bind fun _ => .bind fun _ => ?_
    exact .bind fun _ => .validatedPacket rfl

end V5

namespace V3

theorem MqttConnect.fromBytes_answers :
    AnswersPacket b.length (MqttConnect.fromBytes strict b) := by
  refine .bind fun _ => .bind fun _ => .withFrame hb fun _ _ => ?_
  refine .bind fun _ => .bind fun ⟨_, _⟩ => .bind fun _ => .bind fun _ => .bind fun _ => ?_
  refine .bind fun _ => .bind fun _ => .bind fun _ => .bind fun _ => .bind fun _ => ?_
  refine .bind fun ⟨_, _⟩ => .bind fun _ => .bind fun ⟨_, _⟩ => .bind fun ⟨_, _⟩ => ?_
  refine .bind fun ⟨_, _⟩ => .bind fun ⟨_, _⟩ => .bind fun _ => ?_
  exact .validatedPacket rfl

theorem MqttConnAck.fromBytes_answers :
    AnswersPacket b.length (MqttConnAck.fromBytes strict b) := by
  refine .bind fun _ => .bind fun _ => .withFrame hb fun _ _ => .bind fun _ => ?_
  exact .bind fun _ => .bind fun _ => .bind fun _ => .bind fun _ => .validatedPacket rfl

theorem MqttPublish.fromBytes_answers :
    AnswersPacket b.length (MqttPublish.fromBytes strict b) := by
  refine .bind fun _ => .bind fun _ => .withFrame hb fun _ _ => .bind fun _ => ?_
  exact .bind fun ⟨_, _⟩ => .bind fun ⟨_, _⟩ => .bind fun _ => .validatedPacket rfl

theorem PacketIdAck.fromBytes_answers {kind : ControlPacketType} {flags : UInt8}
    {packetName : String} {mk : PacketIdAck → MqttPacket} :
    AnswersPacket b.length (PacketIdAck.fromBytes kind flags packetName mk strict b) := by
  refine .bind fun _ => .bind fun _ => .withFrame hb fun _ _ => .bind fun _ => ?_
  exact .bind fun _ => .validatedPacket rfl

theorem MqttSubscribe.fromBytes_answers :
    AnswersPacket b.length (MqttSubscribe.fromBytes strict b) := by
  refine .bind fun _ => .bind fun _ => .withFrame hb fun _ _ => .bind fun _ => ?_
  exact .bind fun _ => .bind fun ⟨_, _⟩ => .bind fun _ => .validatedPacket rfl

theorem MqttSubAck.fromBytes_answers :
    AnswersPacket b.length (MqttSubAck.fromBytes strict b) := by
  refine .bind fun _ => .bind fun _ => .withFrame hb fun _ _ => .bind fun _ => ?_
  exact .bind fun _ => .bind fun _ => .bind fun _ => .validatedPacket rfl

theorem MqttUnsubscribe.fromBytes_answers :
    AnswersPacket b.length (MqttUnsubscribe.fromBytes strict b) := by
  refine .bind fun _ => .bind fun _ => .withFrame hb fun _ _ => .bind fun _ => ?_
  exact .bind fun _ => .bind fun ⟨_, _⟩ => .bind fun _ => .validatedPacket rfl

theorem pingFromBytes_answers {kind : ControlPacketType} {name : String} {p : MqttPacket} :
    AnswersPacket b.length (pingFromBytes kind name p strict b) := by
  obtain ⟨size, k, -, -, hne⟩ := hb.remainingLength
  refine .bind fun _ => .bind fun _ => ?_
  rw [if_neg (by simpa using hne)]
  exact .withFrame hb fun _ _ => .bind fun _ => .packet p

theorem MqttDisconnect.fromBytes_answers :
    AnswersPacket b.length (MqttDisconnect.fromBytes strict b) :=
  .bind fun _ => .bind fun _ => .withFrame hb fun _ _ => .bind fun _ => .packet _

end V3

theorem MqttPacket.decoder5_answers (kind : ControlPacketType) :
    AnswersPacket b.length (MqttPacket.decoder5 kind strict b) := by
  cases kind with
  | connect => exact V5.MqttConnect.fromBytes_answers hb
  | connack => exact V5.MqttConnAck.fromBytes_answers hb
  | publish => exact V5.MqttPublish.fromBytes_answers hb
  | puback | pubrec | pubrel | pubcomp => exact V5.PacketIdAck.fromBytes_answers hb
  | subscribe => exact V5.MqttSubscribe.fromBytes_answers hb
  | suback => rw [decoder5, V5.MqttSubAck.fromBytes]; exact V5.subAckFromBytes_answers hb
  | unsuback => rw [decoder5, V5.MqttUnsubAck.fromBytes]; exact V5.subAckFromBytes_answers hb
  | unsubscribe => exact V5.MqttUnsubscribe.fromBytes_answers hb
  | pingreq | pingresp => exact V5.pingFromBytes_answers hb
  | disconnect => exact V5.MqttDisconnect.fromBytes_answers hb
  | auth => exact V5.MqttAuth.fromBytes_answers hb

theorem MqttPacket.decoder3_answers (kind : ControlPacketType) :
    AnswersPacket b.length (MqttPacket.decoder3 kind strict b) := by
  cases kind with
  | connect => exact V3.MqttConnect.fromBytes_answers hb
  | connack => exact V3.MqttConnAck.fromBytes_answers hb
  | publish => exact V3.MqttPublish.fromBytes_answers hb
  | puback | pubrec | pubrel | pubcomp | unsuback => exact V3.PacketIdAck.fromBytes_answers hb
  | subscribe => exact V3.MqttSubscribe.fromBytes_answers hb
  | suback => exact V3.MqttSubAck.fromBytes_answers hb
  | unsubscribe => exact V3.MqttUnsubscribe.fromBytes_answers hb
  | pingreq | pingresp => exact V3.pingFromBytes_answers hb
  | disconnect => exact V3.MqttDisconnect.fromBytes_answers hb
  | auth => exact .error _

/-- On a whole frame every typed decoder fails or consumes the frame. -/
theorem MqttPacket.fromBytesWithVersion_answers (version : UInt8) :
    AnswersPacket b.length (MqttPacket.fromBytesWithVersion strict b version) := by
  have h3 : AnswersPacket b.length (fromBytesV3 strict b) :=
    .bind fun _ => .bind fun kind => decoder3_answers hb kind
  have h5 : AnswersPacket b.length (fromBytesV5 strict b) :=
    .bind fun _ => .bind fun kind => decoder5_answers hb kind
  unfold MqttPacket.fromBytesWithVersion
  split
  · exact h3
  · exact h3
  · exact h5
  · exact .error _

end

end FlowSdk
