/-
  FlowSdk.Client.Replayed — a publication that is sent once more.

  On another connection a publication goes out without its topic alias and, if it was sent
  before, with the DUP flag. Both leave a packet that has an encoding, and one that is no
  longer than the first: properties only disappear, and the variable byte integers in front
  of them shrink with them. The last point fails for lengths that do not fit into `u32`,
  which the encoder truncates.

  Main results:
    1. `MqttPacket.toBytes_withoutAlias`   a publication that waits is kept for another connection
    2. `MqttPacket.toBytes_replayed`       a publication that was sent is sent again
-/
import FlowSdk.Client.Ledger
import FlowSdk.Serde.Frame
import Mathlib.Data.List.Flatten

namespace FlowSdk

open Machine Wire

variable {strict : Bool}

/-! ## Lengths -/

namespace VariableByteInteger

theorem encodedLenLoop_mono : ∀ (fuel : Nat) {a b : Nat}, a ≤ b →
    encodedLenLoop fuel a ≤ encodedLenLoop fuel b
  | 0, _, _, _ => Nat.le_refl 1
  | fuel + 1, a, b, h => by
    have ih := encodedLenLoop_mono fuel (Nat.div_le_div_right h : a / 128 ≤ b / 128)
    unfold encodedLenLoop
    split <;> split <;> omega

theorem encode_length_mono {a b : Nat} (h : a ≤ b) (hb : b < 2 ^ 32) :
    (encode (UInt32.ofNat a)).length ≤ (encode (UInt32.ofNat b)).length := by
  rw [← encodedLen_eq, ← encodedLen_eq]
  refine encodedLenLoop_mono 4 ?_
  rwa [UInt32.toNat_ofNat', UInt32.toNat_ofNat', Nat.mod_eq_of_lt (by omega),
    Nat.mod_eq_of_lt hb]

end VariableByteInteger

theorem frame_length_mono {first first' : UInt8} {body body' : Bytes}
    (h : body'.length ≤ body.length) (hsmall : (frame first body).length < 2 ^ 32) :
    (frame first' body').length ≤ (frame first body).length := by
  rw [frame_length] at hsmall
  rw [frame_length, frame_length, frameHeader, frameHeader, List.length_cons, List.length_cons]
  have := VariableByteInteger.encode_length_mono h (by omega)
  omega

/-! ## Fewer properties -/

namespace PropertyEncoder

/-- A section has an encoding if each of its properties has one. -/
theorem bodyLenLoop_total : ∀ {ps : Properties} (start : Nat),
    (∀ p ∈ ps, ∃ n, p.encodedLen strict = .ok n) → ∃ n, bodyLenLoop strict ps start = .ok n
  | [], start, _ => ⟨start, rfl⟩
  | p :: ps, start, h => by
    obtain ⟨⟨len, hlen⟩, hrest⟩ := List.forall_mem_cons.mp h
    obtain ⟨n, hn⟩ := bodyLenLoop_total (start + len) hrest
    exact ⟨n, bind_eq_ok.mpr ⟨len, hlen, hn⟩⟩

theorem encodedLen_of_bodyLenLoop : ∀ {ps : Properties} {start n : Nat},
    bodyLenLoop strict ps start = .ok n → ∀ p ∈ ps, ∃ n, p.encodedLen strict = .ok n
  | [], _, _, _ => fun _ h => (by cases h)
  | p :: ps, _, _, h => by
    obtain ⟨len, hlen, hrest⟩ := bind_eq_ok.mp h
    exact List.forall_mem_cons.mpr ⟨⟨len, hlen⟩, encodedLen_of_bodyLenLoop hrest⟩

end PropertyEncoder

theorem encodeProperitiesHdr_filter {ps : Properties} {b : Bytes} (keep : Property → Bool)
    (h : encodeProperitiesHdr strict ps = .ok b) :
    ∃ b', encodeProperitiesHdr strict (ps.filter keep) = .ok b' ∧
      (b.length < 2 ^ 32 → b'.length ≤ b.length) := by
  have hlen := (encodeProperitiesHdr_ok h).1
  obtain ⟨e, he, -⟩ := bind_eq_ok.mp h
  obtain ⟨n, hn, -⟩ := bind_eq_ok.mp he
  have hall := PropertyEncoder.encodedLen_of_bodyLenLoop hn
  obtain ⟨n', hn'⟩ := PropertyEncoder.bodyLenLoop_total 0
    (fun p hp => hall p (List.mem_filter.mp hp).1 : ∀ p ∈ ps.filter keep, _)
  have hok : encodeProperitiesHdr strict (ps.filter keep) =
      .ok (PropertyEncoder.encodeInto ⟨ps.filter keep, n'⟩) := by
    rw [encodeProperitiesHdr, PropertyEncoder.new, hn']
    rfl
  refine ⟨_, hok, fun hsmall => ?_⟩
  have hsub : ((ps.filter keep).flatMap Property.encodeValidated).length ≤
      (ps.flatMap Property.encodeValidated).length :=
    (List.Sublist.flatMap List.filter_sublist _).length_le
  rw [(encodeProperitiesHdr_ok hok).1]
  rw [hlen, List.length_append] at hsmall ⊢
  rw [List.length_append]
  have := VariableByteInteger.encode_length_mono hsub (by omega)
  omega

namespace Validation

theorem propertiesLoop_filter {context : PropertyContext} (keep : Property → Bool) :
    ∀ {ps : Properties} {seen seen' result : List PropertyID}, seen' ⊆ seen →
      propertiesLoop context ps seen = .ok result →
      ∃ result', propertiesLoop context (ps.filter keep) seen' = .ok result'
  | [], _, seen', _, _, _ => ⟨seen', rfl⟩
  | p :: ps, seen, seen', _, hsub, h => by
    simp only [propertiesLoop, check_bind_eq_ok, require_eq_ok] at h
    obtain ⟨hallowed, honce, hvalue, hrest⟩ := h
    rw [List.filter_cons]
    split
    · obtain ⟨result', hresult'⟩ := propertiesLoop_filter keep
        (List.cons_subset_cons p.id hsub) hrest
      refine ⟨result', ?_⟩
      simp only [propertiesLoop, check_bind_eq_ok, require_eq_ok]
      exact ⟨hallowed, honce.imp_right fun hnew hold => hnew (hsub hold), hvalue, hresult'⟩
    · exact propertiesLoop_filter keep (fun x hx => List.mem_cons_of_mem _ (hsub hx)) hrest

theorem properties_filter {ps : Properties} (keep : Property → Bool)
    (h : properties ps .publish = .ok ()) : properties (ps.filter keep) .publish = .ok () := by
  obtain ⟨seen, hseen, -⟩ := bind_eq_ok.mp h
  obtain ⟨seen', hseen'⟩ := propertiesLoop_filter keep (List.Subset.refl []) hseen
  exact bind_eq_ok.mpr ⟨seen', hseen', rfl⟩

/-- A publication of QoS 1 or 2 may carry the DUP flag. -/
theorem publish_setDup {qos : UInt8} {dup dup' : Bool} {id : Option UInt16}
    (h : publish qos dup id = .ok ()) (hdup : dup' = true → dup = true ∨ qos > 0) :
    publish qos dup' id = .ok () := by
  obtain ⟨hqos, hrest⟩ := check_bind_eq_ok.mp h
  obtain ⟨hflag, hid⟩ := check_bind_eq_ok.mp hrest
  refine check_bind_eq_ok.mpr ⟨hqos, check_bind_eq_ok.mpr ⟨?_, hid⟩⟩
  rw [require_eq_ok] at hflag ⊢
  cases dup' with
  | false => exact .inr rfl
  | true =>
    rcases hdup rfl with rfl | hpos
    · exact .inl (hflag.resolve_right Bool.noConfusion)
    · exact .inl (UInt8.pos_iff_ne_zero.mp hpos)

end Validation

/-! ## PUBLISH -/

section Publish

variable {b : Bytes} (dup : Bool)

theorem V3.MqttPublish.toBytes_setDup {p : V3.MqttPublish} (h : p.toBytes strict = .ok b)
    (hdup : dup = true → p.dup = true ∨ p.qos > 0) :
    ∃ b', ({ p with dup := dup } : V3.MqttPublish).toBytes strict = .ok b' ∧
      b'.length = b.length := by
  have hframe := (V3.MqttPublish.toBytes_ok h).2.2
  rw [V3.MqttPublish.toBytes, check_bind_eq_ok, onlyIf_eq_ok, bind_eq_ok] at h
  obtain ⟨hvalid, id, hid, -⟩ := h
  have hvalid' : strict = true → V3.MqttPublish.validate { p with dup := dup } = .ok () := by
    intro hs
    obtain ⟨hpublish, htopic⟩ := check_bind_eq_ok.mp (hvalid hs)
    exact check_bind_eq_ok.mpr ⟨Validation.publish_setDup hpublish hdup, htopic⟩
  have hok : ({ p with dup := dup } : V3.MqttPublish).toBytes strict =
      .ok (encodePublish (V3.MqttPublish.flags { p with dup := dup }) p.topicName id [] p.payload) := by
    rw [V3.MqttPublish.toBytes, check_bind_eq_ok, onlyIf_eq_ok, bind_eq_ok]
    exact ⟨hvalid', id, hid, rfl⟩
  refine ⟨_, hok, ?_⟩
  rw [(V3.MqttPublish.toBytes_ok hok).2.2, hframe]
  simp only [frame_length, frameHeader, List.length_cons]

/-- Properties may go and the DUP flag may be set, as long as the topic does not need them. -/
theorem V5.MqttPublish.toBytes_trimmed {p : V5.MqttPublish} (h : p.toBytes strict = .ok b)
    (hdup : dup = true → p.dup = true ∨ p.qos > 0) {keep : Property → Bool}
    (hkeep : p.topicName = "" → p.properties.filter keep = p.properties) :
    ∃ b', ({ p with dup := dup, properties := p.properties.filter keep } : V5.MqttPublish).toBytes
        strict = .ok b' ∧ (b.length < 2 ^ 32 → b'.length ≤ b.length) ∧
        (p.properties.filter keep = p.properties → b'.length = b.length) := by
  obtain ⟨props, hvalid, hlen, hsome, hprops, hframe⟩ := V5.MqttPublish.toBytes_ok h
  obtain ⟨props', hprops', hshort⟩ := encodeProperitiesHdr_filter keep hprops
  set p' : V5.MqttPublish := { p with dup := dup, properties := p.properties.filter keep } with hp'
  have hvalid' : strict = true → p'.validate = .ok () := by
    intro hs
    obtain ⟨hpublish, hrest⟩ := check_bind_eq_ok.mp (hvalid hs)
    obtain ⟨hproperties, htopic⟩ := check_bind_eq_ok.mp hrest
    refine check_bind_eq_ok.mpr ⟨Validation.publish_setDup hpublish hdup,
      check_bind_eq_ok.mpr ⟨Validation.properties_filter keep hproperties, ?_⟩⟩
    by_cases hempty : p.topicName = ""
    · rw [hp', hkeep hempty]
      exact htopic
    · rw [if_neg hempty] at htopic
      rw [if_neg (show ¬ p'.topicName = "" from hempty)]
      exact htopic
  obtain ⟨b', hb'⟩ : ∃ b', p'.toBytes strict = .ok b' := by
    obtain ⟨id, hid⟩ : ∃ id, publishId p.qos p.packetId "QoS > 0 requires a packet identifier" =
        .ok id := by
      rw [V5.MqttPublish.toBytes, check_bind_eq_ok, check_bind_eq_ok, bind_eq_ok] at h
      exact ⟨_, h.2.2.choose_spec.1⟩
    obtain ⟨e, he, -⟩ := bind_eq_ok.mp hprops'
    have hheader : ¬ strLen p'.topicName > u16Max := Nat.not_lt.mpr hlen
    have hend : ∃ b', (if p'.properties = [] then
        pure (encodePublish p'.flags p'.topicName id [0] p'.payload)
      else do
        let properties ← PropertyEncoder.new strict p'.properties
        return encodePublishHeader p'.flags p'.topicName id properties.encodedLen
          p'.payload.length ++ properties.encodeInto ++ p'.payload) = .ok b' := by
      split
      · exact ⟨_, rfl⟩
      · exact ⟨_, bind_eq_ok.mpr ⟨e, he, rfl⟩⟩
    obtain ⟨b', hb'⟩ := hend
    exact ⟨b', check_bind_eq_ok.mpr ⟨onlyIf_eq_ok.mpr hvalid', check_bind_eq_ok.mpr
      ⟨rejectIf_eq_ok.mpr hheader, bind_eq_ok.mpr ⟨id, hid, hb'⟩⟩⟩⟩
  obtain ⟨props'', -, -, -, hsame, hframe'⟩ := V5.MqttPublish.toBytes_ok hb'
  cases hsame.symm.trans hprops'
  refine ⟨b', hb', fun hsmall => ?_, fun hall => ?_⟩
  case refine_2 =>
    rw [hall] at hprops'
    cases hprops'.symm.trans hprops
    rw [hframe, hframe', frame_length, frame_length]
    rfl
  rw [hframe] at hsmall ⊢
  rw [hframe']
  refine frame_length_mono ?_ hsmall
  rw [frame_length] at hsmall
  simp only [publishBody, List.length_append] at hsmall ⊢
  have := hshort (by omega)
  show _ + (_ + (props'.length + p.payload.length)) ≤ _
  have hid : wireId p'.qos p'.packetId = wireId p.qos p.packetId := rfl
  rw [hid]
  show (Utf8String.encode p.topicName).length + _ ≤ _
  omega

end Publish

namespace MqttPacket

/-- A topic alias is not all that names the topic. -/
def Titled : MqttPacket → Prop
  | .publish5 p => p.topicName = "" → p.properties.filter (·.id ≠ .topicAlias) = p.properties
  | _ => True

variable {packet : MqttPacket} {b : Bytes}

theorem toBytes_withoutAlias (htitled : packet.Titled) (h : packet.toBytes strict = .ok b) :
    ∃ b', packet.withoutAlias.toBytes strict = .ok b' ∧ (b.length < 2 ^ 32 → b'.length ≤ b.length) := by
  cases packet
  case publish5 p =>
    obtain ⟨b', hb', hshort, -⟩ := V5.MqttPublish.toBytes_trimmed p.dup h .inl htitled
    exact ⟨b', hb', hshort⟩
  all_goals exact ⟨b, h, fun _ => Nat.le_refl _⟩

theorem toBytes_replayed (htitled : packet.Titled) (hqos : packet.isPublish → packet.qos > 0)
    (h : packet.toBytes strict = .ok b) :
    ∃ b', packet.replayed.toBytes strict = .ok b' ∧ (b.length < 2 ^ 32 → b'.length ≤ b.length) ∧
      (packet.withoutAlias = packet → b'.length = b.length) := by
  cases packet
  case publish5 p =>
    obtain ⟨b', hb', hshort, hsame⟩ :=
      V5.MqttPublish.toBytes_trimmed true h (fun _ => .inr (hqos rfl)) htitled
    refine ⟨b', hb', hshort, fun hplain => hsame ?_⟩
    exact congrArg V5.MqttPublish.properties (MqttPacket.publish5.inj hplain)
  case publish3 p =>
    obtain ⟨b', hb', hlen⟩ := V3.MqttPublish.toBytes_setDup true h fun _ => .inr (hqos rfl)
    exact ⟨b', hb', fun _ => hlen.le, fun _ => hlen⟩
  all_goals exact ⟨b, h, fun _ => Nat.le_refl _, fun _ => rfl⟩

theorem titled_of_withoutAlias (h : packet.withoutAlias = packet) : packet.Titled := by
  cases packet
  case publish5 p => exact fun _ => congrArg V5.MqttPublish.properties (MqttPacket.publish5.inj h)
  all_goals trivial

/-- A fixed header of two bytes and the length of the topic. -/
theorem four_le_publish (hpublish : packet.isPublish) (h : packet.toBytes strict = .ok b) :
    4 ≤ b.length := by
  have hframe (first : UInt8) (topic : String) (id : Option UInt16) (props payload : Bytes) :
      4 ≤ (frame first (publishBody topic id props payload)).length := by
    have hpos := VariableByteInteger.encode_length_pos
      (UInt32.ofNat (publishBody topic id props payload).length)
    rw [frame_length, frameHeader, List.length_cons]
    simp only [publishBody, List.length_append, Utf8String.encode_length] at hpos ⊢
    omega
  cases packet <;> try cases hpublish
  case publish5 p =>
    obtain ⟨props, -, -, -, -, rfl⟩ := V5.MqttPublish.toBytes_ok h
    exact hframe _ _ _ _ _
  case publish3 p =>
    obtain ⟨-, -, rfl⟩ := V3.MqttPublish.toBytes_ok h
    exact hframe _ _ _ _ _

/-- A fixed header of two bytes and the identifier. -/
theorem four_le_pubrel (hrel : packet.isPubRel) (h : packet.toBytes strict = .ok b) :
    4 ≤ b.length := by
  have hframe (first : UInt8) (id : UInt16) (rest : Bytes) :
      4 ≤ (frame first (TwoByteInteger.encode id ++ rest)).length := by
    have hpos := VariableByteInteger.encode_length_pos
      (UInt32.ofNat (TwoByteInteger.encode id ++ rest).length)
    rw [frame_length, frameHeader, List.length_cons]
    simp only [List.length_append, TwoByteInteger.encode_length] at hpos ⊢
    omega
  cases packet <;> try cases hrel
  case pubRel5 p =>
    obtain ⟨vhdr, pl, -, hvhdr, -, rfl⟩ := encodePacket_ok h
    unfold V5.PacketIdAck.variableHeader at hvhdr
    split at hvhdr
    · cases hvhdr
      exact hframe _ p.packetId pl
    · obtain ⟨props, -, heq⟩ := bind_eq_ok.mp hvhdr
      obtain rfl := Except.ok.inj heq
      rw [List.append_assoc, List.append_assoc]
      exact hframe _ p.packetId _
  case pubRel3 p =>
    obtain ⟨vhdr, pl, -, hvhdr, -, rfl⟩ := encodePacket_ok h
    obtain rfl := Except.ok.inj hvhdr
    exact hframe _ p.messageId pl

end MqttPacket

end FlowSdk
