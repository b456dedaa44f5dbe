/-
  FlowSdk.Serde.RoundTrip3 — MQTT 3.1 and 3.1.1: what the encoder writes, the decoder reads.

  The MQTT 3 decoders index into the frame after one length test, so the field reads are
  the panicking ones; on a frame the encoder wrote they are all in range.
-/
import FlowSdk.Serde.RoundTrip5

namespace FlowSdk

open Wire

namespace V3

/-! ## CONNACK and acknowledgements -/

theorem MqttConnAck.fromBytes_toBytes {p : MqttConnAck} {b : Bytes}
    (h : (MqttPacket.connAck3 p).toBytes true = .ok b) :
    MqttConnAck.fromBytes true b = .ok (.packet (.connAck3 p) b.length) := by
  obtain ⟨vhdr, pl, hvalid, hvhdr, hpl, rfl⟩ := encodePacket_ok h
  obtain rfl := Except.ok.inj hpl
  rw [MqttConnAck.variableHeader, check_bind_eq_ok, rejectIf_eq_ok] at hvhdr
  obtain ⟨hcode, hvhdr⟩ := hvhdr
  obtain rfl := Except.ok.inj hvhdr
  rw [List.append_nil]
  unfold MqttConnAck.fromBytes
  rw [expectType_frame (by rfl), withFrame_frame (by simp [VariableByteInteger.maxValue]),
    expectFlags_frame (by rfl), ok_bind, ok_bind]
  generalize hsp : (if p.sessionPresent then (1 : UInt8) else 0) = sp
  have hsp0 : ¬ sp &&& 0xFE ≠ 0 := by subst hsp; cases p.sessionPresent <;> decide
  have hsp1 : decide (sp = 0x01) = p.sessionPresent := by
    subst hsp; cases p.sessionPresent <;> rfl
  generalize hb : frame _ _ = b
  unfold frame at hb
  generalize frameHeader _ _ = hdr at hb ⊢
  have hbyte₀ := index_at hdr [p.returnCode] sp hb.symm rfl
  have hbyte₁ := index_at (hdr ++ [sp]) [] p.returnCode (b := b) (n := hdr.length + 1)
    (by simp [← hb]) (by simp)
  rw [rejectIf_neg _ (by simp)]
  simp only [hbyte₀, hbyte₁, ok_bind, rejectIf_neg _ hsp0, rejectIf_neg _ hcode, hsp1]
  exact validatedPacket_ok (p := .connAck3 p) hvalid _

theorem PacketIdAck.fromBytes_toBytes {kind : ControlPacketType} {flags : UInt8} (name : String)
    {mk : PacketIdAck → MqttPacket} {p : PacketIdAck} {b : Bytes}
    (hkind : ((kind.code <<< 4) ||| flags) >>> 4 = kind.code)
    (hflags : ((kind.code <<< 4) ||| flags) &&& 0x0F = flags)
    (hmk : (mk p).validateStrict = p.validate)
    (h : p.toBytes kind flags true = .ok b) :
    PacketIdAck.fromBytes kind flags name mk true b = .ok (.packet (mk p) b.length) := by
  obtain ⟨vhdr, pl, hvalid, hvhdr, hpl, rfl⟩ := encodePacket_ok h
  obtain rfl := Except.ok.inj hpl
  obtain rfl := Except.ok.inj hvhdr
  unfold PacketIdAck.fromBytes
  rw [expectType_frame hkind, withFrame_frame (by simp [VariableByteInteger.maxValue]),
    expectFlags_frame hflags, ok_bind, ok_bind, rejectIf_neg _ (by simp), ok_bind]
  rw [indexU16_at (b := frame _ _) (n := (frameHeader _ _).length) (frameHeader _ _) []
    p.messageId rfl rfl, ok_bind]
  exact validatedPacket_ok (hmk ▸ hvalid) _

/-! ## PUBLISH -/

/-- A QoS 0 PUBLISH loses its message identifier. -/
def MqttPublish.normalize (p : MqttPublish) : MqttPublish :=
  { p with messageId := wireId p.qos p.messageId }

theorem publishFlags_decode (dup : Bool) {qos : UInt8} (retain : Bool) (h : qos ≤ 2) :
    (0x30 ||| publishFlags dup qos retain) >>> 4 = 3 ∧
      (((0x30 ||| publishFlags dup qos retain) &&& 0x0F) &&& 0x06) >>> 1 = qos ∧
      decide (((0x30 ||| publishFlags dup qos retain) &&& 0x0F) &&& 0x08 > 0) = dup ∧
      decide (((0x30 ||| publishFlags dup qos retain) &&& 0x0F) &&& 0x01 > 0) = retain := by
  rcases le_two_cases h with rfl | rfl | rfl <;> cases dup <;> cases retain <;> decide

theorem MqttPublish.flags_decode {p : MqttPublish} (h : p.qos ≤ 2) :
    (0x30 ||| p.flags) >>> 4 = 3 ∧ (((0x30 ||| p.flags) &&& 0x0F) &&& 0x06) >>> 1 = p.qos ∧
      decide (((0x30 ||| p.flags) &&& 0x0F) &&& 0x08 > 0) = p.dup ∧
      decide (((0x30 ||| p.flags) &&& 0x0F) &&& 0x01 > 0) = p.retain :=
  publishFlags_decode p.dup p.retain h

theorem MqttPublish.validate_normalize {p : MqttPublish} (h : p.validate = .ok ()) :
    p.normalize.validate = .ok () := by
  simp only [MqttPublish.validate, check_bind_eq_ok] at h ⊢
  exact ⟨(V5.publish_validate_ok h.1).2.2, h.2⟩

theorem readMessageId_at {qos : UInt8} {id : Option UInt16} (hsome : qos > 0 → id.isSome)
    (hdr topic rest : Bytes) {b : Bytes}
    (hb : b = hdr ++ (topic ++ (wireIdBytes (wireId qos id) ++ rest))) :
    readMessageId qos b (hdr.length + topic.length) b.length =
      .ok (wireId qos id, hdr.length + topic.length + (wireIdBytes (wireId qos id)).length) := by
  unfold readMessageId
  unfold wireId at hb ⊢
  split
  next hq =>
    obtain ⟨id, rfl⟩ := Option.isSome_iff_exists.mp (hsome hq)
    rw [if_pos hq, wireIdBytes] at hb
    have hlen : ¬ hdr.length + topic.length + 2 > b.length := by simp [hb]; omega
    have hid := indexU16_at (hdr ++ topic) rest id (b := b) (n := hdr.length + topic.length)
      (by simp [hb]) (by simp)
    simp only [rejectIf_neg _ hlen, ok_bind, hid, pure_eq_ok, wireIdBytes,
      TwoByteInteger.encode_length]
  next => rfl

theorem MqttPublish.fromBytes_toBytes {p : MqttPublish} {b : Bytes} (h : p.toBytes true = .ok b)
    (hlen : remainingLength b ≤ VariableByteInteger.maxValue) :
    MqttPublish.fromBytes true b = .ok (.packet (.publish3 p.normalize) b.length) := by
  obtain ⟨hvalid, hsome, rfl⟩ := MqttPublish.toBytes_ok h
  replace hvalid := hvalid rfl
  rw [remainingLength_frame] at hlen
  have hv := hvalid
  rw [MqttPublish.validate, check_bind_eq_ok, validateTopic_eq_ok] at hv
  have hqos2 := (V5.publish_validate_ok hv.1).1
  obtain ⟨hkind, hqos, hdup, hretain⟩ := MqttPublish.flags_decode hqos2
  have htopic := Utf8String.reads true hv.2.1.1 (fun _ => hv.2.1.2)
  have hq3 : ¬ p.qos > 2 := UInt8.not_lt.mpr hqos2
  have hfl : flagsOf (frame (0x30 ||| p.flags) (publishBody p.topicName
      (wireId p.qos p.messageId) [] p.payload)) = (0x30 ||| p.flags) &&& 0x0F := rfl
  rw [← hfl] at hqos hdup hretain
  unfold MqttPublish.fromBytes
  simp only [expectType_frame (k := .publish) hkind, withFrame_frame hlen, ok_bind, hqos, hdup,
    hretain, rejectIf_neg _ hq3]
  generalize hb : frame (0x30 ||| p.flags) _ = b
  unfold frame at hb
  generalize frameHeader (0x30 ||| p.flags) _ = hdr at hb ⊢
  unfold publishBody at hb
  rw [List.nil_append] at hb
  have htop := indexRange_at hdr _ hb.symm rfl rfl
  have hid := readMessageId_at hsome hdr (Utf8String.encode p.topicName) p.payload hb.symm
  have hpay := indexRange_at (hdr ++ Utf8String.encode p.topicName ++
    wireIdBytes (wireId p.qos p.messageId)) p.payload (b := b)
    (n := hdr.length + (Utf8String.encode p.topicName).length +
      (wireIdBytes (wireId p.qos p.messageId)).length) (by simp [← hb])
    (by simp [Nat.add_assoc]) rfl
  simp only [htop, parseUtf8String, htopic _, ok_bind, hid, hpay]
  exact validatedPacket_ok (p := .publish3 p.normalize) (MqttPublish.validate_normalize hvalid) _

/-! ## SUBSCRIBE, SUBACK and UNSUBSCRIBE -/

theorem validateTopicFilter_ok {s : String} (h : validateTopicFilter s = .ok ()) :
    strLen s ≤ u16Max ∧ validateMqttUtf8String s = .ok () := by
  simp only [validateTopicFilter, check_bind_eq_ok, rejectIf_eq_ok] at h
  exact ⟨by unfold u16Max; omega, h.1⟩

/-- The bytes of one subscription. -/
def SubscriptionTopic.wire (sub : SubscriptionTopic) : Bytes :=
  Utf8String.encode sub.topicFilter ++ [sub.qos]

theorem SubscriptionTopic.toBytes_eq {sub : SubscriptionTopic} {b : Bytes}
    (h : sub.toBytes = .ok b) : b = sub.wire := by
  rw [SubscriptionTopic.toBytes, check_bind_eq_ok] at h
  exact (Except.ok.inj h.2).symm

theorem SubscriptionTopic.wire_ne_nil (sub : SubscriptionTopic) : sub.wire ≠ [] := by
  simp [wire]

/-- One turn of the payload loop, at the offset where a subscription starts. -/
theorem SubscriptionTopic.fromBytes_at {sub : SubscriptionTopic} {b : Bytes} (pre rest : Bytes)
    (hfilter : validateTopicFilter sub.topicFilter = .ok ()) (hqos : sub.qos ≤ 2)
    (hb : b = pre ++ (sub.wire ++ rest)) :
    SubscriptionTopic.fromBytes true b b.length pre.length = .ok (sub, sub.wire.length) := by
  obtain ⟨hlen, hutf⟩ := validateTopicFilter_ok hfilter
  rw [wire, List.append_assoc] at hb
  have htopic := Utf8String.reads true hlen (fun _ => hutf) ([sub.qos] ++ rest)
  have hrange := indexRange_at pre _ hb rfl rfl
  have hbyte := index_at (pre ++ Utf8String.encode sub.topicFilter) rest sub.qos (b := b)
    (n := pre.length + (Utf8String.encode sub.topicFilter).length) (by simp [hb]) (by simp)
  have hge : ¬ pre.length + (Utf8String.encode sub.topicFilter).length ≥ b.length := by
    simp [hb]
  have hq3 : ¬ sub.qos > 2 := UInt8.not_lt.mpr hqos
  simp only [SubscriptionTopic.fromBytes, hrange, ok_bind, parseUtf8String, htopic,
    rejectIf_neg _ hge, hbyte, rejectIf_neg _ hq3, pure_eq_ok, wire, List.length_append,
    List.length_singleton]

/-- A body that starts with an identifier passes the length test of the decoders. -/
theorem identified_body_length (id : UInt16) (rest : Bytes) :
    ¬ (TwoByteInteger.encode id ++ rest).length < 2 := by
  rw [List.length_append, TwoByteInteger.encode_length]
  exact Nat.not_lt.mpr (Nat.le_add_right 2 rest.length)

theorem MqttSubscribe.fromBytes_toBytes {p : MqttSubscribe} {b : Bytes}
    (h : (MqttPacket.subscribe3 p).toBytes true = .ok b)
    (hlen : remainingLength b ≤ VariableByteInteger.maxValue) :
    MqttSubscribe.fromBytes true b = .ok (.packet (.subscribe3 p) b.length) := by
  obtain ⟨vhdr, pl, hvalid, hvhdr, hpl, rfl⟩ := encodePacket_ok h
  obtain rfl := Except.ok.inj hvhdr
  obtain ⟨rfl, -⟩ := encodeEach_ok SubscriptionTopic.wire
    (fun _ _ => SubscriptionTopic.toBytes_eq) hpl
  rw [remainingLength_frame] at hlen
  have hv := hvalid
  simp only [onlyIf_true, MqttSubscribe.validate, check_bind_eq_ok, forEach_eq_ok,
    require_eq_ok] at hv
  unfold MqttSubscribe.fromBytes
  rw [expectType_frame (by rfl), withFrame_frame hlen, expectFlags_frame (by rfl), ok_bind, ok_bind,
    rejectIf_neg _ (identified_body_length _ _), ok_bind]
  generalize hb : frame _ _ = b
  unfold frame at hb
  generalize frameHeader _ _ = hdr at hb ⊢
  have hid := indexU16_at hdr _ p.messageId hb.symm rfl
  have hcut : b = (hdr ++ TwoByteInteger.encode p.messageId) ++
      p.subscriptions.flatMap SubscriptionTopic.wire := by simp [← hb]
  have hfuel : p.subscriptions.length < b.length + 1 := by
    have := length_le_flatMap SubscriptionTopic.wire_ne_nil p.subscriptions
    rw [hcut]
    simp only [List.length_append]
    omega
  have hmany := readMany_flatMap (SubscriptionTopic.fromBytes true b b.length) b.length
    SubscriptionTopic.wire_ne_nil p.subscriptions (hdr ++ TwoByteInteger.encode p.messageId)
    (b.length + 1) hfuel (by rw [hcut])
    (fun sub hsub before after hsplit => SubscriptionTopic.fromBytes_at _
      (after.flatMap SubscriptionTopic.wire) (hv.2.2 sub hsub).1 (hv.2.2 sub hsub).2 (by
        rw [hcut, hsplit]; simp [List.flatMap_append]))
  rw [List.length_append, TwoByteInteger.encode_length] at hmany
  simp only [hid, ok_bind, hmany]
  rw [rejectIf_neg _ (by simp), ok_bind]
  exact validatedPacket_ok (p := .subscribe3 p) hvalid _

theorem MqttSubAck.fromBytes_toBytes {p : MqttSubAck} {b : Bytes}
    (h : (MqttPacket.subAck3 p).toBytes true = .ok b)
    (hlen : remainingLength b ≤ VariableByteInteger.maxValue) :
    MqttSubAck.fromBytes true b = .ok (.packet (.subAck3 p) b.length) := by
  obtain ⟨vhdr, pl, hvalid, hvhdr, hpl, rfl⟩ := encodePacket_ok h
  obtain rfl := Except.ok.inj hvhdr
  rw [MqttSubAck.payload, check_bind_eq_ok] at hpl
  obtain ⟨hcodes, hpl⟩ := hpl
  obtain rfl := Except.ok.inj hpl
  simp only [forEach_eq_ok, rejectIf_eq_ok] at hcodes
  rw [remainingLength_frame] at hlen
  unfold MqttSubAck.fromBytes
  rw [expectType_frame (by rfl), withFrame_frame hlen, expectFlags_frame (by rfl), ok_bind, ok_bind,
    rejectIf_neg _ (identified_body_length _ _), ok_bind]
  generalize hb : frame _ _ = b
  unfold frame at hb
  generalize frameHeader _ _ = hdr at hb ⊢
  have hid := indexU16_at hdr _ p.messageId hb.symm rfl
  have hrange := indexRange_at (hdr ++ TwoByteInteger.encode p.messageId) p.returnCodes (b := b)
    (n := hdr.length + 2) (by simp [← hb]) (by simp) rfl
  have hall : forEach (fun code => rejectIf (¬ subAckCode code) (Failure.err (.parseError
      s!"Invalid SUBACK return code in payload: {code}"))) p.returnCodes = .ok () := by
    rw [forEach_eq_ok]
    exact fun code hcode => rejectIf_neg _ (hcodes code hcode)
  simp only [hid, ok_bind, hrange, hall]
  exact validatedPacket_ok (p := .subAck3 p) hvalid _

theorem MqttUnsubscribe.fromBytes_toBytes {p : MqttUnsubscribe} {b : Bytes}
    (h : (MqttPacket.unsubscribe3 p).toBytes true = .ok b)
    (hlen : remainingLength b ≤ VariableByteInteger.maxValue) :
    MqttUnsubscribe.fromBytes true b = .ok (.packet (.unsubscribe3 p) b.length) := by
  obtain ⟨vhdr, pl, hvalid, hvhdr, hpl, rfl⟩ := encodePacket_ok h
  obtain rfl := Except.ok.inj hvhdr
  obtain rfl := Except.ok.inj hpl
  rw [remainingLength_frame] at hlen
  have hv := hvalid
  simp only [onlyIf_true, MqttUnsubscribe.validate, check_bind_eq_ok, forEach_eq_ok,
    require_eq_ok] at hv
  unfold MqttUnsubscribe.fromBytes
  rw [expectType_frame (by rfl), withFrame_frame hlen, expectFlags_frame (by rfl), ok_bind, ok_bind,
    rejectIf_neg _ (identified_body_length _ _), ok_bind]
  generalize hb : frame _ _ = b
  unfold frame at hb
  generalize frameHeader _ _ = hdr at hb ⊢
  have hid := indexU16_at hdr _ p.messageId hb.symm rfl
  have hfuel : p.topicFilters.length < b.length + 1 := by
    have := length_le_flatMap V5.utf8Encode_ne_nil p.topicFilters
    rw [← hb]
    simp only [List.length_append]
    omega
  have hreads : ∀ f ∈ p.topicFilters, Reads (parseUtf8String true) (Utf8String.encode f) f := by
    intro f hf
    obtain ⟨hl, hu⟩ := validateTopicFilter_ok (hv.2.2 f hf)
    exact Utf8String.reads true hl (fun _ => hu)
  have hmany := readMany_slice (fun offset => indexRange b offset b.length)
    V5.utf8Encode_ne_nil hreads
    (hdr ++ TwoByteInteger.encode p.messageId) (b := b) (by simp [← hb])
    (fun front rest hcut => indexRange_at front rest hcut rfl rfl) hfuel
    (n := hdr.length + 2) (by simp) rfl
  simp only [hid, ok_bind, hmany]
  rw [rejectIf_neg _ (by simp), ok_bind]
  exact validatedPacket_ok (p := .unsubscribe3 p) hvalid _

/-! ## Packets without fields -/

theorem pingFromBytes_frame {kind : ControlPacketType} {name : String} {p : MqttPacket}
    (hkind : ((kind.code <<< 4) ||| 0) >>> 4 = kind.code)
    (hflags : ((kind.code <<< 4) ||| 0) &&& 0x0F = 0) :
    pingFromBytes kind name p true (frame ((kind.code <<< 4) ||| 0) []) =
      .ok (.packet p (frame ((kind.code <<< 4) ||| 0) []).length) := by
  unfold pingFromBytes
  rw [expectType_frame hkind, expectFlags_frame hflags, ok_bind, ok_bind, 
    if_neg (by simp [frame, frameHeader, VariableByteInteger.encode_ne_nil]), withFrame_frame (Nat.zero_le _), rejectIf_neg _ (by simp), ok_bind, pure_eq_ok]

theorem MqttDisconnect.fromBytes_frame :
    MqttDisconnect.fromBytes true (frame ((ControlPacketType.disconnect.code <<< 4) ||| 0) []) =
      .ok (.packet .disconnect3
        (frame ((ControlPacketType.disconnect.code <<< 4) ||| 0) []).length) := by
  decide

end V3

end FlowSdk
