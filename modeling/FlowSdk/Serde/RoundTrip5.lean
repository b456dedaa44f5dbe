/-
  FlowSdk.Serde.RoundTrip5 — MQTT 5: what the strict encoder writes, the decoder reads.

  One theorem per packet codec. The encoder's own checks give the shape of the frame, the
  decoder is then run field by field on that shape, and the final `validate` of the
  decoder succeeds because the encoder has already made it.
-/
import FlowSdk.Serde.Frame

namespace FlowSdk

open Wire

theorem validatedPacket_ok {p : MqttPacket} (h : p.validateStrict = .ok ()) (n : Nat) :
    validatedPacket true p n = .ok (.packet p n) := by
  simp [validatedPacket, MqttPacket.validate, h]

theorem encodeProperitiesHdr_length_pos {ps : Properties} {b : Bytes}
    (h : encodeProperitiesHdr true ps = .ok b) : 0 < b.length := by
  obtain ⟨rfl, -⟩ := encodeProperitiesHdr_ok h
  have := VariableByteInteger.encode_length_pos
    (UInt32.ofNat (ps.flatMap Property.encodeValidated).length)
  rw [List.length_append]
  omega

/-- A field of two bits that is not 3 has one of three values. -/
theorem le_two_cases {v : UInt8} (h : v ≤ 2) : v = 0 ∨ v = 1 ∨ v = 2 := by
  have hle : v.toNat ≤ 2 := UInt8.le_iff_toNat_le.mp h
  have : v.toNat = 0 ∨ v.toNat = 1 ∨ v.toNat = 2 := by omega
  simpa [← UInt8.toNat_inj] using this

namespace V5

/-! ## Acknowledgements -/

/-- The shape of the variable header of an acknowledgement. -/
theorem PacketIdAck.variableHeader_ok {p : PacketIdAck} {b : Bytes}
    (h : p.variableHeader true = .ok b) :
    (p.reasonCode = 0 ∧ p.properties = [] ∧ b = TwoByteInteger.encode p.packetId) ∨
      ∃ props, encodeProperitiesHdr true p.properties = .ok props ∧
        b = TwoByteInteger.encode p.packetId ++ (p.reasonCode :: props) := by
  unfold PacketIdAck.variableHeader at h
  split at h
  next hshort =>
    left
    exact ⟨hshort.1, hshort.2, (Except.ok.inj h).symm⟩
  next =>
    right
    simp only [bind_eq_ok, pure_eq_ok, Except.ok.injEq] at h
    obtain ⟨props, hprops, rfl⟩ := h
    exact ⟨props, hprops, by simp⟩

theorem PacketIdAck.fromBytes_toBytes {kind : ControlPacketType} {flags : UInt8} (name : String)
    {mk : PacketIdAck → MqttPacket} {p : PacketIdAck} {b : Bytes}
    (hkind : ((kind.code <<< 4) ||| flags) >>> 4 = kind.code)
    (hflags : ((kind.code <<< 4) ||| flags) &&& 0x0F = flags)
    (hmk : (mk p).validateStrict = p.validate kind)
    (h : p.toBytes kind flags true = .ok b)
    (hlen : remainingLength b ≤ VariableByteInteger.maxValue) :
    PacketIdAck.fromBytes kind flags name mk true b = .ok (.packet (mk p) b.length) := by
  obtain ⟨vhdr, pl, hvalid, hvhdr, hpl, rfl⟩ := encodePacket_ok h
  obtain rfl := Except.ok.inj hpl
  rw [List.append_nil] at hlen ⊢
  rw [remainingLength_frame] at hlen
  have hid := TwoByteInteger.reads p.packetId
  unfold PacketIdAck.fromBytes
  rw [expectType_frame hkind, withFrame_frame hlen]
  simp only [ok_bind, onlyIf_true, expectFlags_frame hflags]
  unfold frame
  generalize frameHeader ((kind.code <<< 4) ||| flags) vhdr.length = hdr
  rcases PacketIdAck.variableHeader_ok hvhdr with ⟨hreason, hprops, rfl⟩ | ⟨props, hprops, rfl⟩
  · -- the short form: success without properties is only the identifier
    have hp : ({ packetId := p.packetId, reasonCode := 0, properties := [] } : PacketIdAck) = p := by
      cases p; simp_all
    simp only [getFrom_at hdr _ rfl rfl, parsePacketId, hid.nil, ok_bind,
      TwoByteInteger.encode_length, List.length_append, Nat.lt_irrefl, if_false,
      Nat.add_zero, gt_iff_lt, readReasonCode, readProperties]
    rw [rejectIf_neg _ (by simp), ok_bind, hp, validatedPacket_ok (hmk ▸ hvalid)]
  · have hsection := (parsePropertiesHdr_reads hprops (by simp at hlen; omega)).nil
    have hsize : (TwoByteInteger.encode p.packetId ++ p.reasonCode :: props).length > 2 := by simp
    have hbyte := getByte_at (hdr ++ TwoByteInteger.encode p.packetId) props p.reasonCode
      (b := hdr ++ (TwoByteInteger.encode p.packetId ++ p.reasonCode :: props))
      (n := hdr.length + (TwoByteInteger.encode p.packetId).length) (by simp) (by simp)
    have hrange := getRange_at (hdr ++ TwoByteInteger.encode p.packetId ++ [p.reasonCode]) props
      (b := hdr ++ (TwoByteInteger.encode p.packetId ++ p.reasonCode :: props))
      (n := hdr.length + (TwoByteInteger.encode p.packetId).length + 1) (by simp) (by simp) rfl
    have hpos := encodeProperitiesHdr_length_pos hprops
    have htotal : hdr.length + (TwoByteInteger.encode p.packetId).length + 1 + props.length =
        (hdr ++ (TwoByteInteger.encode p.packetId ++ p.reasonCode :: props)).length := by
      simp; omega
    have hlt : hdr.length + (TwoByteInteger.encode p.packetId).length + 1 <
        (hdr ++ (TwoByteInteger.encode p.packetId ++ p.reasonCode :: props)).length := by omega
    simp only [getFrom_at hdr _ rfl rfl, parsePacketId, hid _, ok_bind, readReasonCode, hsize,
      if_true, pure_eq_ok, hbyte, readProperties, hlt, hrange, hsection, htotal]
    rw [rejectIf_neg _ (by simp), ok_bind, validatedPacket_ok (hmk ▸ hvalid)]

/-! ## CONNACK -/

/-- The decoder answers `None` for an empty property section. -/
def MqttConnAck.normalize (p : MqttConnAck) : MqttConnAck :=
  { p with properties := if p.properties.getD [] = [] then none else p.properties }

theorem MqttConnAck.validate_normalize (p : MqttConnAck) : p.normalize.validate = p.validate := by
  cases p with
  | mk s r props =>
    cases props with
    | none => rfl
    | some props => cases props <;> rfl

theorem MqttConnAck.mk_normalize (p : MqttConnAck) :
    MqttConnAck.mk p.sessionPresent p.reasonCode
      (if p.properties.getD [] = [] then none else some (p.properties.getD [])) = p.normalize := by
  cases p with
  | mk s r props => cases props <;> simp [MqttConnAck.normalize]

theorem MqttConnAck.fromBytes_toBytes {p : MqttConnAck} {b : Bytes}
    (h : (MqttPacket.connAck5 p).toBytes true = .ok b)
    (hlen : remainingLength b ≤ VariableByteInteger.maxValue) :
    MqttConnAck.fromBytes true b = .ok (.packet (.connAck5 p.normalize) b.length) := by
  obtain ⟨vhdr, pl, hvalid, hvhdr, hpl, rfl⟩ := encodePacket_ok h
  obtain rfl := Except.ok.inj hpl
  simp only [MqttConnAck.variableHeader, bind_eq_ok, pure_eq_ok, Except.ok.injEq] at hvhdr
  obtain ⟨props, hprops, rfl⟩ := hvhdr
  rw [List.append_nil] at hlen ⊢
  rw [remainingLength_frame] at hlen
  have hsection := (parsePropertiesHdr_reads hprops (by simp at hlen; omega)).nil
  unfold MqttConnAck.fromBytes
  rw [expectType_frame (by rfl), withFrame_frame hlen]
  simp only [ok_bind, onlyIf_true, headD_frame]
  rw [show Validation.fixedHeader _ = .ok () from rfl, Decode.check_ok, ok_bind]
  unfold frame
  generalize frameHeader _ _ = hdr
  generalize hsp : (if p.sessionPresent then (1 : UInt8) else 0) = sp
  have hsp0 : ¬ sp &&& 0xFE ≠ 0 := by
    subst hsp; cases p.sessionPresent <;> decide
  have hsp1 : decide (sp &&& 0x01 = 1) = p.sessionPresent := by
    subst hsp; cases p.sessionPresent <;> rfl
  have hbyte₀ := getByte_at hdr (p.reasonCode :: props) sp
    (b := hdr ++ ([sp, p.reasonCode] ++ props)) rfl rfl
  have hbyte₁ := getByte_at (hdr ++ [sp]) props p.reasonCode
    (b := hdr ++ ([sp, p.reasonCode] ++ props)) (n := hdr.length + 1) (by simp) (by simp)
  have hfrom := getFrom_at (hdr ++ [sp, p.reasonCode]) props
    (b := hdr ++ ([sp, p.reasonCode] ++ props)) (n := hdr.length + 2) (by simp) (by simp)
  have htotal : hdr.length + 2 + props.length = (hdr ++ ([sp, p.reasonCode] ++ props)).length := by
    simp; omega
  simp only [hbyte₀, hbyte₁, hfrom, hsection, ok_bind, true_and, rejectIf_neg _ hsp0, htotal, hsp1,
    mk_normalize]
  rw [rejectIf_neg _ (by simp), ok_bind,
    validatedPacket_ok (by rw [MqttPacket.validateStrict, validate_normalize]; exact hvalid)]

/-! ## PUBLISH -/

/-- A QoS 0 PUBLISH loses its packet identifier. -/
def MqttPublish.normalize (p : MqttPublish) : MqttPublish :=
  { p with packetId := wireId p.qos p.packetId }

theorem publish_validate_ok {qos : UInt8} {dup : Bool} {id : Option UInt16}
    (h : Validation.publish qos dup id = .ok ()) :
    qos ≤ 2 ∧ (qos ≠ 0 ∨ dup = false) ∧ Validation.publish qos dup (wireId qos id) = .ok () := by
  have hv := h
  simp only [Validation.publish, check_bind_eq_ok, require_eq_ok] at h
  refine ⟨h.1, h.2.1, ?_⟩
  unfold wireId
  split
  next => exact hv
  next hq =>
    simp only [Validation.publish, check_bind_eq_ok, require_eq_ok, if_neg hq]
    exact ⟨h.1, h.2.1, trivial⟩

/-- The first byte of a PUBLISH gives its flags back. -/
theorem MqttPublish.flags_decode {p : MqttPublish} (h : p.qos ≤ 2) :
    (0x30 ||| p.flags) >>> 4 = 3 ∧ ((0x30 ||| p.flags) &&& 0x06) >>> 1 = p.qos ∧
      decide ((0x30 ||| p.flags) &&& 0x8 ≠ 0) = p.dup ∧
      decide ((0x30 ||| p.flags) &&& 0x1 ≠ 0) = p.retain := by
  obtain ⟨topic, qos, dup, retain, id, payload, props⟩ := p
  simp only [MqttPublish.flags]
  rcases le_two_cases h with rfl | rfl | rfl <;> cases dup <;> cases retain <;> decide

theorem topic_no_wildcard {p : MqttPublish} (h : p.validate = .ok ()) :
    ¬ ('#' ∈ p.topicName.toList ∨ '+' ∈ p.topicName.toList) ∧
      validateMqttUtf8String p.topicName = .ok () := by
  simp only [MqttPublish.validate, check_bind_eq_ok] at h
  obtain ⟨-, -, htopic⟩ := h
  split at htopic
  next hempty => rw [hempty]; exact ⟨by decide, rfl⟩
  next =>
    rw [validateTopic_eq_ok] at htopic
    exact ⟨fun hw => htopic.2.2 hw.symm, htopic.1.2⟩

theorem MqttPublish.validate_normalize {p : MqttPublish} (h : p.validate = .ok ()) :
    p.normalize.validate = .ok () := by
  simp only [MqttPublish.validate, check_bind_eq_ok] at h ⊢
  exact ⟨(publish_validate_ok h.1).2.2, h.2⟩

theorem readPacketId_at {qos : UInt8} {id : Option UInt16} (hsome : qos > 0 → id.isSome)
    (hdr topic rest : Bytes) {b : Bytes}
    (hb : b = hdr ++ (topic ++ (wireIdBytes (wireId qos id) ++ rest))) :
    readPacketId qos b (hdr.length + topic.length) =
      .ok (wireId qos id, hdr.length + topic.length + (wireIdBytes (wireId qos id)).length) := by
  unfold readPacketId
  unfold wireId at hb ⊢
  split
  next hq =>
    obtain ⟨id, rfl⟩ := Option.isSome_iff_exists.mp (hsome hq)
    rw [if_pos hq, wireIdBytes] at hb
    have hfrom := getFrom_at (hdr ++ topic) (TwoByteInteger.encode id ++ rest) (b := b)
      (n := hdr.length + topic.length) (by simp [hb]) (by simp)
    simp only [hfrom, ok_bind, parsePacketId, TwoByteInteger.reads id _, pure_eq_ok, wireIdBytes]
  next => rfl

theorem MqttPublish.fromBytes_toBytes {p : MqttPublish} {b : Bytes} (h : p.toBytes true = .ok b)
    (hlen : remainingLength b ≤ VariableByteInteger.maxValue) :
    MqttPublish.fromBytes true b = .ok (.packet (.publish5 p.normalize) b.length) := by
  obtain ⟨props, hvalid, hstr, hsome, hprops, rfl⟩ := MqttPublish.toBytes_ok h
  replace hvalid := hvalid rfl
  rw [remainingLength_frame] at hlen
  have hpub : p.qos ≤ 2 ∧ (p.qos ≠ 0 ∨ p.dup = false) ∧ _ := publish_validate_ok (by
    rw [MqttPublish.validate, check_bind_eq_ok] at hvalid; exact hvalid.1)
  obtain ⟨hkind, hqos, hdup, hretain⟩ := MqttPublish.flags_decode hpub.1
  obtain ⟨hwild, hutf⟩ := topic_no_wildcard hvalid
  have htopic := Utf8String.reads true hstr (fun _ => hutf)
  have hsection := parsePropertiesHdr_reads hprops (by simp [publishBody] at hlen; omega)
  have hq3 : ¬ p.qos = 3 := by
    rcases le_two_cases hpub.1 with h | h | h <;> rw [h] <;> decide
  have hq0 : ¬ (p.qos = 0 ∧ p.dup = true) := by
    rintro ⟨h0, h1⟩
    rcases hpub.2.1 with h | h
    · exact h h0
    · rw [h1] at h; cases h
  unfold MqttPublish.fromBytes
  have hhead : (frame (0x30 ||| p.flags) (publishBody p.topicName (wireId p.qos p.packetId) props
      p.payload)).head? = some (0x30 ||| p.flags) := rfl
  simp only [hhead, Decode.okOr_some, expectType_frame (k := .publish) hkind,
    withFrame_frame hlen, ok_bind, hqos, hdup, hretain, true_and, rejectIf_neg _ hq3,
    rejectIf_neg _ hq0]
  generalize hb : frame (0x30 ||| p.flags) _ = b
  unfold frame at hb
  generalize frameHeader (0x30 ||| p.flags) _ = hdr at hb ⊢
  unfold publishBody at hb
  have hid := readPacketId_at hsome hdr (Utf8String.encode p.topicName) (props ++ p.payload)
    hb.symm
  have htop := getFrom_at hdr _ hb.symm rfl
  have hprop := getFrom_at (hdr ++ Utf8String.encode p.topicName ++
    wireIdBytes (wireId p.qos p.packetId)) (props ++ p.payload) (b := b)
    (n := hdr.length + (Utf8String.encode p.topicName).length +
      (wireIdBytes (wireId p.qos p.packetId)).length) (by simp [← hb]) (by simp [Nat.add_assoc])
  have hpay := getRange_at (hdr ++ Utf8String.encode p.topicName ++
    wireIdBytes (wireId p.qos p.packetId) ++ props) p.payload (b := b)
    (n := hdr.length + (Utf8String.encode p.topicName).length +
      (wireIdBytes (wireId p.qos p.packetId)).length + props.length) (by simp [← hb])
    (by simp [Nat.add_assoc]) rfl
  simp only [htop, parseUtf8String, htopic _, ok_bind, rejectIf_neg _ hwild,
    hid, hprop, hsection _]
  generalize hoff : hdr.length + (Utf8String.encode p.topicName).length +
      (wireIdBytes (wireId p.qos p.packetId)).length + props.length = off at hpay ⊢
  have htotal : off + p.payload.length = b.length := by
    rw [← hoff, ← hb]
    simp [Nat.add_assoc]
  have hend : off + (b.length - off) = b.length := by omega
  simp only [if_neg (show ¬ b.length < off by omega), hend, hpay, ok_bind]
  rw [rejectIf_neg _ (by simp), ok_bind]
  exact validatedPacket_ok (p := .publish5 p.normalize) (MqttPublish.validate_normalize hvalid) _

/-! ## SUBSCRIBE -/

theorem TopicSubscription.options_decode {s : TopicSubscription} (hq : s.qos ≤ 2)
    (hr : s.retainHandling ≤ 2) :
    s.encodeSubscriptionOptions &&& 0xC0 = 0 ∧ s.encodeSubscriptionOptions &&& 0x03 = s.qos ∧
      decide (s.encodeSubscriptionOptions &&& 0x04 ≠ 0) = s.noLocal ∧
      decide (s.encodeSubscriptionOptions &&& 0x08 ≠ 0) = s.retainAsPublished ∧
      (s.encodeSubscriptionOptions >>> 4) &&& 0x03 = s.retainHandling := by
  obtain ⟨filter, qos, noLocal, retain, handling⟩ := s
  simp only [TopicSubscription.encodeSubscriptionOptions]
  rcases le_two_cases hq with rfl | rfl | rfl <;> rcases le_two_cases hr with rfl | rfl | rfl <;>
    cases noLocal <;> cases retain <;> decide

/-- The bytes of one subscription. -/
def TopicSubscription.wire (s : TopicSubscription) : Bytes :=
  Utf8String.encode s.topicFilter ++ [s.encodeSubscriptionOptions]

theorem TopicSubscription.toBytes_eq {s : TopicSubscription} {b : Bytes}
    (h : s.toBytes true = .ok b) : b = s.wire := by
  rw [TopicSubscription.toBytes, check_bind_eq_ok, bind_eq_ok] at h
  obtain ⟨-, filter, hfilter, hb⟩ := h
  obtain ⟨-, -, rfl⟩ := encodeUtf8String_ok hfilter
  exact (Except.ok.inj hb).symm

theorem TopicSubscription.reads {s : TopicSubscription} (h : s.toBytes true = .ok s.wire) :
    Reads (TopicSubscription.fromBytes true) s.wire s := by
  intro rest
  rw [TopicSubscription.toBytes, check_bind_eq_ok, onlyIf_true, bind_eq_ok] at h
  obtain ⟨hsub, filter, hfilter, -⟩ := h
  obtain ⟨hlen, hutf, rfl⟩ := encodeUtf8String_ok hfilter
  have hsub' := hsub
  simp only [Validation.subscription, check_bind_eq_ok, require_eq_ok] at hsub'
  obtain ⟨htf, hsh, hq, hr, hnl⟩ := hsub'
  obtain ⟨hc0, hq', hn', hp', hr'⟩ := TopicSubscription.options_decode hq hr
  have htopic := Utf8String.reads true hlen hutf ([s.encodeSubscriptionOptions] ++ rest)
  have hbyte := getByte_at (Utf8String.encode s.topicFilter) rest s.encodeSubscriptionOptions
    (b := s.wire ++ rest) (by simp [wire]) rfl
  have hnot : ¬ (s.noLocal = true ∧ isShared s.topicFilter = true) := by
    rintro ⟨h₁, h₂⟩
    rcases hnl with h | h <;> simp_all
  have hc0' : ¬ s.encodeSubscriptionOptions &&& 0xC0 ≠ 0 := not_not_intro hc0
  unfold TopicSubscription.fromBytes
  rw [indexFrom_at [] (s.wire ++ rest) (b := s.wire ++ rest) (n := 0) rfl rfl, ok_bind,
    parseUtf8String, wire, List.append_assoc, htopic]
  rw [wire, List.append_assoc] at hbyte
  simp only [ok_bind, onlyIf_true, htf, hsh, Decode.check_ok, hbyte, true_and,
    rejectIf_neg _ hc0', hq', hn', hp', hr', rejectIf_neg _ hnot, hsub, pure_eq_ok,
    List.length_append, List.length_singleton]

theorem TopicSubscription.wire_ne_nil (s : TopicSubscription) : s.wire ≠ [] := by
  simp [wire]

theorem MqttSubscribe.fromBytes_toBytes {p : MqttSubscribe} {b : Bytes}
    (h : (MqttPacket.subscribe5 p).toBytes true = .ok b)
    (hlen : remainingLength b ≤ VariableByteInteger.maxValue) :
    MqttSubscribe.fromBytes true b = .ok (.packet (.subscribe5 p) b.length) := by
  obtain ⟨vhdr, pl, hvalid, hvhdr, hpl, rfl⟩ := encodePacket_ok h
  rw [MqttSubscribe.variableHeader, check_bind_eq_ok, rejectIf_eq_ok, bind_eq_ok] at hvhdr
  obtain ⟨hid0, props, hprops, hvhdr⟩ := hvhdr
  obtain rfl := Except.ok.inj hvhdr
  rw [MqttSubscribe.payload, check_bind_eq_ok, rejectIf_eq_ok] at hpl
  obtain ⟨hne, hpl⟩ := hpl
  obtain ⟨rfl, hsubs⟩ := encodeEach_ok TopicSubscription.wire
    (fun _ _ => TopicSubscription.toBytes_eq) hpl
  rw [remainingLength_frame] at hlen
  have hsection := parsePropertiesHdr_reads hprops (by simp at hlen; omega)
  simp only [true_and] at hid0 hne
  unfold MqttSubscribe.fromBytes
  rw [expectType_frame (by rfl), withFrame_frame hlen]
  rw [onlyIf_true, expectFlags_frame (by rfl), ok_bind, ok_bind]
  generalize hb : frame _ _ = b
  unfold frame at hb
  generalize frameHeader _ _ = hdr at hb ⊢
  have hid := getFrom_at hdr _ hb.symm rfl
  have hprop := getRange_at (hdr ++ TwoByteInteger.encode p.packetId)
    (props ++ p.subscriptions.flatMap TopicSubscription.wire) (b := b)
    (n := hdr.length + (TwoByteInteger.encode p.packetId).length) (by simp [← hb]) (by simp) rfl
  have hfuel : p.subscriptions.length < b.length + 1 := by
    have := length_le_flatMap TopicSubscription.wire_ne_nil p.subscriptions
    rw [← hb]
    simp only [List.length_append]
    omega
  have hmany := readMany_slice _ TopicSubscription.wire_ne_nil
    (fun s hs => TopicSubscription.reads (hsubs s hs))
    (hdr ++ TwoByteInteger.encode p.packetId ++ props) (b := b) (by simp [← hb])
    (fun front rest hcut => indexFrom_at front rest hcut rfl) hfuel
    (n := hdr.length + (TwoByteInteger.encode p.packetId).length + props.length)
    (by simp [Nat.add_assoc]) rfl
  simp only [hid, parsePacketId, List.append_assoc, TwoByteInteger.reads p.packetId _, ok_bind,
    true_and, rejectIf_neg _ hid0, hprop, hsection _, hmany, rejectIf_neg _ hne]
  rw [rejectIf_neg _ (by simp), ok_bind]
  exact validatedPacket_ok (p := .subscribe5 p) hvalid _

/-! ## SUBACK and UNSUBACK -/

theorem subAckFromBytes_frame {kind : ControlPacketType} {name : String}
    {mk : UInt16 → Bytes → Properties → MqttPacket} {packetId : UInt16} {reasonCodes : Bytes}
    {properties : Properties} {vhdr pl : Bytes}
    (hkind : ((kind.code <<< 4) ||| 0) >>> 4 = kind.code)
    (hfixed : Validation.fixedHeader ((kind.code <<< 4) ||| 0) = .ok ())
    (hvalid : (mk packetId reasonCodes properties).validateStrict = .ok ())
    (hvhdr : subAckVariableHeader name true packetId properties = .ok vhdr)
    (hpl : subAckPayload name true reasonCodes = .ok pl)
    (hlen : (vhdr ++ pl).length ≤ VariableByteInteger.maxValue) :
    subAckFromBytes kind name mk true (frame ((kind.code <<< 4) ||| 0) (vhdr ++ pl)) =
      .ok (.packet (mk packetId reasonCodes properties)
        (frame ((kind.code <<< 4) ||| 0) (vhdr ++ pl)).length) := by
  rw [subAckVariableHeader, check_bind_eq_ok, rejectIf_eq_ok, bind_eq_ok] at hvhdr
  obtain ⟨hid0, props, hprops, hvhdr⟩ := hvhdr
  obtain rfl := Except.ok.inj hvhdr
  rw [subAckPayload, check_bind_eq_ok, rejectIf_eq_ok] at hpl
  obtain ⟨hne, hpl⟩ := hpl
  obtain rfl := Except.ok.inj hpl
  have hsection := parsePropertiesHdr_reads hprops (by simp at hlen; omega)
  simp only [true_and] at hid0 hne
  unfold subAckFromBytes
  rw [expectType_frame hkind, withFrame_frame hlen, headD_frame, hfixed, onlyIf_true,
    Decode.check_ok, ok_bind, ok_bind]
  generalize hb : frame _ _ = b
  unfold frame at hb
  generalize frameHeader _ _ = hdr at hb ⊢
  have hid := getFrom_at hdr _ hb.symm rfl
  have hprop := getRange_at (hdr ++ TwoByteInteger.encode packetId) (props ++ reasonCodes) (b := b)
    (n := hdr.length + (TwoByteInteger.encode packetId).length) (by simp [← hb]) (by simp) rfl
  have hcodes := getRange_at (hdr ++ TwoByteInteger.encode packetId ++ props) reasonCodes (b := b)
    (n := hdr.length + (TwoByteInteger.encode packetId).length + props.length) (by simp [← hb])
    (by simp [Nat.add_assoc]) rfl
  simp only [hid, parsePacketId, List.append_assoc, TwoByteInteger.reads packetId _, ok_bind,
    true_and, rejectIf_neg _ hid0, hprop, hsection _, hcodes, rejectIf_neg _ hne]
  exact validatedPacket_ok hvalid _

theorem MqttSubAck.fromBytes_toBytes {p : MqttSubAck} {b : Bytes}
    (h : (MqttPacket.subAck5 p).toBytes true = .ok b)
    (hlen : remainingLength b ≤ VariableByteInteger.maxValue) :
    MqttSubAck.fromBytes true b = .ok (.packet (.subAck5 p) b.length) := by
  obtain ⟨vhdr, pl, hvalid, hvhdr, hpl, rfl⟩ := encodePacket_ok h
  rw [remainingLength_frame] at hlen
  exact subAckFromBytes_frame rfl rfl hvalid hvhdr hpl hlen

theorem MqttUnsubAck.fromBytes_toBytes {p : MqttUnsubAck} {b : Bytes}
    (h : (MqttPacket.unsubAck5 p).toBytes true = .ok b)
    (hlen : remainingLength b ≤ VariableByteInteger.maxValue) :
    MqttUnsubAck.fromBytes true b = .ok (.packet (.unsubAck5 p) b.length) := by
  obtain ⟨vhdr, pl, hvalid, hvhdr, hpl, rfl⟩ := encodePacket_ok h
  rw [remainingLength_frame] at hlen
  exact subAckFromBytes_frame rfl rfl hvalid hvhdr hpl hlen

/-! ## UNSUBSCRIBE -/

theorem encodeUtf8String_eq {s : String} {b : Bytes} (h : encodeUtf8String true s = .ok b) :
    b = Utf8String.encode s := (encodeUtf8String_ok h).2.2

theorem utf8Encode_ne_nil (s : String) : Utf8String.encode s ≠ [] := by
  intro h
  have := congrArg List.length h
  simp at this

theorem MqttUnsubscribe.fromBytes_toBytes {p : MqttUnsubscribe} {b : Bytes}
    (h : (MqttPacket.unsubscribe5 p).toBytes true = .ok b)
    (hlen : remainingLength b ≤ VariableByteInteger.maxValue) :
    MqttUnsubscribe.fromBytes true b = .ok (.packet (.unsubscribe5 p) b.length) := by
  obtain ⟨vhdr, pl, hvalid, hvhdr, hpl, rfl⟩ := encodePacket_ok h
  rw [MqttUnsubscribe.variableHeader, check_bind_eq_ok, rejectIf_eq_ok, bind_eq_ok] at hvhdr
  obtain ⟨hid0, props, hprops, hvhdr⟩ := hvhdr
  obtain rfl := Except.ok.inj hvhdr
  rw [MqttUnsubscribe.payload, check_bind_eq_ok, rejectIf_eq_ok] at hpl
  obtain ⟨hne, hpl⟩ := hpl
  obtain ⟨rfl, hfilters⟩ := encodeEach_ok Utf8String.encode
    (fun _ _ => encodeUtf8String_eq) hpl
  rw [remainingLength_frame] at hlen
  have hsection := parsePropertiesHdr_reads hprops (by simp at hlen; omega)
  simp only [true_and] at hid0 hne
  unfold MqttUnsubscribe.fromBytes
  rw [expectType_frame (by rfl), withFrame_frame hlen]
  rw [onlyIf_true, expectFlags_frame (by rfl), ok_bind, ok_bind]
  generalize hb : frame _ _ = b
  unfold frame at hb
  generalize frameHeader _ _ = hdr at hb ⊢
  have hid := getFrom_at hdr _ hb.symm rfl
  have hprop := getRange_at (hdr ++ TwoByteInteger.encode p.packetId)
    (props ++ p.topicFilters.flatMap Utf8String.encode) (b := b)
    (n := hdr.length + (TwoByteInteger.encode p.packetId).length) (by simp [← hb]) (by simp) rfl
  have hfuel : p.topicFilters.length < b.length + 1 := by
    have := length_le_flatMap utf8Encode_ne_nil p.topicFilters
    rw [← hb]
    simp only [List.length_append]
    omega
  have hreads : ∀ f ∈ p.topicFilters, Reads (parseUtf8String true) (Utf8String.encode f) f := by
    intro f hf
    obtain ⟨hl, hu, -⟩ := encodeUtf8String_ok (hfilters f hf)
    exact Utf8String.reads true hl hu
  have hmany := readMany_slice _ utf8Encode_ne_nil hreads
    (hdr ++ TwoByteInteger.encode p.packetId ++ props) (b := b) (by simp [← hb])
    (fun front rest hcut => indexFrom_at front rest hcut rfl) hfuel
    (n := hdr.length + (TwoByteInteger.encode p.packetId).length + props.length)
    (by simp [Nat.add_assoc]) rfl
  simp only [hid, parsePacketId, List.append_assoc, TwoByteInteger.reads p.packetId _, ok_bind,
    true_and, rejectIf_neg _ hid0, hprop, hsection _, hmany, rejectIf_neg _ hne]
  rw [rejectIf_neg _ (by simp), ok_bind]
  exact validatedPacket_ok (p := .unsubscribe5 p) hvalid _

/-! ## DISCONNECT and AUTH -/

theorem MqttDisconnect.fromBytes_toBytes {p : MqttDisconnect} {b : Bytes}
    (h : (MqttPacket.disconnect5 p).toBytes true = .ok b)
    (hlen : remainingLength b ≤ VariableByteInteger.maxValue) :
    MqttDisconnect.fromBytes true b = .ok (.packet (.disconnect5 p) b.length) := by
  obtain ⟨vhdr, pl, hvalid, hvhdr, hpl, rfl⟩ := encodePacket_ok h
  obtain rfl := Except.ok.inj hpl
  rw [List.append_nil] at hlen ⊢
  rw [remainingLength_frame] at hlen
  unfold MqttDisconnect.fromBytes
  rw [expectType_frame (by rfl), withFrame_frame hlen, onlyIf_true, expectFlags_frame (by rfl),
    ok_bind, ok_bind]
  unfold MqttDisconnect.variableHeader at hvhdr
  split at hvhdr
  next hshort =>
    -- the short form: a normal disconnect has no bytes at all
    obtain rfl := Except.ok.inj hvhdr
    have hp : ({ reasonCode := 0, properties := [] } : MqttDisconnect) = p := by
      cases p; simp_all
    simp only [MqttDisconnect.readFields, List.length_nil, gt_iff_lt, Nat.lt_irrefl, if_false,
      ok_bind]
    rw [rejectIf_neg _ (by simp [frame]), ok_bind, hp]
    exact validatedPacket_ok (p := .disconnect5 p) hvalid _
  next =>
    rw [bind_eq_ok] at hvhdr
    obtain ⟨props, hprops, hvhdr⟩ := hvhdr
    obtain rfl := Except.ok.inj hvhdr
    have hsection := (parsePropertiesHdr_reads hprops (by simp at hlen; omega)).nil
    have hpos := encodeProperitiesHdr_length_pos hprops
    generalize hb : frame _ _ = b
    unfold frame at hb
    generalize frameHeader _ _ = hdr at hb ⊢
    have htotal : hdr.length + 1 + props.length = b.length := by rw [← hb]; simp; omega
    have hbyte := index_at hdr props p.reasonCode hb.symm rfl
    have hrange := getRange_at (hdr ++ [p.reasonCode]) props (b := b) (n := hdr.length + 1)
      (by simp [← hb]) (by simp) rfl
    have hsize : ([p.reasonCode] ++ props).length > 0 := by simp
    have hge : ¬ hdr.length ≥ b.length := by omega
    have hlt : hdr.length + 1 < b.length := by omega
    simp only [MqttDisconnect.readFields, hsize, if_true, rejectIf_neg _ hge, ok_bind, hbyte,
      readProperties, hlt, hrange, hsection, pure_eq_ok, htotal]
    rw [rejectIf_neg _ (by simp), ok_bind]
    exact validatedPacket_ok (p := .disconnect5 p) hvalid _

theorem MqttAuth.fromBytes_toBytes {p : MqttAuth} {b : Bytes}
    (h : (MqttPacket.auth p).toBytes true = .ok b)
    (hlen : remainingLength b ≤ VariableByteInteger.maxValue) :
    MqttAuth.fromBytes true b = .ok (.packet (.auth p) b.length) := by
  obtain ⟨vhdr, pl, hvalid, hvhdr, hpl, rfl⟩ := encodePacket_ok h
  obtain rfl := Except.ok.inj hpl
  rw [List.append_nil] at hlen ⊢
  rw [remainingLength_frame] at hlen
  unfold MqttAuth.fromBytes
  rw [expectType_frame (by rfl), withFrame_frame hlen, onlyIf_true, expectFlags_frame (by rfl),
    ok_bind, ok_bind]
  rw [MqttAuth.variableHeader, bind_eq_ok] at hvhdr
  obtain ⟨props, hprops, hvhdr⟩ := hvhdr
  obtain rfl := Except.ok.inj hvhdr
  have hsection := (parsePropertiesHdr_reads hprops (by simp at hlen; omega)).nil
  have hsize : ¬ ([p.reasonCode] ++ props).length = 0 := by simp
  generalize hb : frame _ _ = b
  unfold frame at hb
  generalize frameHeader _ _ = hdr at hb ⊢
  have htotal : hdr.length + 1 + props.length = b.length := by rw [← hb]; simp; omega
  have hbyte := index_at hdr props p.reasonCode hb.symm rfl
  have hrange := getRange_at (hdr ++ [p.reasonCode]) props (b := b) (n := hdr.length + 1)
    (by simp [← hb]) (by simp) rfl
  have hge : ¬ hdr.length ≥ b.length := by omega
  simp only [hsize, if_false, rejectIf_neg _ hge, ok_bind, hbyte, hrange, hsection, htotal]
  rw [rejectIf_neg _ (by simp), ok_bind]
  exact validatedPacket_ok (p := .auth p) hvalid _

/-! ## PINGREQ and PINGRESP -/

theorem pingFromBytes_frame {kind : ControlPacketType} {name : String} {p : MqttPacket}
    (hkind : ((kind.code <<< 4) ||| 0) >>> 4 = kind.code)
    (hflags : ((kind.code <<< 4) ||| 0) &&& 0x0F = 0) :
    pingFromBytes kind name p true (frame ((kind.code <<< 4) ||| 0) []) =
      .ok (.packet p (frame ((kind.code <<< 4) ||| 0) []).length) := by
  unfold pingFromBytes
  rw [expectType_frame hkind, withFrame_frame (Nat.zero_le _), ok_bind]
  rw [rejectIf_neg _ (by simp), ok_bind, onlyIf_true, expectFlags_frame hflags, ok_bind,
    pure_eq_ok]

end V5

end FlowSdk
