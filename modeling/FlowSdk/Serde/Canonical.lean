/-
  FlowSdk.Serde.Canonical — everything the strict decoder accepts can be written again.

  The MQTT 3 decoders are taken one by one as those of MQTT 5 were, and both are put behind the
  dispatch on the packet type and the protocol version.

  Main result:
    1. `MqttPacket.fromBytesWithVersion_canonical`   a packet that was accepted is written, and
                                                     the frame is read back to the same packet
-/
import FlowSdk.Serde.Canonical5

namespace FlowSdk

open Wire

/-! ## MQTT 3 -/

namespace V3

section Packets

variable {f : Bytes} {size offset : Nat}

theorem MqttConnAck.fromBytes_repeats (h : HasBody true f size offset) :
    Yields (MqttConnAck.fromBytes true f) (Repeats MqttConnAck.fromBytes) := by
  refine .bind fun _ _ => .bind fun _ _ => ?_
  rw [h.withFrame_eq]
  refine .rejectIf fun _ => .bind fun present _ => .rejectIf fun _ => .bind fun code _ => ?_
  refine .rejectIf fun hcode => validatedPacket_repeats fun hvalid => ?_
  have hvhdr : MqttConnAck.variableHeader ⟨present = 0x01, code⟩ =
      .ok [if decide (present = 0x01) = true then 1 else 0, code] := by
    unfold MqttConnAck.variableHeader
    rw [rejectIf_neg _ hcode]
    rfl
  exact .of_encodePacket rfl hvalid hvhdr rfl (show 2 ≤ _ by decide)
    fun g hg _ => MqttConnAck.fromBytes_toBytes hg

theorem PacketIdAck.fromBytes_repeats {kind : ControlPacketType} {flags : UInt8} (name : String)
    {mk : PacketIdAck → MqttPacket}
    (hkind : ((kind.code <<< 4) ||| flags) >>> 4 = kind.code)
    (hflags : ((kind.code <<< 4) ||| flags) &&& 0x0F = flags)
    (hmk : ∀ p, (mk p).validateStrict = p.validate)
    (hwrite : ∀ p, (mk p).toBytes true = p.toBytes kind flags true)
    (h : HasBody true f size offset) :
    Yields (PacketIdAck.fromBytes kind flags name mk true f)
      (Repeats (PacketIdAck.fromBytes kind flags name mk)) := by
  refine .bind fun _ _ => .bind fun _ _ => ?_
  rw [h.withFrame_eq]
  refine .rejectIf fun _ => .bind fun id _ => validatedPacket_repeats fun hvalid => ?_
  refine .of_encodePacket (hwrite _) ((hmk _).symm.trans hvalid) rfl rfl ?_ fun g hg _ =>
    PacketIdAck.fromBytes_toBytes name hkind hflags (hmk _) ((hwrite _).symm.trans hg)
  rw [TwoByteInteger.encode_length]
  decide

theorem readMessageId_writes {qos : UInt8} {n m : Nat} {id : Option UInt16} {message : String}
    (h : readMessageId qos f n f.length = .ok (id, m)) :
    publishId qos id message = .ok id ∧ wireId qos id = id ∧ m = n + (wireIdBytes id).length := by
  unfold readMessageId at h
  unfold publishId wireId
  split at h
  next hqos =>
    obtain ⟨-, h⟩ := check_bind_eq_ok.mp h
    obtain ⟨messageId, -, heq⟩ := bind_eq_ok.mp h
    cases heq
    rw [if_pos hqos, if_pos hqos]
    exact ⟨rfl, rfl, rfl⟩
  next hqos =>
    cases h
    rw [if_neg hqos, if_neg hqos]
    exact ⟨rfl, rfl, rfl⟩

theorem MqttPublish.toBytes_writes {p : MqttPublish} (hvalid : p.validate = .ok ())
    (hid : publishId p.qos p.messageId "Message ID is required for QoS > 0" = .ok p.messageId)
    (hwire : wireId p.qos p.messageId = p.messageId) :
    p.toBytes true =
      .ok (frame (0x30 ||| p.flags) (publishBody p.topicName p.messageId [] p.payload)) := by
  obtain ⟨b, hb⟩ : ∃ b, p.toBytes true = .ok b := by
    unfold MqttPublish.toBytes
    rw [onlyIf_true, hvalid, ok_bind, hid]
    exact ⟨_, rfl⟩
  obtain ⟨-, -, rfl⟩ := MqttPublish.toBytes_ok hb
  rw [hb, hwire]

theorem MqttPublish.fromBytes_repeats (h : HasBody true f size offset)
    (hsize : size ≤ VariableByteInteger.maxValue) :
    Yields (MqttPublish.fromBytes true f) (Repeats MqttPublish.fromBytes) := by
  refine .bind fun _ _ => .rejectIf fun _ => ?_
  rw [h.withFrame_eq]
  refine .bind fun _ _ => .bind fun ⟨topic, c⟩ htopic => .bind fun ⟨id, m⟩ hid => ?_
  refine .bind fun payload hpayload => validatedPacket_repeats fun hvalid => ?_
  obtain ⟨htext, rfl⟩ := Utf8String.decode_writes htopic
  obtain ⟨hwritten, hwire, rfl⟩ := readMessageId_writes hid
  have hlength := indexRange_length hpayload
  have hwrite := MqttPublish.toBytes_writes hvalid hwritten hwire
  have htotal := h.total
  refine ⟨_, hwrite, ?_⟩
  have hread := MqttPublish.fromBytes_toBytes hwrite (by
    rw [remainingLength_frame, V5.publishBody_length, List.length_nil]
    dsimp only
    omega)
  rwa [MqttPublish.normalize, hwire] at hread

/-! ### Lists of topics -/

theorem SubscriptionTopic.fromBytes_writes {stop n c : Nat} {sub : SubscriptionTopic}
    (h : SubscriptionTopic.fromBytes true f stop n = .ok (sub, c)) :
    sub.toBytes = .ok sub.wire ∧ sub.wire.length ≤ c := by
  obtain ⟨slice, -, h⟩ := bind_eq_ok.mp h
  obtain ⟨⟨filter, c⟩, hfilter, h⟩ := bind_eq_ok.mp h
  obtain ⟨-, h⟩ := check_bind_eq_ok.mp h
  obtain ⟨qos, -, h⟩ := bind_eq_ok.mp h
  obtain ⟨hqos, heq⟩ := check_bind_eq_ok.mp h
  rw [rejectIf_eq_ok] at hqos
  cases heq
  obtain ⟨-, rfl⟩ := Utf8String.decode_writes hfilter
  refine ⟨?_, Nat.le_of_eq ?_⟩
  · unfold SubscriptionTopic.toBytes
    rw [rejectIf_neg _ hqos]
    rfl
  · rw [SubscriptionTopic.wire, List.length_append, Utf8String.encode_length,
      List.length_singleton]

theorem MqttSubscribe.fromBytes_repeats (h : HasBody true f size offset)
    (hsize : size ≤ VariableByteInteger.maxValue) :
    Yields (MqttSubscribe.fromBytes true f) (Repeats MqttSubscribe.fromBytes) := by
  refine .bind fun _ _ => .bind fun _ _ => ?_
  rw [h.withFrame_eq]
  refine .rejectIf fun _ => .bind fun id _ => .bind fun ⟨subs, last⟩ hsubs => ?_
  refine .rejectIf fun hlast => validatedPacket_repeats fun hvalid => ?_
  obtain ⟨hwrites, hsum⟩ := readMany_size (fun sub => sub.toBytes = .ok sub.wire)
    (fun sub => sub.wire.length) SubscriptionTopic.fromBytes_writes hsubs
  refine .of_encodePacket rfl hvalid rfl (encodeEach_writes hwrites) ?_
    fun g hg hlen => MqttSubscribe.fromBytes_toBytes hg hlen
  have htotal := h.total
  rw [TwoByteInteger.encode_length, List.length_flatMap]
  dsimp only
  omega

theorem MqttUnsubscribe.fromBytes_repeats (h : HasBody true f size offset)
    (hsize : size ≤ VariableByteInteger.maxValue) :
    Yields (MqttUnsubscribe.fromBytes true f) (Repeats MqttUnsubscribe.fromBytes) := by
  refine .bind fun _ _ => .bind fun _ _ => ?_
  rw [h.withFrame_eq]
  refine .rejectIf fun _ => .bind fun id _ => .bind fun ⟨filters, last⟩ hfilters => ?_
  refine .rejectIf fun hlast => validatedPacket_repeats fun hvalid => ?_
  obtain ⟨-, hsum⟩ := readMany_size (fun _ => True) (fun filter => (Utf8String.encode filter).length)
    (fun {n filter c} hread => by
      obtain ⟨slice, -, hread⟩ := bind_eq_ok.mp hread
      obtain ⟨-, rfl⟩ := Utf8String.decode_writes hread
      exact ⟨trivial, Nat.le_of_eq (Utf8String.encode_length _)⟩) hfilters
  refine .of_encodePacket rfl hvalid rfl rfl ?_
    fun g hg hlen => MqttUnsubscribe.fromBytes_toBytes hg hlen
  have htotal := h.total
  rw [TwoByteInteger.encode_length, List.length_flatMap]
  dsimp only
  omega

theorem MqttSubAck.fromBytes_repeats (h : HasBody true f size offset)
    (hsize : size ≤ VariableByteInteger.maxValue) :
    Yields (MqttSubAck.fromBytes true f) (Repeats MqttSubAck.fromBytes) := by
  refine .bind fun _ _ => .bind fun _ _ => ?_
  rw [h.withFrame_eq]
  refine .rejectIf fun _ => .bind fun id _ => .bind fun codes hcodes => .bind fun _ heach => ?_
  refine validatedPacket_repeats fun hvalid => ?_
  simp only [forEach_eq_ok, rejectIf_eq_ok] at heach
  have hpl : MqttSubAck.payload ⟨id, codes⟩ = .ok codes := by
    unfold MqttSubAck.payload
    rw [forEach_eq_ok (u := ()) |>.mpr fun code hcode => rejectIf_neg _ (heach code hcode)]
    rfl
  have hlength := indexRange_length hcodes
  have htotal := h.total
  refine .of_encodePacket rfl hvalid rfl hpl ?_ fun g hg hlen => MqttSubAck.fromBytes_toBytes hg hlen
  rw [TwoByteInteger.encode_length]
  omega

/-! ### Packets without fields -/

theorem pingFromBytes_repeats {kind : ControlPacketType} {name : String} {p : MqttPacket}
    (hkind : ((kind.code <<< 4) ||| 0) >>> 4 = kind.code)
    (hflags : ((kind.code <<< 4) ||| 0) &&& 0x0F = 0)
    (hp : p.toBytes true = .ok (frame ((kind.code <<< 4) ||| 0) []))
    (h : HasBody true f size offset) :
    Yields (pingFromBytes kind name p true f) (Repeats (pingFromBytes kind name p)) := by
  refine .bind fun _ _ => .bind fun _ _ => ?_
  split
  next => exact .ok fun p n heq => by cases heq
  next =>
    rw [h.withFrame_eq]
    exact .rejectIf fun _ => .ok (.packet ⟨_, hp, pingFromBytes_frame hkind hflags⟩)

theorem MqttDisconnect.fromBytes_repeats (h : HasBody true f size offset) :
    Yields (MqttDisconnect.fromBytes true f) (Repeats MqttDisconnect.fromBytes) := by
  refine .bind fun _ _ => .bind fun _ _ => ?_
  rw [h.withFrame_eq]
  exact .rejectIf fun _ => .ok (.packet ⟨_, rfl, MqttDisconnect.fromBytes_frame⟩)

/-! ### CONNECT -/

theorem indexBinary_writes {n m : Nat} {data : Bytes} (h : indexBinary f n = .ok (data, m)) :
    data.length ≤ u16Max ∧ m = n + (BinaryData.encode data).length := by
  rw [indexBinary_eq] at h
  obtain ⟨slice, -, h⟩ := bind_eq_ok.mp h
  obtain ⟨⟨data, c⟩, hdata, heq⟩ := bind_eq_ok.mp h
  cases heq
  obtain ⟨hlen, rfl⟩ := BinaryData.decode_writes hdata
  exact ⟨hlen, by rw [BinaryData.encode_length]⟩

theorem readWill_writes {flags : UInt8} {n m : Nat} {will : Option Will}
    (h : readWill true f flags n = .ok (will, m)) :
    m = n + (will.elim [] Will.wire).length ∧ ∀ w ∈ will, w.message.length ≤ u16Max := by
  unfold readWill at h
  split at h
  next =>
    obtain ⟨slice, -, h⟩ := bind_eq_ok.mp h
    obtain ⟨⟨topic, c⟩, htopic, h⟩ := bind_eq_ok.mp h
    obtain ⟨⟨message, m⟩, hmessage, heq⟩ := bind_eq_ok.mp h
    cases heq
    obtain ⟨-, rfl⟩ := Utf8String.decode_writes htopic
    obtain ⟨hlen, rfl⟩ := indexBinary_writes hmessage
    refine ⟨?_, fun w hw => ?_⟩
    · rw [Option.elim_some, Will.wire, List.length_append, Utf8String.encode_length, Nat.add_assoc]
    · cases hw
      exact hlen
  next =>
    cases h
    exact ⟨rfl, fun w hw => by cases hw⟩

theorem readUsername_writes {flags : UInt8} {n m : Nat} {username : Option String}
    (h : readUsername true f flags n = .ok (username, m)) :
    m = n + (username.elim [] Utf8String.encode).length ∧ username.isSome = decide (flags &&& 0x80 > 0) := by
  unfold readUsername at h
  split at h
  next hflag =>
    obtain ⟨slice, -, h⟩ := bind_eq_ok.mp h
    obtain ⟨⟨text, c⟩, htext, heq⟩ := bind_eq_ok.mp h
    cases heq
    obtain ⟨-, rfl⟩ := Utf8String.decode_writes htext
    exact ⟨by rw [Option.elim_some, Utf8String.encode_length], (decide_eq_true hflag).symm⟩
  next hflag =>
    cases h
    exact ⟨rfl, (decide_eq_false hflag).symm⟩

theorem readPassword_writes {flags : UInt8} {n m : Nat} {password : Option Bytes}
    (h : readPassword f flags n = .ok (password, m)) :
    m = n + (password.elim [] BinaryData.encode).length ∧ password.isSome = decide (flags &&& 0x40 > 0) ∧
      ∀ data ∈ password, data.length ≤ u16Max := by
  unfold readPassword at h
  split at h
  next hflag =>
    obtain ⟨⟨data, m⟩, hdata, heq⟩ := bind_eq_ok.mp h
    cases heq
    obtain ⟨hlen, rfl⟩ := indexBinary_writes hdata
    refine ⟨rfl, (decide_eq_true hflag).symm, fun data hmem => ?_⟩
    cases hmem
    exact hlen
  next hflag =>
    cases h
    exact ⟨rfl, (decide_eq_false hflag).symm, fun data hmem => nomatch hmem⟩

theorem MqttConnect.fromBytes_repeats (h : HasBody true f size offset)
    (hsize : size ≤ VariableByteInteger.maxValue) :
    Yields (MqttConnect.fromBytes true f) (Repeats MqttConnect.fromBytes) := by
  refine .bind fun _ _ => .bind fun _ _ => ?_
  rw [h.withFrame_eq]
  refine .bind fun _ _ => .bind fun ⟨name, c₁⟩ hname => .bind fun version _ => ?_
  refine .rejectIf fun _ => .rejectIf fun hprotocol => .bind fun flags _ => .bind fun _ _ => ?_
  refine .rejectIf fun _ => .rejectIf fun hflags => ?_
  refine .bind fun _ _ => .bind fun ⟨keepAlive, _⟩ _ => ?_
  refine .bind fun _ _ => .bind fun ⟨client, c₂⟩ hclient => .bind fun ⟨will, n₁⟩ hwill => ?_
  refine .bind fun ⟨username, n₂⟩ husername => .bind fun ⟨password, n₃⟩ hpassword => ?_
  refine .rejectIf fun hend => validatedPacket_repeats fun hvalid => ?_
  obtain ⟨-, rfl⟩ := Utf8String.decode_writes hname
  obtain ⟨-, rfl⟩ := Utf8String.decode_writes hclient
  obtain ⟨rfl, hmessage⟩ := readWill_writes hwill
  obtain ⟨rfl, huserFlag⟩ := readUsername_writes husername
  obtain ⟨rfl, hpassFlag, hpassLen⟩ := readPassword_writes hpassword
  refine .of_encodePacket rfl hvalid rfl rfl ?_ fun g hg hlen =>
    MqttConnect.fromBytes_toBytes hg hlen ⟨not_not.mp hprotocol, ?_, hmessage, hpassLen⟩
  · have htotal := h.total
    simp only [MqttConnect.variableHeader, MqttConnect.payload_eq, List.length_append,
      Utf8String.encode_length, TwoByteInteger.encode_length, List.length_cons, List.length_nil]
    omega
  · -- the password flag without the user name flag was refused
    intro hsome
    rw [hpassFlag, decide_eq_true_eq] at hsome
    rw [huserFlag, decide_eq_true_eq]
    exact not_not.mp fun hno => hflags ⟨hsome, hno⟩

end Packets

end V3

/-! ## Both versions -/

namespace MqttPacket

section Dispatch

variable {f : Bytes} {size offset : Nat}

theorem decoder5_repeats (kind : ControlPacketType) (h : HasBody true f size offset)
    (hsize : size ≤ VariableByteInteger.maxValue) :
    Yields (decoder5 kind true f) (Repeats (decoder5 kind)) := by
  cases kind
  case connect => exact V5.MqttConnect.fromBytes_repeats h hsize
  case connack => exact V5.MqttConnAck.fromBytes_repeats h hsize
  case publish => exact V5.MqttPublish.fromBytes_repeats h hsize
  case puback => exact V5.PacketIdAck.fromBytes_repeats _ rfl rfl (fun _ => rfl) (fun _ => rfl) h hsize
  case pubrec => exact V5.PacketIdAck.fromBytes_repeats _ rfl rfl (fun _ => rfl) (fun _ => rfl) h hsize
  case pubrel => exact V5.PacketIdAck.fromBytes_repeats _ rfl rfl (fun _ => rfl) (fun _ => rfl) h hsize
  case pubcomp => exact V5.PacketIdAck.fromBytes_repeats _ rfl rfl (fun _ => rfl) (fun _ => rfl) h hsize
  case subscribe => exact V5.MqttSubscribe.fromBytes_repeats h hsize
  case suback =>
    unfold decoder5 V5.MqttSubAck.fromBytes
    exact V5.subAckFromBytes_repeats (fun _ _ _ => rfl) rfl rfl h hsize
  case unsubscribe => exact V5.MqttUnsubscribe.fromBytes_repeats h hsize
  case unsuback =>
    unfold decoder5 V5.MqttUnsubAck.fromBytes
    exact V5.subAckFromBytes_repeats (fun _ _ _ => rfl) rfl rfl h hsize
  case pingreq => exact V5.pingFromBytes_repeats rfl rfl rfl h
  case pingresp => exact V5.pingFromBytes_repeats rfl rfl rfl h
  case disconnect => exact V5.MqttDisconnect.fromBytes_repeats h hsize
  case auth => exact V5.MqttAuth.fromBytes_repeats h hsize

theorem decoder3_repeats (kind : ControlPacketType) (h : HasBody true f size offset)
    (hsize : size ≤ VariableByteInteger.maxValue) :
    Yields (decoder3 kind true f) (Repeats (decoder3 kind)) := by
  cases kind
  case connect => exact V3.MqttConnect.fromBytes_repeats h hsize
  case connack => exact V3.MqttConnAck.fromBytes_repeats h
  case publish => exact V3.MqttPublish.fromBytes_repeats h hsize
  case puback => exact V3.PacketIdAck.fromBytes_repeats _ rfl rfl (fun _ => rfl) (fun _ => rfl) h
  case pubrec => exact V3.PacketIdAck.fromBytes_repeats _ rfl rfl (fun _ => rfl) (fun _ => rfl) h
  case pubrel => exact V3.PacketIdAck.fromBytes_repeats _ rfl rfl (fun _ => rfl) (fun _ => rfl) h
  case pubcomp => exact V3.PacketIdAck.fromBytes_repeats _ rfl rfl (fun _ => rfl) (fun _ => rfl) h
  case subscribe => exact V3.MqttSubscribe.fromBytes_repeats h hsize
  case suback => exact V3.MqttSubAck.fromBytes_repeats h hsize
  case unsubscribe => exact V3.MqttUnsubscribe.fromBytes_repeats h hsize
  case unsuback => exact V3.PacketIdAck.fromBytes_repeats _ rfl rfl (fun _ => rfl) (fun _ => rfl) h
  case pingreq => exact V3.pingFromBytes_repeats rfl rfl rfl h
  case pingresp => exact V3.pingFromBytes_repeats rfl rfl rfl h
  case disconnect => exact V3.MqttDisconnect.fromBytes_repeats h
  case auth => exact fun _ hfail => nomatch hfail

/-- Every decoder tests the packet type first. -/
theorem decoder5_expects {kind : ControlPacketType} {g : Bytes} {answer : ParseOk}
    (h : decoder5 kind true g = .ok answer) : expectType kind g = .ok () := by
  cases kind
  case publish =>
    obtain ⟨first, -, h⟩ := bind_eq_ok.mp h
    exact (check_bind_eq_ok.mp h).1
  case suback =>
    unfold decoder5 V5.MqttSubAck.fromBytes V5.subAckFromBytes at h
    exact (check_bind_eq_ok.mp h).1
  case unsuback =>
    unfold decoder5 V5.MqttUnsubAck.fromBytes V5.subAckFromBytes at h
    exact (check_bind_eq_ok.mp h).1
  all_goals exact (check_bind_eq_ok.mp h).1

theorem decoder3_expects {kind : ControlPacketType} {g : Bytes} {answer : ParseOk}
    (h : decoder3 kind true g = .ok answer) : expectType kind g = .ok () := by
  cases kind
  case auth => cases h
  all_goals exact (check_bind_eq_ok.mp h).1

/-- The dispatch finds the decoder whose packet type is there. -/
theorem dispatch_eq {kind : ControlPacketType} {g : Bytes} (h : expectType kind g = .ok ())
    (decoder : ControlPacketType → Decode ParseOk) :
    (do
      let packetTypeByte ← FlowSdk.packetType g
      let found ← Decode.check (ControlPacketType.tryFrom packetTypeByte)
      decoder found) = decoder kind := by
  obtain ⟨byte, hbyte, heq⟩ := bind_eq_ok.mp h
  rw [rejectIf_eq_ok, not_not] at heq
  rw [hbyte, heq]
  cases kind <;> rfl

theorem fromBytesV5_repeats (h : HasBody true f size offset)
    (hsize : size ≤ VariableByteInteger.maxValue) :
    Yields (fromBytesV5 true f) (Repeats fromBytesV5) := by
  refine .bind fun _ _ => .bind fun kind _ answer hanswer p n hpacket => ?_
  obtain ⟨g, hg, hread⟩ := decoder5_repeats kind h hsize answer hanswer p n hpacket
  exact ⟨g, hg, (dispatch_eq (decoder5_expects hread) fun kind => decoder5 kind true g).trans hread⟩

/-- A CONNACK of MQTT 5 does not end before its properties. -/
theorem connAck5_short (first flag code : UInt8) (answer : ParseOk) :
    V5.MqttConnAck.fromBytes true (frame first [flag, code]) ≠ .ok answer := by
  intro h
  unfold V5.MqttConnAck.fromBytes at h
  rw [withFrame_frame (by simp [VariableByteInteger.maxValue])] at h
  simp only [bind_eq_ok] at h
  obtain ⟨-, -, -, -, byte, -, -, -, reason, -, rest, hrest, properties, hproperties, -⟩ := h
  unfold frame at hrest
  generalize frameHeader _ _ = header at hrest
  have hfrom := getFrom_at (header ++ [flag, code]) [] (b := header ++ [flag, code])
    (n := header.length + 2) (by simp) (by simp)
  cases hfrom.symm.trans hrest
  cases hproperties

/-- The decoder of MQTT 5 answers with no CONNACK of MQTT 3: it could not read it again. -/
theorem fromBytesV5_connAck3 {ack : V3.MqttConnAck} {n : Nat} (hf : IsFrame true f) :
    fromBytesV5 true f ≠ .ok (.packet (.connAck3 ack) n) := by
  intro h
  obtain ⟨size, len, hlen, hbody⟩ := hf.hasBody
  have hsize := (VariableByteInteger.decode_bound hlen).2.2
  obtain ⟨g, hg, hread⟩ := fromBytesV5_repeats hbody hsize _ h _ n rfl
  obtain ⟨vhdr, payload, -, hvhdr, hpayload, rfl⟩ := encodePacket_ok hg
  obtain rfl := Except.ok.inj hpayload
  rw [V3.MqttConnAck.variableHeader, check_bind_eq_ok] at hvhdr
  obtain rfl := Except.ok.inj hvhdr.2
  rw [List.append_nil] at hread
  generalize (if ack.sessionPresent then (1 : UInt8) else 0) = flag at hread
  have hexpect : expectType .connack (frame (ControlPacketType.connack.code <<< 4 ||| 0)
      [flag, ack.returnCode]) = .ok () := expectType_frame rfl
  rw [fromBytesV5, dispatch_eq hexpect fun kind => decoder5 kind true (frame _ _)] at hread
  exact connAck5_short _ _ _ _ hread

theorem fromBytesV3_repeats (h : HasBody true f size offset)
    (hsize : size ≤ VariableByteInteger.maxValue) :
    Yields (fromBytesV3 true f) (Repeats fromBytesV3) := by
  refine .bind fun _ _ => .bind fun kind _ answer hanswer p n hpacket => ?_
  obtain ⟨g, hg, hread⟩ := decoder3_repeats kind h hsize answer hanswer p n hpacket
  exact ⟨g, hg, (dispatch_eq (decoder3_expects hread) fun kind => decoder3 kind true g).trans hread⟩

end Dispatch

/-- Whatever the strict decoder accepts as one whole frame can be written, and is read back. -/
theorem fromBytesWithVersion_canonical (f : Bytes) (v : UInt8) (p : MqttPacket) (n : Nat)
    (hf : IsFrame true f) (h : fromBytesWithVersion true f v = .ok (.packet p n)) :
    ∃ g, p.toBytes true = .ok g ∧ fromBytesWithVersion true g v = .ok (.packet p g.length) := by
  obtain ⟨size, len, hlen, hbody⟩ := hf.hasBody
  have hsize : size ≤ VariableByteInteger.maxValue := (VariableByteInteger.decode_bound hlen).2.2
  unfold fromBytesWithVersion at h ⊢
  split at h
  next => exact fromBytesV3_repeats hbody hsize _ h p n rfl
  next => exact fromBytesV3_repeats hbody hsize _ h p n rfl
  next => exact fromBytesV5_repeats hbody hsize _ h p n rfl
  next => cases h

/-- A PUBACK whose reason code and properties are left out, in a longer form than needed. -/
theorem fromBytesWithVersion_canonical_puback :
    ∃ g, (pubAck5 ⟨7, 0, []⟩).toBytes true = .ok g ∧
      fromBytesWithVersion true g 5 = .ok (.packet (pubAck5 ⟨7, 0, []⟩) g.length) :=
  fromBytesWithVersion_canonical [64, 4, 0, 7, 0, 0] 5 (pubAck5 ⟨7, 0, []⟩) 6 ⟨rfl⟩ rfl

end MqttPacket

end FlowSdk
