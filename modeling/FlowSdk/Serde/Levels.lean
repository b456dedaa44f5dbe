/-
  FlowSdk.Serde.Levels — the levels of the leveled parser agree.

  The header parsers of level 1 are written apart from the typed decoders. On a frame that a
  typed decoder accepts they read the same bytes in the same order, so they accept it too and
  find the same fields; what they leave unread is the payload.

  Main results:
    1. `variableHeaderV5_leads`, `variableHeaderV3_leads`   the header parser of each packet type
    2. `parseLevels_agree`                                  all levels on one frame
-/
import FlowSdk.Serde.Body
import FlowSdk.Wire.Paired

namespace FlowSdk

open Wire

/-- The variable header of a packet. The flags of CONNECT are not a field of the typed packet. -/
def VariableHeader.ofPacket (connectFlags : UInt8) : MqttPacket → VariableHeader
  | .connect5 p => .connectV5 p.protocolName p.protocolVersion p.cleanStart p.keepAlive connectFlags
      p.properties
  | .connAck5 p => .connAckV5 p.sessionPresent p.reasonCode p.properties
  | .publish5 p => .publishV5 p.topicName p.qos p.dup p.retain p.packetId p.properties
  | .pubAck5 p => .pubAckV5 p.packetId p.reasonCode p.properties
  | .pubRec5 p => .pubRecV5 p.packetId p.reasonCode p.properties
  | .pubRel5 p => .pubRelV5 p.packetId p.reasonCode p.properties
  | .pubComp5 p => .pubCompV5 p.packetId p.reasonCode p.properties
  | .subscribe5 p => .subscribeV5 p.packetId p.properties
  | .subAck5 p => .subAckV5 p.packetId p.properties
  | .unsubscribe5 p => .unsubscribeV5 p.packetId p.properties
  | .unsubAck5 p => .unsubAckV5 p.packetId p.properties
  | .disconnect5 p => .disconnectV5 p.reasonCode p.properties
  | .auth p => .authV5 p.reasonCode p.properties
  | .connect3 p => .connectV3 p.protocolName p.protocolVersion p.cleanSession p.keepAlive
      connectFlags
  | .connAck3 p => .connAckV3 p.sessionPresent p.returnCode
  | .publish3 p => .publishV3 p.topicName p.qos p.dup p.retain p.messageId
  | .pubAck3 p | .pubRec3 p | .pubRel3 p | .pubComp3 p | .unsubAck3 p => .packetIdOnlyV3 p.messageId
  | .subscribe3 p => .packetIdOnlyV3 p.messageId
  | .subAck3 p => .packetIdOnlyV3 p.messageId
  | .unsubscribe3 p => .packetIdOnlyV3 p.messageId
  | .pingReq5 | .pingResp5 | .pingReq3 | .pingResp3 | .disconnect3 => .empty

/-- A typed packet and a parsed header with the bytes it took belong together. -/
def Fits (kind : ControlPacketType) (body : Bytes) (answer : ParseOk) (header : VariableHeader × Nat) :
    Prop :=
  ∃ p n connectFlags, answer = .packet p n ∧ p.packetType = kind ∧
    header.1 = VariableHeader.ofPacket connectFlags p ∧ header.2 ≤ body.length

section Steps

variable {strict : Bool} {f body rest : Bytes} {n m : Nat}

theorem validatedPacket_leads {kind : ControlPacketType} {p : MqttPacket} {len : Nat}
    {header : VariableHeader × Nat} (connectFlags : UInt8) (hkind : p.packetType = kind)
    (hheader : header.1 = VariableHeader.ofPacket connectFlags p) (hle : header.2 ≤ body.length) :
    Leads (validatedPacket strict p len) (.ok header) (Fits kind body) :=
  .first fun _ _ => .ok ⟨p, len, connectFlags, rfl, hkind, hheader, hle⟩

variable {α γ : Type} {Q : α → γ → Prop}

/-- One byte. -/
theorem getByte_leads {k : UInt8 → Decode α} {k' : UInt8 → Decode γ} (h : Paired f body n m rest)
    (hk : ∀ byte, rest[0]? = some byte → Paired f body (n + 1) (m + 1) (rest.drop 1) →
      Leads (k byte) (k' byte) Q) :
    Leads (getByte f n >>= k) (getByte body m >>= k') Q := by
  cases rest with
  | nil =>
    have hlen := h.buffer_at.length
    have hnone : f[n]? = none := List.getElem?_eq_none (Nat.le_of_eq hlen)
    rw [getByte, hnone]
    intro a ha
    cases ha
  | cons byte rest =>
    rw [getByte_place h.buffer_at, getByte_place h.slice_at]
    exact hk byte rfl (h.skip (Nat.le_add_left 1 _))

theorem parsePacketIdRaw_eq : parsePacketIdRaw = TwoByteInteger.decode := by
  funext s
  rcases s with _ | ⟨a, _ | ⟨b, s⟩⟩ <;> rfl

theorem parseKeepAlive_place {id : UInt16} {c : Nat} (h : At body m rest)
    (hid : TwoByteInteger.decode rest = .ok (id, c)) : parseKeepAlive body m = .ok id := by
  obtain rfl := TwoByteInteger.decode_length hid
  have hlen := h.length
  have htwo : 2 ≤ rest.length := TwoByteInteger.decode_local.le hid
  unfold parseKeepAlive
  rw [rejectIf_neg _ (by omega), ok_bind, (indexU16_place h).mpr hid]

/-- The keep alive of CONNECT, which the typed decoders read from a slice in front of the rest. -/
theorem keepAlive_leads {x : Decode Bytes} {k : UInt16 × Nat → Decode α} {k' : UInt16 → Decode γ}
    (h : Paired f body n m rest) (hx : ∀ s, x = .ok s → s <+: rest)
    (hk : ∀ id, Paired f body (n + 2) (m + 2) (rest.drop 2) → Leads (k (id, 2)) (k' id) Q) :
    Leads (x >>= fun s => TwoByteInteger.decode s >>= k) (parseKeepAlive body m >>= k') Q := by
  refine .first fun s hs => .first fun ⟨id, c⟩ hid => ?_
  obtain ⟨more, rfl⟩ := hx s hs
  have hrest : TwoByteInteger.decode (s ++ more) = .ok (id, c) := TwoByteInteger.decode_local.append hid
  obtain rfl := TwoByteInteger.decode_length hrest
  rw [parseKeepAlive_place h.slice_at hrest, ok_bind]
  exact hk id (h.skip (TwoByteInteger.decode_local.le hrest))

theorem getRange_isPrefix {s : Bytes} {len : Nat} (h : At f n rest)
    (hs : getRange f n (n + len) = .ok s) : s <+: rest := by
  unfold getRange sliceRange at hs
  split at hs
  next =>
    cases hs
    rw [List.drop_take, h.drop_eq]
    exact List.take_prefix _ _
  next => cases hs

theorem publishId_leads {qos : UInt8} {k : Option UInt16 × Nat → Decode α}
    {k' : Option UInt16 × Nat → Decode γ} (h : Paired f body n m rest)
    (hk : ∀ id c, c ≤ rest.length → Paired f body (n + c) (m + c) (rest.drop c) →
      Leads (k (id, n + c)) (k' (id, m + c)) Q) :
    Leads (V5.readPacketId qos f n >>= k) (parsePublishIdRaw qos body m >>= k') Q := by
  unfold V5.readPacketId parsePublishIdRaw
  split
  next =>
    simp only [bind_assoc, pure_bind, parsePacketIdRaw_eq]
    exact .read h (getFrom_place h.buffer_at) (indexFrom_place h.slice_at)
      TwoByteInteger.decode_local.sound fun id c hread hnext =>
        hk (some id) c (TwoByteInteger.decode_local.le hread) hnext
  next => exact hk none 0 (Nat.zero_le _) (h.skip (Nat.zero_le _))

/-- The identifier of a PUBLISH, with the test against the end of the frame. -/
theorem messageId_leads {qos : UInt8} {k : Option UInt16 × Nat → Decode α}
    {k' : Option UInt16 × Nat → Decode γ}
    (h : Paired f body n m rest)
    (hk : ∀ id c, Paired f body (n + c) (m + c) (rest.drop c) →
      Leads (k (id, n + c)) (k' (id, m + c)) Q) :
    Leads (V3.readMessageId qos f n f.length >>= k) (parsePublishIdRaw qos body m >>= k') Q := by
  unfold V3.readMessageId parsePublishIdRaw
  split
  next =>
    simp only [bind_assoc, pure_bind]
    refine .rejectIf fun _ => .first fun id hid => ?_
    have hread := (indexU16_place h.buffer_at).mp hid
    rw [indexFrom_place h.slice_at, ok_bind, parsePacketIdRaw_eq, hread]
    exact hk (some id) 2 (h.skip (TwoByteInteger.decode_local.le hread))
  next => exact hk none 0 (h.skip (Nat.zero_le _))

theorem parsePropertiesHdr_nil (p : Properties × Nat) : parsePropertiesHdr strict [] ≠ .ok p :=
  fun h => nomatch h

/-- The properties behind a reason code, where the typed decoder wants them. -/
theorem section_leads {k : Properties × Nat → Decode α} {k' : Properties × Nat → Decode γ}
    (h : Paired f body n m rest)
    (hk : ∀ props c, Paired f body (n + c) (m + c) (rest.drop c) →
      Leads (k (props, c)) (k' (props, m + c)) Q) :
    Leads (getRange f n f.length >>= fun s => parsePropertiesHdr strict s >>= k)
      (parseTrailingProperties strict body m >>= k') Q := by
  have hends := h.ends
  unfold parseTrailingProperties
  cases rest with
  | nil =>
    rw [getRange_to_end h.buffer_at, ok_bind]
    exact .first fun p hp => absurd hp (parsePropertiesHdr_nil p)
  | cons first rest =>
    rw [List.length_cons] at hends
    rw [if_pos (by omega)]
    simp only [bind_assoc, pure_bind]
    exact .read h (getRange_to_end h.buffer_at) (indexFrom_place h.slice_at)
      (parsePropertiesHdr_local strict).sound fun props c _ hnext => hk props c hnext

/-- The same where they may be left out. -/
theorem trailing_leads {k : Properties × Nat → Decode α} {k' : Properties × Nat → Decode γ}
    (h : Paired f body n m rest)
    (hk : ∀ props c, Paired f body (n + c) (m + c) (rest.drop c) →
      Leads (k (props, c)) (k' (props, m + c)) Q) :
    Leads (V5.readProperties strict f n f.length >>= k)
      (parseTrailingProperties strict body m >>= k') Q := by
  have hends := h.ends
  unfold V5.readProperties
  by_cases hmore : n < f.length
  · rw [if_pos hmore, bind_assoc]
    exact section_leads h hk
  · unfold parseTrailingProperties
    rw [if_neg hmore, if_neg (by omega), ok_bind, ok_bind]
    exact hk [] 0 (h.skip (Nat.zero_le _))

/-- The reason code and the properties of an acknowledgement. The typed decoder goes by the
remaining length, the header parser by what is left of the body. -/
theorem reason_leads {size : Nat} {k : UInt8 × Nat → Properties × Nat → Decode α}
    {k' : UInt8 × Properties × Nat → Decode γ} (h : Paired f body n m rest)
    (hsize : size > 2 ↔ rest ≠ [])
    (hk : ∀ p q last, last ≤ body.length → Leads (k p q) (k' (p.1, q.1, last)) Q) :
    Leads (V5.readReasonCode size f n >>= fun p => V5.readProperties strict f p.2 f.length >>= k p)
      (parseReasonAndProperties strict body m >>= k') Q := by
  unfold V5.readReasonCode parseReasonAndProperties
  have hends := h.ends
  cases rest with
  | nil =>
    rw [List.length_nil] at hends
    have hnone : V5.readProperties strict f n f.length = .ok ([], 0) := by
      rw [V5.readProperties, if_neg (by omega)]
    rw [if_neg fun hlong => hsize.mp hlong rfl, if_neg (by omega), ok_bind, ok_bind, hnone, ok_bind]
    exact hk (0, n) ([], 0) m h.le
  | cons code rest =>
    have hplace : Paired f body (n + 1) (m + 1) rest := h.skip (Nat.le_add_left 1 _)
    rw [List.length_cons] at hends
    rw [if_pos (hsize.mpr (List.cons_ne_nil _ _)), if_pos (by omega), getByte_place h.buffer_at,
      h.slice_at.getElem?]
    simp only [ok_bind, pure_bind, bind_assoc, Decode.index_some]
    exact trailing_leads hplace fun props c hplace => hk (code, n + 1) (props, c) _ hplace.le

end Steps

/-! ## MQTT 5 -/

/-- The header parser finds in the body what the typed decoder finds in the frame. -/
abbrev Heads (f : Bytes) (offset : Nat) (kind : ControlPacketType) (x : Decode ParseOk)
    (y : Decode (VariableHeader × Nat)) : Prop := Leads x y (Fits kind (f.drop offset))

section Heads

variable {strict : Bool} {f : Bytes} {offset size : Nat}

/-- The two ways to test the lowest bit. -/
theorem lowBit_eq_one (byte : UInt8) : byte &&& 0x01 = 1 ↔ byte &&& 0x01 ≠ 0 := by
  have hbit : (byte &&& 0x01).toNat = byte.toNat % 2 := by
    rw [UInt8.toNat_and]
    exact Nat.and_one_is_mod _
  rw [ne_eq, ← UInt8.toNat_inj, ← UInt8.toNat_inj, hbit]
  exact Nat.mod_two_ne_zero.symm

/-- With the reserved bits clear, the byte is its lowest bit. -/
theorem sessionByte {byte : UInt8} (h : byte &&& 0xFE = 0) : byte = 0x01 ↔ byte &&& 0x01 ≠ 0 := by
  have hsplit : byte = byte &&& 0x01 := by
    have hhigh : byte.toBitVec &&& 0xFE#8 = 0#8 := congrArg UInt8.toBitVec h
    have hall : byte.toBitVec &&& (0xFE#8 ||| 0x01#8) = byte.toBitVec := BitVec.and_allOnes
    rw [BitVec.and_or_distrib_left, hhigh, BitVec.zero_or] at hall
    exact UInt8.toBitVec_inj.mp hall.symm
  rw [← lowBit_eq_one, ← hsplit]

variable (h : HasBody strict f size offset)

include h

/-- The typed decoders get to their body after two tests. -/
theorem framed_leads {γ : Type} {x y : Decode Unit} {k : Nat → Nat → Nat → Decode ParseOk}
    {z : Decode γ} {Q : ParseOk → γ → Prop} (hk : Leads (k size offset f.length) z Q) :
    Leads (x >>= fun _ => y >>= fun _ => withFrame strict f k) z Q := by
  rw [h.withFrame_eq]
  exact .first fun _ _ => .first fun _ _ => hk

theorem parseConnectHeaderV5_leads :
    Heads f offset .connect (V5.MqttConnect.fromBytes strict f) (parseConnectHeaderV5 strict (f.drop offset)) := by
  refine framed_leads h ?_
  refine .readStart h.le (getFrom_place h.start) (Utf8String.decode_local strict).sound
    fun name c _ hplace => .rejectIf fun _ => ?_
  refine getByte_leads hplace fun version _ hplace => getByte_leads hplace fun flags _ hplace => ?_
  refine .first fun _ _ => ?_
  refine keepAlive_leads hplace (fun s hs => getRange_isPrefix hplace.buffer_at hs)
    fun keepAlive hplace => ?_
  refine .read hplace (getFrom_place hplace.buffer_at) (getFrom_place hplace.slice_at)
    (parsePropertiesHdr_local strict).sound fun props c _ hplace => ?_
  refine .first fun _ _ => .first fun ⟨_, _⟩ _ => .first fun ⟨_, _⟩ _ => .first fun ⟨_, _⟩ _ =>
    .first fun ⟨_, _⟩ _ => .rejectIf fun _ => ?_
  exact validatedPacket_leads flags rfl rfl hplace.le

theorem parseConnackHeaderV5_leads :
    Heads f offset .connack (V5.MqttConnAck.fromBytes strict f) (parseConnackHeaderV5 strict (f.drop offset)) := by
  refine framed_leads h ?_
  refine .first fun flags hflags => .rejectIf fun _ => .first fun code hcode => ?_
  have hflags : (f.drop offset)[0]? = some flags :=
    List.getElem?_drop.trans ((Decode.okOr_meets _ _).holds hflags)
  have hcode : (f.drop offset)[1]? = some code :=
    List.getElem?_drop.trans ((Decode.okOr_meets _ _).holds hcode)
  have hlen : 2 ≤ (f.drop offset).length := (List.getElem?_eq_some_iff.mp hcode).1
  have hplace := (Paired.start h.le).skip hlen
  unfold parseConnackHeaderV5
  rw [rejectIf_neg _ (Nat.not_lt.mpr hlen), hflags, hcode]
  refine .read hplace (getFrom_place hplace.buffer_at) (getFrom_place hplace.slice_at)
    (parsePropertiesHdr_local strict).sound fun props c _ hplace => .rejectIf fun _ => ?_
  refine validatedPacket_leads 0 rfl ?_ hplace.le
  exact congrArg (VariableHeader.connAckV5 · code _) (decide_eq_decide.mpr (lowBit_eq_one flags).symm)

theorem parseSubscribeHeaderV5_leads :
    Heads f offset .subscribe (V5.MqttSubscribe.fromBytes strict f) (parseSubscribeHeaderV5 strict (f.drop offset)) := by
  unfold parseSubscribeHeaderV5 parseIdAndProperties
  rw [parsePacketIdRaw_eq]
  refine framed_leads h ?_
  refine .readStart h.le (getFrom_place h.start) TwoByteInteger.decode_local.sound
    fun id c _ hplace => .rejectIf fun _ => ?_
  refine .read hplace (getRange_to_end hplace.buffer_at) (getFrom_place hplace.slice_at)
    (parsePropertiesHdr_local strict).sound fun props c _ hplace => ?_
  refine .first fun ⟨_, _⟩ _ => .rejectIf fun _ => .rejectIf fun _ => ?_
  exact validatedPacket_leads 0 rfl rfl hplace.le

theorem parseUnsubscribeHeaderV5_leads :
    Heads f offset .unsubscribe (V5.MqttUnsubscribe.fromBytes strict f) (parseUnsubscribeHeaderV5 strict (f.drop offset)) := by
  unfold parseUnsubscribeHeaderV5 parseIdAndProperties
  rw [parsePacketIdRaw_eq]
  refine framed_leads h ?_
  refine .readStart h.le (getFrom_place h.start) TwoByteInteger.decode_local.sound
    fun id c _ hplace => .rejectIf fun _ => ?_
  refine .read hplace (getRange_to_end hplace.buffer_at) (getFrom_place hplace.slice_at)
    (parsePropertiesHdr_local strict).sound fun props c _ hplace => ?_
  refine .first fun ⟨_, _⟩ _ => .rejectIf fun _ => .rejectIf fun _ => ?_
  exact validatedPacket_leads 0 rfl rfl hplace.le

/-- SUBACK and UNSUBACK. -/
theorem parseSubackHeaderV5_leads {kind : ControlPacketType} {name : String}
    {mk : UInt16 → Bytes → Properties → MqttPacket} {header : UInt16 → Properties → VariableHeader}
    (hkind : ∀ id codes props, (mk id codes props).packetType = kind)
    (hheader : ∀ id codes props, header id props = VariableHeader.ofPacket 0 (mk id codes props)) :
    Heads f offset kind (V5.subAckFromBytes kind name mk strict f)
      (parseIdAndProperties header strict (f.drop offset)) := by
  unfold parseIdAndProperties
  rw [parsePacketIdRaw_eq]
  refine framed_leads h ?_
  refine .readStart h.le (getFrom_place h.start) TwoByteInteger.decode_local.sound
    fun id c _ hplace => .rejectIf fun _ => ?_
  refine .read hplace (getRange_to_end hplace.buffer_at) (getFrom_place hplace.slice_at)
    (parsePropertiesHdr_local strict).sound fun props c _ hplace => ?_
  refine .first fun codes _ => .rejectIf fun _ => ?_
  exact validatedPacket_leads 0 (hkind _ _ _) (hheader id codes props) hplace.le

/-- PUBACK, PUBREC, PUBREL and PUBCOMP. -/
theorem parseAckWithPropsV5_leads {kind : ControlPacketType} {flags : UInt8} {name : String}
    {mk : V5.PacketIdAck → MqttPacket} {header : UInt16 → UInt8 → Properties → VariableHeader}
    (hkind : ∀ ack, (mk ack).packetType = kind)
    (hheader : ∀ ack, header ack.packetId ack.reasonCode ack.properties =
      VariableHeader.ofPacket 0 (mk ack)) :
    Heads f offset kind (V5.PacketIdAck.fromBytes kind flags name mk strict f)
      (parseAckWithPropsV5 strict (f.drop offset) header) := by
  unfold parseAckWithPropsV5
  rw [parsePacketIdRaw_eq]
  refine framed_leads h ?_
  refine .readStart h.le (getFrom_place h.start) TwoByteInteger.decode_local.sound
    fun id c hid hplace => ?_
  obtain rfl := TwoByteInteger.decode_length hid
  have hsize : size > 2 ↔ (f.drop offset).drop 2 ≠ [] := by
    rw [ne_eq, List.drop_eq_nil_iff, h.body_length]
    omega
  refine reason_leads hplace hsize fun code props last hlast => .rejectIf fun _ => ?_
  exact validatedPacket_leads 0 (hkind _) (hheader ⟨id, code.1, props.1⟩) hlast

theorem parseDisconnectHeaderV5_leads :
    Heads f offset .disconnect (V5.MqttDisconnect.fromBytes strict f)
      (parseDisconnectHeaderV5 strict (f.drop offset) size) := by
  unfold parseDisconnectHeaderV5 parseReasonHeader
  refine .first fun _ _ => ?_
  rw [h.withFrame_eq]
  refine .first fun _ _ => ?_
  unfold V5.MqttDisconnect.readFields
  by_cases hsize : size = 0
  · rw [if_pos hsize, if_neg (by omega), ok_bind]
    exact .rejectIf fun _ => validatedPacket_leads 0 rfl rfl (Nat.zero_le _)
  · rw [if_neg hsize, if_pos (by omega)]
    simp only [bind_assoc, pure_bind]
    refine .rejectIf fun _ => .first fun code hcode => ?_
    have hcode : (f.drop offset)[0]? = some code :=
      List.getElem?_drop.trans (index_eq_ok.mp hcode)
    have hplace := (Paired.start h.le).skip (List.getElem?_eq_some_iff.mp hcode).1
    rw [hcode, Decode.index_some, ok_bind]
    refine trailing_leads hplace fun props c hplace => .rejectIf fun _ => ?_
    exact validatedPacket_leads 0 rfl rfl hplace.le

/-- The typed decoder of AUTH wants the property section that the header parser takes as
optional. -/
theorem parseAuthHeaderV5_leads :
    Heads f offset .auth (V5.MqttAuth.fromBytes strict f)
      (parseAuthHeaderV5 strict (f.drop offset) size) := by
  unfold parseAuthHeaderV5 parseReasonHeader
  refine .first fun _ _ => ?_
  rw [h.withFrame_eq]
  refine .first fun _ _ => ?_
  by_cases hsize : size = 0
  · rw [if_pos hsize, if_pos hsize]
    exact validatedPacket_leads 0 rfl rfl (Nat.zero_le _)
  · rw [if_neg hsize, if_neg hsize]
    refine .rejectIf fun _ => .first fun code hcode => ?_
    have hcode : (f.drop offset)[0]? = some code :=
      List.getElem?_drop.trans (index_eq_ok.mp hcode)
    have hplace := (Paired.start h.le).skip (List.getElem?_eq_some_iff.mp hcode).1
    rw [hcode, Decode.index_some, ok_bind]
    refine section_leads hplace fun props c hplace => .rejectIf fun _ => ?_
    exact validatedPacket_leads 0 rfl rfl hplace.le

theorem parsePublishHeaderV5_leads :
    Heads f offset .publish (V5.MqttPublish.fromBytes strict f) (parsePublishHeaderV5 strict (flagsOf f) (f.drop offset)) := by
  rw [V5.MqttPublish.fromBytes_eq]
  refine .first fun first hfirst => .first fun _ _ => .rejectIf fun _ => .rejectIf fun _ => ?_
  have hflags : flagsOf f = first &&& 0x0F := by
    rw [flagsOf, List.headD_eq_head?_getD, (Decode.okOr_meets _ _).holds hfirst]
    rfl
  have hbody : getFrom (f.drop offset) 0 = .ok (f.drop offset) :=
    getFrom_place (Paired.start h.le).slice_at
  rw [h.withFrame_eq, hflags]
  unfold V5.MqttPublish.readHeader parsePublishHeaderV5
  simp only [bind_assoc, pure_bind, hbody, ok_bind, UInt8.and_assoc]
  refine .readStart h.le (getFrom_place h.start) (Utf8String.decode_local strict).sound
    fun topic c _ hplace => .rejectIf fun _ => ?_
  refine publishId_leads hplace fun id c hc hplace => ?_
  refine .read hplace (getFrom_place hplace.buffer_at) (getFrom_place hplace.slice_at)
    (parsePropertiesHdr_local strict).sound fun props c _ hplace => ?_
  unfold V5.MqttPublish.readPayload
  rw [if_neg (Nat.not_lt.mpr hplace.buffer_at.le)]
  refine .first fun payload _ => .rejectIf fun _ => ?_
  exact validatedPacket_leads 0 rfl rfl hplace.le

theorem ping5_leads {kind : ControlPacketType} {name : String} {p : MqttPacket}
    (hkind : p.packetType = kind) (hheader : VariableHeader.ofPacket 0 p = .empty) :
    Heads f offset kind (V5.pingFromBytes kind name p strict f) (.ok (.empty, 0)) := by
  refine .first fun _ _ => ?_
  rw [h.withFrame_eq]
  refine .rejectIf fun _ => .first fun _ _ => .ok ?_
  exact ⟨p, f.length, 0, rfl, hkind, hheader.symm, Nat.zero_le _⟩

/-- The header parser of each packet type accepts what the typed decoder accepts. -/
theorem variableHeaderV5_leads (kind : ControlPacketType) :
    Heads f offset kind (MqttPacket.decoder5 kind strict f)
      (variableHeaderV5 strict kind (flagsOf f) (f.drop offset) size) := by
  cases kind with
  | connect => exact parseConnectHeaderV5_leads h
  | connack => exact parseConnackHeaderV5_leads h
  | publish => exact parsePublishHeaderV5_leads h
  | puback | pubrec | pubrel | pubcomp =>
    exact parseAckWithPropsV5_leads h (fun _ => rfl) fun _ => rfl
  | subscribe => exact parseSubscribeHeaderV5_leads h
  | suback =>
    unfold MqttPacket.decoder5 V5.MqttSubAck.fromBytes variableHeaderV5 parseSubackHeaderV5
    exact parseSubackHeaderV5_leads h (fun _ _ _ => rfl) fun _ _ _ => rfl
  | unsuback =>
    unfold MqttPacket.decoder5 V5.MqttUnsubAck.fromBytes variableHeaderV5 parseUnsubackHeaderV5
    exact parseSubackHeaderV5_leads h (fun _ _ _ => rfl) fun _ _ _ => rfl
  | unsubscribe => exact parseUnsubscribeHeaderV5_leads h
  | pingreq | pingresp => exact ping5_leads h rfl rfl
  | disconnect => exact parseDisconnectHeaderV5_leads h
  | auth => exact parseAuthHeaderV5_leads h

/-! ## MQTT 3 -/

theorem parseConnectHeaderV3_leads :
    Heads f offset .connect (V3.MqttConnect.fromBytes strict f) (parseConnectHeaderV3 strict (f.drop offset)) := by
  refine framed_leads h ?_
  refine .readStart h.le (indexFrom_place h.start) (Utf8String.decode_local strict).sound
    fun name c _ hplace => ?_
  refine getByte_leads hplace fun version _ hplace => .rejectIf fun _ => .rejectIf fun _ => ?_
  refine getByte_leads hplace fun flags _ hplace => ?_
  refine .first fun _ _ => .rejectIf fun _ => .rejectIf fun _ => ?_
  refine keepAlive_leads hplace (fun s hs => ?_) fun keepAlive hplace => ?_
  · cases (indexFrom_place hplace.buffer_at).symm.trans hs
    exact List.prefix_rfl
  · refine .first fun _ _ => .first fun ⟨_, _⟩ _ => .first fun ⟨_, _⟩ _ => .first fun ⟨_, _⟩ _ =>
      .first fun ⟨_, _⟩ _ => .rejectIf fun _ => ?_
    refine validatedPacket_leads flags rfl ?_ hplace.le
    exact congrArg (VariableHeader.connectV3 name version · keepAlive flags)
      (decide_eq_decide.mpr UInt8.pos_iff_ne_zero.symm)

theorem parseConnackHeaderV3_leads :
    Heads f offset .connack (V3.MqttConnAck.fromBytes strict f) (parseConnackHeaderV3 (f.drop offset)) := by
  refine framed_leads h ?_
  refine .rejectIf fun hsize => .first fun flags hflags => .rejectIf fun hbits =>
    .first fun code hcode => .rejectIf fun _ => ?_
  have hflags : (f.drop offset)[0]? = some flags :=
    List.getElem?_drop.trans (index_eq_ok.mp hflags)
  have hcode : (f.drop offset)[1]? = some code :=
    List.getElem?_drop.trans (index_eq_ok.mp hcode)
  have hlen : 2 ≤ (f.drop offset).length := (List.getElem?_eq_some_iff.mp hcode).1
  unfold parseConnackHeaderV3
  rw [rejectIf_neg _ (Nat.not_lt.mpr hlen), hflags, hcode]
  refine validatedPacket_leads 0 rfl ?_ hlen
  exact congrArg (VariableHeader.connAckV3 · code)
    (decide_eq_decide.mpr (sessionByte (not_not.mp hbits)).symm)

theorem parsePublishHeaderV3_leads :
    Heads f offset .publish (V3.MqttPublish.fromBytes strict f) (parsePublishHeaderV3 strict (flagsOf f) (f.drop offset)) := by
  refine .first fun _ _ => .rejectIf fun _ => ?_
  rw [h.withFrame_eq]
  refine .readStart h.le (indexRange_to_end h.start) (Utf8String.decode_local strict).sound
    fun topic c _ hplace => ?_
  refine messageId_leads hplace fun id c hplace => .first fun payload _ => ?_
  refine validatedPacket_leads 0 rfl ?_ hplace.le
  exact congrArg₂ (VariableHeader.publishV3 topic _ · · id)
    (decide_eq_decide.mpr UInt8.pos_iff_ne_zero.symm)
    (decide_eq_decide.mpr UInt8.pos_iff_ne_zero.symm)

/-- The packets whose variable header is an identifier. -/
theorem parsePacketIdOnlyV3_leads {kind : ControlPacketType} {k : UInt16 → Decode ParseOk}
    (hk : ∀ id, 2 ≤ (f.drop offset).length →
      Heads f offset kind (k id) (.ok (.packetIdOnlyV3 id, 2))) :
    Heads f offset kind (indexU16 f offset >>= k) (parsePacketIdOnlyV3 (f.drop offset)) := by
  refine .first fun id hid => ?_
  have hread := (indexU16_place h.start).mp hid
  unfold parsePacketIdOnlyV3
  rw [parsePacketIdRaw_eq, hread]
  exact hk id (TwoByteInteger.decode_local.le hread)

theorem packetIdAck3_leads {kind : ControlPacketType} {flags : UInt8} {name : String}
    {mk : V3.PacketIdAck → MqttPacket} (hkind : ∀ ack, (mk ack).packetType = kind)
    (hheader : ∀ ack, .packetIdOnlyV3 ack.messageId = VariableHeader.ofPacket 0 (mk ack)) :
    Heads f offset kind (V3.PacketIdAck.fromBytes kind flags name mk strict f)
      (parsePacketIdOnlyV3 (f.drop offset)) := by
  refine framed_leads h ?_
  refine .rejectIf fun _ => parsePacketIdOnlyV3_leads h fun id hlen => ?_
  exact validatedPacket_leads 0 (hkind _) (hheader ⟨id⟩) hlen

theorem subscribe3_leads :
    Heads f offset .subscribe (V3.MqttSubscribe.fromBytes strict f) (parsePacketIdOnlyV3 (f.drop offset)) := by
  refine framed_leads h ?_
  refine .rejectIf fun _ => parsePacketIdOnlyV3_leads h fun id hlen => ?_
  refine .first fun ⟨_, _⟩ _ => .rejectIf fun _ => ?_
  exact validatedPacket_leads 0 rfl rfl hlen

theorem subAck3_leads :
    Heads f offset .suback (V3.MqttSubAck.fromBytes strict f) (parsePacketIdOnlyV3 (f.drop offset)) := by
  refine framed_leads h ?_
  refine .rejectIf fun _ => parsePacketIdOnlyV3_leads h fun id hlen => ?_
  refine .first fun _ _ => .first fun _ _ => ?_
  exact validatedPacket_leads 0 rfl rfl hlen

theorem unsubscribe3_leads :
    Heads f offset .unsubscribe (V3.MqttUnsubscribe.fromBytes strict f) (parsePacketIdOnlyV3 (f.drop offset)) := by
  refine framed_leads h ?_
  refine .rejectIf fun _ => parsePacketIdOnlyV3_leads h fun id hlen => ?_
  refine .first fun ⟨_, _⟩ _ => .rejectIf fun _ => ?_
  exact validatedPacket_leads 0 rfl rfl hlen

theorem ping3_leads {kind : ControlPacketType} {name : String} {p : MqttPacket}
    (hkind : p.packetType = kind) (hheader : VariableHeader.ofPacket 0 p = .empty)
    (hrest : (f.drop 1).isEmpty ≠ true) :
    Heads f offset kind (V3.pingFromBytes kind name p strict f) (.ok (.empty, 0)) := by
  refine .first fun _ _ => .first fun _ _ => ?_
  rw [if_neg hrest, h.withFrame_eq]
  refine .rejectIf fun _ => .ok ?_
  exact ⟨p, f.length, 0, rfl, hkind, hheader.symm, Nat.zero_le _⟩

theorem disconnect3_leads :
    Heads f offset .disconnect (V3.MqttDisconnect.fromBytes strict f) (.ok (.empty, 0)) := by
  refine framed_leads h ?_
  refine .rejectIf fun _ => .ok ?_
  exact ⟨.disconnect3, f.length, 0, rfl, rfl, rfl, Nat.zero_le _⟩

theorem variableHeaderV3_leads (hrest : (f.drop 1).isEmpty ≠ true)
    (kind : ControlPacketType) :
    Heads f offset kind (MqttPacket.decoder3 kind strict f)
      (variableHeaderV3 strict kind (flagsOf f) (f.drop offset)) := by
  cases kind with
  | connect => exact parseConnectHeaderV3_leads h
  | connack => exact parseConnackHeaderV3_leads h
  | publish => exact parsePublishHeaderV3_leads h
  | puback | pubrec | pubrel | pubcomp | unsuback =>
    exact packetIdAck3_leads h (fun _ => rfl) fun _ => rfl
  | subscribe => exact subscribe3_leads h
  | suback => exact subAck3_leads h
  | unsubscribe => exact unsubscribe3_leads h
  | pingreq | pingresp => exact ping3_leads h rfl rfl hrest
  | disconnect => exact disconnect3_leads h
  | auth =>
    intro answer hanswer
    cases hanswer

end Heads

/-! ## All levels on one frame -/

/-- The parser of the variable header that `parse_headers_only` takes for a version. -/
def variableHeader (strict : Bool) (mqttVersion : UInt8) (kind : ControlPacketType) (flags : UInt8)
    (body : Bytes) : Decode (VariableHeader × Nat) :=
  if mqttVersion = 5 then variableHeaderV5 strict kind flags body body.length
  else variableHeaderV3 strict kind flags body

section Levels

variable {strict : Bool} {f : Bytes} {size offset : Nat}

/-- The type and the flags, as the typed decoders and as the leveled parsers read them. -/
theorem fromFirstByte_frame {byte : UInt8} {kind : ControlPacketType}
    (hbyte : packetType f = .ok byte) (hkind : Decode.check (ControlPacketType.tryFrom byte) = .ok kind) :
    ∃ first rest, f = first :: rest ∧
      Decode.check (ControlPacketType.fromFirstByte first) = .ok (kind, flagsOf f) := by
  cases f with
  | nil => cases hbyte
  | cons first rest =>
    cases hbyte
    refine ⟨first, rest, rfl, ?_⟩
    unfold ControlPacketType.fromFirstByte
    rw [(Decode.check_meets _).holds hkind]
    rfl

/-- On a whole frame the leveled parsers get to their body. -/
theorem withLeveledFrame_frame {first : UInt8} {rest : Bytes} {kind : ControlPacketType} {len : Nat}
    {body : ControlPacketType → UInt8 → Nat → Nat → Decode ParsedPacket} (hf : f = first :: rest)
    (hfirst : Decode.check (ControlPacketType.fromFirstByte first) = .ok (kind, flagsOf f))
    (hvbi : parseRemainingLength strict (f.drop 1) = .ok (size, len))
    (hbody : HasBody strict f size (1 + len)) :
    withLeveledFrame strict f body =
      body kind (flagsOf f) (1 + len) size >>= fun packet => .ok (.packet packet f.length) := by
  have hrest : rest ≠ [] := by
    rintro rfl
    subst hf
    cases hvbi
  have hvbi : parseRemainingLength strict rest = .ok (size, len) := by
    rwa [hf] at hvbi
  unfold withLeveledFrame
  generalize hflags : flagsOf f = flags at hfirst ⊢
  generalize hlen : f.length = total
  have htotal : 1 + len + size = total := hlen ▸ hbody.total
  rw [hf] at hlen ⊢
  dsimp only
  rw [hfirst, ok_bind]
  dsimp only
  rw [if_neg hrest, hvbi]
  dsimp only
  rw [htotal, if_neg (Nat.lt_irrefl _)]
  rfl

theorem intoRange_to_end (h : offset ≤ f.length) : intoRange f offset f.length = .ok (f.drop offset) := by
  unfold intoRange
  rw [List.take_length]
  exact if_pos h

/-- What the levels find in a frame of the packet `p`: each byte belongs to the fixed header, to
the variable header or to the payload. -/
structure LevelsFind (strict : Bool) (f : Bytes) (mqttVersion : UInt8) (p : MqttPacket)
    (fixed header raw : Bytes) (connectFlags version : UInt8) : Prop where
  split : f = fixed ++ header ++ raw
  fixedHeader : ∃ vbiBytes, fixed.length = 1 + vbiBytes ∧
    parseRemainingLength strict (f.drop 1) = .ok ((header ++ raw).length, vbiBytes)
  variableHeader : variableHeader strict mqttVersion p.packetType (flagsOf f) (header ++ raw) =
    .ok (VariableHeader.ofPacket connectFlags p, header.length)
  typeOnly : parseTypeOnly strict f =
    .ok (.packet (.typeOnly { packetType := p.packetType, flags := flagsOf f }) f.length)
  rawBody : parseRawBody strict f = .ok (.packet (.rawBody
    { packetType := p.packetType, flags := flagsOf f, remaining := header ++ raw }) f.length)
  headersParsed : parseHeadersOnly strict f mqttVersion = .ok (.packet (.headersParsed {
    packetType := p.packetType, flags := flagsOf f, mqttVersion := version
    variableHeader := VariableHeader.ofPacket connectFlags p, rawPayload := raw }) f.length)

section Parsed

variable {first : UInt8} {rest : Bytes} {kind : ControlPacketType} {len c : Nat}
  {fields : VariableHeader} (hf : f = first :: rest)
  (hfirst : Decode.check (ControlPacketType.fromFirstByte first) = .ok (kind, flagsOf f))
  (hvbi : parseRemainingLength strict (f.drop 1) = .ok (size, len))
  (hbody : HasBody strict f size (1 + len))

include hf hfirst hvbi hbody

theorem parseHeadersOnlyV5_frame
    (hheader : variableHeaderV5 strict kind (flagsOf f) (f.drop (1 + len)) size = .ok (fields, c))
    (hle : 1 + len + c ≤ f.length) :
    parseHeadersOnlyV5 strict f = .ok (.packet (.headersParsed {
      packetType := kind, flags := flagsOf f, mqttVersion := 5, variableHeader := fields
      rawPayload := f.drop (1 + len + c) }) f.length) := by
  rw [parseHeadersOnlyV5, withLeveledFrame_frame hf hfirst hvbi hbody]
  simp only [hbody.total, indexRange_to_end hbody.start, ok_bind, hheader, intoRange_to_end hle]
  rfl

theorem parseHeadersOnlyV3_frame
    (hheader : variableHeaderV3 strict kind (flagsOf f) (f.drop (1 + len)) = .ok (fields, c))
    (hle : 1 + len + c ≤ f.length) :
    parseHeadersOnlyV3 strict f = .ok (.packet (.headersParsed {
      packetType := kind, flags := flagsOf f, mqttVersion := 4, variableHeader := fields
      rawPayload := f.drop (1 + len + c) }) f.length) := by
  rw [parseHeadersOnlyV3, withLeveledFrame_frame hf hfirst hvbi hbody]
  simp only [hbody.total, indexRange_to_end hbody.start, ok_bind, hheader, intoRange_to_end hle]
  rfl

/-- The other levels on a frame whose variable header has been read. -/
theorem levelsFind {mqttVersion version connectFlags : UInt8} {p : MqttPacket}
    (hkind : kind = p.packetType) (hle : c ≤ (f.drop (1 + len)).length)
    (hheader : variableHeader strict mqttVersion p.packetType (flagsOf f) (f.drop (1 + len)) =
      .ok (VariableHeader.ofPacket connectFlags p, c))
    (hparse : parseHeadersOnly strict f mqttVersion = .ok (.packet (.headersParsed {
      packetType := p.packetType, flags := flagsOf f, mqttVersion := version
      variableHeader := VariableHeader.ofPacket connectFlags p
      rawPayload := f.drop (1 + len + c) }) f.length)) :
    LevelsFind strict f mqttVersion p (f.take (1 + len)) ((f.drop (1 + len)).take c)
      (f.drop (1 + len + c)) connectFlags version := by
  subst hkind
  have hsplit : (f.drop (1 + len)).take c ++ f.drop (1 + len + c) = f.drop (1 + len) := by
    have hdrop : f.drop (1 + len + c) = (f.drop (1 + len)).drop c := List.drop_drop.symm
    rw [hdrop, List.take_append_drop]
  constructor
  case split => rw [List.append_assoc, hsplit, List.take_append_drop]
  case fixedHeader =>
    refine ⟨len, List.length_take_of_le hbody.le, ?_⟩
    rw [hsplit, hbody.body_length, hvbi]
  case variableHeader => rw [hsplit, hheader, List.length_take_of_le hle]
  case typeOnly => exact withLeveledFrame_frame hf hfirst hvbi hbody
  case rawBody =>
    rw [parseRawBody, withLeveledFrame_frame hf hfirst hvbi hbody, hbody.total,
      intoRange_to_end hbody.le, hsplit]
    rfl
  case headersParsed => exact hparse

end Parsed

theorem levelsFind_v5 {p : MqttPacket} {n : Nat} (hf : IsFrame strict f)
    (hfull : MqttPacket.fromBytesV5 strict f = .ok (.packet p n)) :
    ∃ fixed header raw connectFlags, LevelsFind strict f 5 p fixed header raw connectFlags 5 := by
  obtain ⟨size, len, hvbi, hbody⟩ := hf.hasBody
  obtain ⟨byte, hbyte, hfull⟩ := bind_eq_ok.mp hfull
  obtain ⟨kind, hkind, hdecode⟩ := bind_eq_ok.mp hfull
  obtain ⟨first, rest, hcons, hfirst⟩ := fromFirstByte_frame hbyte hkind
  obtain ⟨⟨fields, c⟩, hheader, p', n', connectFlags, hp, rfl, hfields, hle⟩ :=
    variableHeaderV5_leads hbody kind _ hdecode
  cases hp
  dsimp only at hfields hle
  subst hfields
  have hstop : 1 + len + c ≤ f.length := by
    have := hbody.total
    have := hbody.body_length
    omega
  refine ⟨_, _, _, connectFlags, levelsFind hcons hfirst hvbi hbody rfl hle ?_
    (parseHeadersOnlyV5_frame hcons hfirst hvbi hbody hheader hstop)⟩
  rw [variableHeader, if_pos rfl, hbody.body_length, hheader]

theorem levelsFind_v3 {p : MqttPacket} {n : Nat} {v : UInt8} (hf : IsFrame strict f) (hv : v ≠ 5)
    (hparse : parseHeadersOnly strict f v = parseHeadersOnlyV3 strict f)
    (hfull : MqttPacket.fromBytesV3 strict f = .ok (.packet p n)) :
    ∃ fixed header raw connectFlags, LevelsFind strict f v p fixed header raw connectFlags 4 := by
  obtain ⟨size, len, hvbi, hbody⟩ := hf.hasBody
  have hlong : (f.drop 1).isEmpty ≠ true := by
    obtain ⟨_, _, _, _, hne⟩ := hf.remainingLength
    exact fun h => hne (List.isEmpty_iff.mp h)
  obtain ⟨byte, hbyte, hfull⟩ := bind_eq_ok.mp hfull
  obtain ⟨kind, hkind, hdecode⟩ := bind_eq_ok.mp hfull
  obtain ⟨first, rest, hcons, hfirst⟩ := fromFirstByte_frame hbyte hkind
  obtain ⟨⟨fields, c⟩, hheader, p', n', connectFlags, hp, rfl, hfields, hle⟩ :=
    variableHeaderV3_leads hbody hlong kind _ hdecode
  cases hp
  dsimp only at hfields hle
  subst hfields
  have hstop : 1 + len + c ≤ f.length := by
    have := hbody.total
    have := hbody.body_length
    omega
  refine ⟨_, _, _, connectFlags, levelsFind hcons hfirst hvbi hbody rfl hle ?_
    (hparse.trans (parseHeadersOnlyV3_frame hcons hfirst hvbi hbody hheader hstop))⟩
  rw [variableHeader, if_neg hv, hheader]

end Levels

/-- All levels agree on a frame that the typed decoder accepts. -/
theorem parseLevels_agree (strict : Bool) (f : Bytes) (mqttVersion : UInt8) (p : MqttPacket) (n : Nat)
    (hf : packetFrameLen strict f = .ok (some f.length))
    (hfull : MqttPacket.fromBytesWithVersion strict f mqttVersion = .ok (.packet p n)) :
    ∃ fixed header raw connectFlags version,
      LevelsFind strict f mqttVersion p fixed header raw connectFlags version := by
  have hframe : IsFrame strict f := ⟨hf⟩
  unfold MqttPacket.fromBytesWithVersion at hfull
  split at hfull
  case h_1 =>
    obtain ⟨fixed, header, raw, connectFlags, h⟩ := levelsFind_v3 (v := 3) hframe (by decide) rfl hfull
    exact ⟨fixed, header, raw, connectFlags, 4, h⟩
  case h_2 =>
    obtain ⟨fixed, header, raw, connectFlags, h⟩ := levelsFind_v3 (v := 4) hframe (by decide) rfl hfull
    exact ⟨fixed, header, raw, connectFlags, 4, h⟩
  case h_3 =>
    obtain ⟨fixed, header, raw, connectFlags, h⟩ := levelsFind_v5 hframe hfull
    exact ⟨fixed, header, raw, connectFlags, 5, h⟩
  case h_4 => cases hfull

/-- An MQTT 5 PUBLISH at QoS 1 to the topic `a`. -/
theorem parseLevels_agree_publish :
    ∃ fixed header raw connectFlags version, LevelsFind true [0x32, 7, 0, 1, 97, 0, 9, 0, 7] 5
      (.publish5 { topicName := "a", qos := 1, dup := false, retain := false, packetId := some 9
                   payload := [7], properties := [] }) fixed header raw connectFlags version :=
  parseLevels_agree true _ 5 _ 9 (by decide) (by decide)

end FlowSdk
