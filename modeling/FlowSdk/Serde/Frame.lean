/-
  FlowSdk.Serde.Frame — a frame on the wire and reads inside it.

  Every encoder writes a first byte, the length of the body as a variable byte integer
  and the body. The decoders read with offsets into the whole frame; the lemmas of this
  module turn a read behind the fixed header into a read of the body, and a read behind
  an encoded field into a read of what follows the field.

  Main results:
    1. `withFrame_frame`     a decoder reaches its body with the right length and offsets
    2. `encodePacket_ok`     the default encoder writes a frame
    3. `remainingLength_frame`
-/
import FlowSdk.Serde.Decode

namespace FlowSdk

open Wire

/-! ## Frames -/

/-- First byte and remaining length. -/
def frameHeader (first : UInt8) (len : Nat) : Bytes :=
  first :: VariableByteInteger.encode (UInt32.ofNat len)

/-- A frame with its body. -/
def frame (first : UInt8) (body : Bytes) : Bytes := frameHeader first body.length ++ body

/-- The number of bytes of the fixed header: the first byte, and the bytes of the remaining
length up to the first one without a continuation bit. -/
def fixedHeaderLen (b : Bytes) : Nat := 2 + ((b.drop 1).takeWhile (fun byte => byte ≥ 128)).length

/-- The remaining length of an encoded packet: what follows the fixed header. -/
def remainingLength (b : Bytes) : Nat := b.length - fixedHeaderLen b

theorem frame_eq_cons (first : UInt8) (body : Bytes) :
    frame first body =
      first :: (VariableByteInteger.encode (UInt32.ofNat body.length) ++ body) := rfl

theorem frame_length (first : UInt8) (body : Bytes) :
    (frame first body).length = (frameHeader first body.length).length + body.length :=
  List.length_append

namespace VariableByteInteger

/-- All bytes but the last carry the continuation bit. -/
theorem takeWhile_encodeLoop (rest : Bytes) :
    ∀ (fuel num : Nat), num < 128 ^ (fuel + 1) →
      ((encodeLoop (fuel + 1) num ++ rest).takeWhile (fun byte => byte ≥ 128)).length + 1 =
        (encodeLoop (fuel + 1) num).length := by
  have hlast : ∀ k < 128, ¬ UInt8.ofNat k ≥ 128 := by decide
  have hmore : ∀ k < 128, UInt8.ofNat k ||| 128 ≥ 128 := by decide
  intro fuel
  induction fuel with
  | zero =>
    intro num hnum
    have hdiv : ¬ num / 128 > 0 := by omega
    have := hlast (num % 128) (Nat.mod_lt _ (by decide))
    simp [encodeLoop, hdiv, this]
  | succ fuel ih =>
    intro num hnum
    rw [encodeLoop]
    by_cases hdiv : num / 128 > 0
    · have hrest : num / 128 < 128 ^ (fuel + 1) := by
        apply Nat.div_lt_of_lt_mul
        rw [pow_succ] at hnum
        omega
      have hbyte := hmore (num % 128) (Nat.mod_lt _ (by decide))
      simp only [hdiv, if_true, List.cons_append, List.takeWhile_cons, hbyte, decide_true,
        List.length_cons, ih _ hrest]
    · have hbyte := hlast (num % 128) (Nat.mod_lt _ (by decide))
      simp [hdiv, hbyte]

end VariableByteInteger

theorem fixedHeaderLen_frame (first : UInt8) (body : Bytes) :
    fixedHeaderLen (frame first body) = (frameHeader first body.length).length := by
  have hlt : (UInt32.ofNat body.length).toNat < 4294967296 := UInt32.toNat_lt _
  have hwhile : ((VariableByteInteger.encode (UInt32.ofNat body.length) ++ body).takeWhile
      (fun byte => byte ≥ 128)).length + 1 =
        (VariableByteInteger.encode (UInt32.ofNat body.length)).length :=
    VariableByteInteger.takeWhile_encodeLoop body 4 _ (by omega)
  simp only [fixedHeaderLen, frame_eq_cons, List.drop_succ_cons, List.drop_zero, frameHeader,
    List.length_cons]
  omega

theorem remainingLength_frame (first : UInt8) (body : Bytes) :
    remainingLength (frame first body) = body.length := by
  rw [remainingLength, fixedHeaderLen_frame, frame_length]
  omega

/-! ## Reading the header of a frame -/

section Header

variable {first : UInt8} {body : Bytes} {strict : Bool}

theorem packetType_frame : packetType (frame first body) = .ok (first >>> 4) := rfl

theorem headD_frame : (frame first body).headD 0 = first := rfl

theorem expectType_frame {k : ControlPacketType} (h : first >>> 4 = k.code) :
    expectType k (frame first body) = .ok () := by
  simp [expectType, packetType_frame, h]

theorem expectFlags_frame {flags : UInt8} {message : String} (h : first &&& 0x0F = flags) :
    expectFlags flags (frame first body) message = .ok () := by
  rw [expectFlags, flagsOf, headD_frame]
  exact rejectIf_neg _ (not_not_intro h)

theorem toNat_ofNat_of_le {n : Nat} (h : n ≤ VariableByteInteger.maxValue) :
    (UInt32.ofNat n).toNat = n := by
  rw [UInt32.toNat_ofNat', Nat.mod_eq_of_lt]
  unfold VariableByteInteger.maxValue at h
  omega

/-- On a whole frame a decoder goes on with the length of the body and the offsets of the
body and of the end. -/
theorem withFrame_frame (h : body.length ≤ VariableByteInteger.maxValue)
    (k : Nat → Nat → Nat → Decode ParseOk) :
    withFrame strict (frame first body) k =
      k body.length (frameHeader first body.length).length (frame first body).length := by
  have hnat := toNat_ofNat_of_le h
  have hvbi := VariableByteInteger.reads strict (v := UInt32.ofNat body.length)
    (by rw [hnat]; exact h) body
  rw [hnat] at hvbi
  have hoff : 1 + (VariableByteInteger.encode (UInt32.ofNat body.length)).length =
      (frameHeader first body.length).length := Nat.add_comm ..
  unfold withFrame parseRemainingLength
  rw [frame_eq_cons, List.drop_succ_cons, List.drop_zero, hvbi]
  simp only [ok_bind, hoff]
  rw [← frame_eq_cons, frame_length, if_neg (Nat.lt_irrefl _)]

end Header

/-! ## Reading behind a known prefix -/

section Behind

variable {b : Bytes} {n m : Nat} (pre rest : Bytes)

theorem getFrom_at (hb : b = pre ++ rest) (hn : n = pre.length) : getFrom b n = .ok rest := by
  subst hb hn
  simp [getFrom, sliceFrom]

theorem getByte_at (byte : UInt8) (hb : b = pre ++ byte :: rest) (hn : n = pre.length) :
    getByte b n = .ok byte := by
  subst hb hn
  simp [getByte]

theorem getRange_at (hb : b = pre ++ rest) (hn : n = pre.length) (hm : m = b.length) :
    getRange b n m = .ok rest := by
  subst hb hn hm
  rw [getRange, sliceRange_to_length (by simp), List.drop_left, Decode.okOr_some]

theorem indexFrom_at (hb : b = pre ++ rest) (hn : n = pre.length) :
    indexFrom b n = .ok rest := by
  subst hb hn
  simp [indexFrom, sliceFrom]

theorem indexRange_at (hb : b = pre ++ rest) (hn : n = pre.length) (hm : m = b.length) :
    indexRange b n m = .ok rest := by
  subst hb hn hm
  rw [indexRange, sliceRange_to_length (by simp), List.drop_left, Decode.index_some]

theorem index_at (byte : UInt8) (hb : b = pre ++ byte :: rest) (hn : n = pre.length) :
    Decode.index b[n]? = .ok byte := by
  subst hb hn
  simp

theorem indexU16_at (val : UInt16) (hb : b = pre ++ (TwoByteInteger.encode val ++ rest))
    (hn : n = pre.length) : indexU16 b n = .ok val := by
  have h₁ := index_at pre (val.toUInt8 :: rest) (UInt8.ofNat (val.toNat / 256)) (b := b)
    (by simp [hb, TwoByteInteger.encode]) hn
  have h₂ := index_at (pre ++ [UInt8.ofNat (val.toNat / 256)]) rest val.toUInt8 (b := b)
    (n := n + 1) (by simp [hb, TwoByteInteger.encode]) (by simp [hn])
  simp only [indexU16, h₁, h₂, ok_bind, pure_eq_ok, u16FromBeBytes_encode]

end Behind

/-! ## Reading at a place -/

section Place

variable {b field rest : Bytes} {n m : Nat}

/-- The body of a frame starts behind its header. -/
theorem frame_place (first : UInt8) (body : Bytes) :
    At (frame first body) (frameHeader first body.length).length body := .start rfl

theorem getFrom_place (h : At b n rest) : getFrom b n = .ok rest := by
  rw [getFrom, h.sliceFrom, Decode.okOr_some]

theorem indexFrom_place (h : At b n rest) : indexFrom b n = .ok rest := by
  rw [indexFrom, h.sliceFrom, Decode.index_some]

theorem getByte_place {byte : UInt8} (h : At b n (byte :: rest)) : getByte b n = .ok byte := by
  rw [getByte, h.getElem?, Decode.okOr_some]

theorem getRange_place (h : At b n (field ++ rest)) (hm : m = n + field.length) :
    getRange b n m = .ok field := by
  rw [getRange, h.sliceRange hm, Decode.okOr_some]

theorem indexRange_place (h : At b n (field ++ rest)) (hm : m = n + field.length) :
    indexRange b n m = .ok field := by
  rw [indexRange, h.sliceRange hm, Decode.index_some]

end Place

/-! ## Frames the default encoder writes -/

theorem encodePacket_ok {kind : ControlPacketType} {flags : UInt8}
    {validate : Except ParseError Unit} {variableHeader payload : Except ParseError Bytes}
    {b : Bytes} (h : encodePacket kind flags validate variableHeader payload = .ok b) :
    ∃ vhdr pl, validate = .ok () ∧ variableHeader = .ok vhdr ∧ payload = .ok pl ∧
      b = frame ((kind.code <<< 4) ||| flags) (vhdr ++ pl) := by
  rw [encodePacket, check_bind_eq_ok] at h
  simp only [bind_eq_ok, pure_eq_ok, Except.ok.injEq] at h
  obtain ⟨hv, vhdr, hvhdr, pl, hpl, rfl⟩ := h
  refine ⟨vhdr, pl, hv, hvhdr, hpl, ?_⟩
  rw [frame, fixedHeader, frameHeader, List.length_append, List.append_assoc]

theorem encodeEach_ok {α : Type} {encode : α → Except ParseError Bytes}
    (enc : α → Bytes) (henc : ∀ a b, encode a = .ok b → b = enc a) :
    ∀ {items : List α} {b : Bytes}, encodeEach encode items = .ok b →
      b = items.flatMap enc ∧ ∀ a ∈ items, encode a = .ok (enc a) := by
  intro items
  induction items with
  | nil => intro b h; simp_all [encodeEach]
  | cons a items ih =>
    intro b h
    simp only [encodeEach, bind_eq_ok, pure_eq_ok, Except.ok.injEq] at h
    obtain ⟨b₁, h₁, b₂, h₂, rfl⟩ := h
    obtain ⟨rfl, hrest⟩ := ih h₂
    obtain rfl := henc a b₁ h₁
    refine ⟨rfl, fun c hc => ?_⟩
    cases List.mem_cons.mp hc with
    | inl hc => exact hc ▸ h₁
    | inr hc => exact hrest c hc

/-! ## Frames of PUBLISH -/

/-- The packet identifier a PUBLISH carries on the wire: none at QoS 0. -/
def wireId (qos : UInt8) (id : Option UInt16) : Option UInt16 := if qos > 0 then id else none

def wireIdBytes : Option UInt16 → Bytes
  | some id => TwoByteInteger.encode id
  | none => []

/-- The body of a PUBLISH: topic, identifier, properties (none for MQTT 3) and payload. -/
def publishBody (topic : String) (id : Option UInt16) (properties payload : Bytes) : Bytes :=
  Utf8String.encode topic ++ (wireIdBytes id ++ (properties ++ payload))

theorem wireIdBytes_length (id : Option UInt16) :
    (wireIdBytes id).length = if id.isSome then 2 else 0 := by
  cases id <;> rfl

theorem encodePublishHeader_append (flags : UInt8) (topic : String) (id : Option UInt16)
    (properties payload : Bytes) :
    encodePublishHeader flags topic id properties.length payload.length ++ properties ++ payload =
      frame (0x30 ||| flags) (publishBody topic id properties payload) := by
  have hlen : (publishBody topic id properties payload).length =
      2 + strLen topic + (if id.isSome then 2 else 0) + properties.length + payload.length := by
    simp only [publishBody, List.length_append, Utf8String.encode_length, wireIdBytes_length]
    omega
  rw [frame, frameHeader, hlen]
  simp only [encodePublishHeader, publishBody, Utf8String.encode, BinaryData.encode, strLen]
  cases id <;> simp [wireIdBytes]

theorem encodeProperitiesHdr_nil (strict : Bool) : encodeProperitiesHdr strict [] = .ok [0] := rfl

theorem publishId_ok {qos : UInt8} {id wire : Option UInt16} {message : String}
    (h : publishId qos id message = .ok wire) :
    (qos > 0 → id.isSome) ∧ wire = wireId qos id := by
  unfold publishId at h
  unfold wireId
  split at h
  next hq =>
    cases id with
    | none => cases h
    | some id =>
      obtain rfl := Except.ok.inj h
      exact ⟨fun _ => rfl, (if_pos hq).symm⟩
  next hq =>
    obtain rfl := Except.ok.inj h
    exact ⟨fun h => absurd h hq, (if_neg hq).symm⟩

/-- What an encoded MQTT 5 PUBLISH is. -/
theorem V5.MqttPublish.toBytes_ok {strict : Bool} {p : V5.MqttPublish} {b : Bytes}
    (h : p.toBytes strict = .ok b) :
    ∃ props, (strict = true → p.validate = .ok ()) ∧ strLen p.topicName ≤ u16Max ∧
      (p.qos > 0 → p.packetId.isSome) ∧ encodeProperitiesHdr strict p.properties = .ok props ∧
      b = frame (0x30 ||| p.flags)
        (publishBody p.topicName (wireId p.qos p.packetId) props p.payload) := by
  rw [V5.MqttPublish.toBytes, check_bind_eq_ok, onlyIf_eq_ok, check_bind_eq_ok, rejectIf_eq_ok,
    bind_eq_ok] at h
  obtain ⟨hvalid, hlen, id, hid, hb⟩ := h
  obtain ⟨hsome, rfl⟩ := publishId_ok hid
  by_cases hprops : p.properties = []
  · rw [if_pos hprops, pure_eq_ok, Except.ok.injEq, encodePublish,
      encodePublishHeader_append] at hb
    exact ⟨[0], hvalid, by omega, hsome, by rw [hprops, encodeProperitiesHdr_nil], hb.symm⟩
  · rw [if_neg hprops, bind_eq_ok] at hb
    obtain ⟨e, he, hb⟩ := hb
    rw [PropertyEncoder.encodedLen_eq he, encodePublishHeader_append, pure_eq_ok,
      Except.ok.injEq] at hb
    exact ⟨e.encodeInto, hvalid, by omega, hsome, by simp [encodeProperitiesHdr, he], hb.symm⟩

/-- What an encoded MQTT 3 PUBLISH is. -/
theorem V3.MqttPublish.toBytes_ok {strict : Bool} {p : V3.MqttPublish} {b : Bytes}
    (h : p.toBytes strict = .ok b) :
    (strict = true → p.validate = .ok ()) ∧ (p.qos > 0 → p.messageId.isSome) ∧
      b = frame (0x30 ||| p.flags)
        (publishBody p.topicName (wireId p.qos p.messageId) [] p.payload) := by
  rw [V3.MqttPublish.toBytes, check_bind_eq_ok, onlyIf_eq_ok, bind_eq_ok] at h
  obtain ⟨hvalid, id, hid, hb⟩ := h
  obtain ⟨hsome, rfl⟩ := publishId_ok hid
  rw [encodePublish, encodePublishHeader_append, pure_eq_ok, Except.ok.injEq] at hb
  exact ⟨hvalid, hsome, hb.symm⟩

end FlowSdk
