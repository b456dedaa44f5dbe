/-
  FlowSdk.Serde.FieldSize — the fields the strict decoders accept can be written again.

  Each reader checks what the writer of the same field checks, and the writer never needs more
  bytes than the reader has taken: integers and strings have one form, and the writer takes the
  shortest variable byte integer.

  Main results:
    1. `Utf8String.decode_writes`, `BinaryData.decode_writes`
    2. `property_section_codec`                 a property section
-/
import FlowSdk.Serde.Locality

namespace FlowSdk

open Wire

/-! ## Strings and binary data -/

theorem BinaryData.decode_writes {s data : Bytes} {n : Nat} (h : BinaryData.decode s = .ok (data, n)) :
    data.length ≤ u16Max ∧ n = 2 + data.length := by
  obtain ⟨⟨len, two⟩, hint, h⟩ := bind_eq_ok.mp h
  obtain ⟨hlen, heq⟩ := check_bind_eq_ok.mp h
  rw [rejectIf_eq_ok, Nat.not_lt] at hlen
  cases heq
  have hlt : len.toNat < 65536 := len.toNat_lt
  rw [List.length_drop, List.length_take_of_le hlen]
  unfold u16Max
  omega

theorem strBytes_of_fromUtf8 {data : Bytes} {s : String} (h : stringFromUtf8 data = some s) :
    strBytes s = data := by
  unfold stringFromUtf8 String.fromUTF8? at h
  split at h
  next =>
    cases h
    rfl
  next => cases h

theorem Utf8String.decode_writes {s : Bytes} {v : String} {n : Nat}
    (h : Utf8String.decode true s = .ok (v, n)) :
    (strLen v ≤ u16Max ∧ validateMqttUtf8String v = .ok ()) ∧ n = 2 + strLen v := by
  obtain ⟨⟨data, len⟩, hdata, h⟩ := bind_eq_ok.mp h
  obtain ⟨text, htext, h⟩ := bind_eq_ok.mp h
  obtain ⟨hvalid, heq⟩ := check_bind_eq_ok.mp h
  cases heq
  obtain ⟨hlen, hn⟩ := BinaryData.decode_writes hdata
  have hbytes : strBytes v = data := by
    cases hfrom : stringFromUtf8 data with
    | none =>
      rw [hfrom] at htext
      cases htext
    | some w =>
      rw [hfrom] at htext
      cases htext
      exact strBytes_of_fromUtf8 hfrom
  have hvalid : validateMqttUtf8String v = .ok () := by
    cases hcheck : validateMqttUtf8String v with
    | error e =>
      rw [hcheck] at hvalid
      cases hvalid
    | ok u => rfl
  unfold strLen
  rw [hbytes]
  exact ⟨⟨hlen, hvalid⟩, hn⟩

theorem encodeUtf8String_writes {v : String}
    (h : strLen v ≤ u16Max ∧ validateMqttUtf8String v = .ok ()) :
    encodeUtf8String true v = .ok (Utf8String.encode v) := by
  unfold encodeUtf8String
  rw [rejectIf_neg _ (Nat.not_lt.mpr h.1), h.2]
  rfl

theorem encodeBinaryData_writes {data : Bytes} (h : data.length ≤ u16Max) :
    encodeBinaryData data = .ok (BinaryData.encode data) := if_neg (Nat.not_lt.mpr h)

/-! ## Properties -/

section Values

variable {strict : Bool} {b : Bytes} {offset n : Nat} {p : Property}

theorem byteValue_ok {mk : UInt8 → Property} (h : byteValue b offset mk = .ok (p, n)) :
    ∃ v, p = mk v ∧ n = offset + 1 := by
  obtain ⟨v, -, heq⟩ := bind_eq_ok.mp h
  cases heq
  exact ⟨v, rfl, rfl⟩

theorem twoByteValue_ok {mk : UInt16 → Property} (h : twoByteValue b offset mk = .ok (p, n)) :
    ∃ v, p = mk v ∧ n = offset + 2 := by
  obtain ⟨slice, -, h⟩ := bind_eq_ok.mp h
  split at h
  next =>
    cases h
    exact ⟨_, rfl, rfl⟩
  next => cases h

theorem fourByteValue_ok {mk : UInt32 → Property} (h : fourByteValue b offset mk = .ok (p, n)) :
    ∃ v, p = mk v ∧ n = offset + 4 := by
  obtain ⟨slice, -, h⟩ := bind_eq_ok.mp h
  split at h
  next =>
    cases h
    exact ⟨_, rfl, rfl⟩
  next => cases h

theorem vbiValue_ok {mk : UInt32 → Property} (h : vbiValue strict b offset mk = .ok (p, n)) :
    ∃ v, p = mk v ∧ offset + (VariableByteInteger.encode v).length ≤ n := by
  obtain ⟨slice, -, h⟩ := bind_eq_ok.mp h
  obtain ⟨⟨v, c⟩, hread, heq⟩ := bind_eq_ok.mp h
  cases heq
  obtain ⟨hv, hn, -⟩ := VariableByteInteger.decode_bound hread
  exact ⟨_, rfl, Nat.add_le_add_left (VariableByteInteger.encode_length_le hv hn) _⟩

theorem textValue_ok {mk : String → Property} (h : textValue true b offset mk = .ok (p, n)) :
    ∃ v, p = mk v ∧ n = offset + (2 + strLen v) := by
  obtain ⟨slice, -, h⟩ := bind_eq_ok.mp h
  obtain ⟨⟨v, c⟩, hread, heq⟩ := bind_eq_ok.mp h
  cases heq
  obtain ⟨-, rfl⟩ := Utf8String.decode_writes hread
  exact ⟨v, rfl, rfl⟩

theorem binaryValue_ok {mk : Bytes → Property} (h : binaryValue b offset mk = .ok (p, n)) :
    ∃ v, p = mk v ∧ n = offset + (2 + v.length) := by
  obtain ⟨slice, -, h⟩ := bind_eq_ok.mp h
  obtain ⟨⟨v, c⟩, hread, heq⟩ := bind_eq_ok.mp h
  cases heq
  obtain ⟨-, rfl⟩ := BinaryData.decode_writes hread
  exact ⟨v, rfl, rfl⟩

theorem pairValue_ok {mk : String → String → Property}
    (h : pairValue true b offset mk = .ok (p, n)) :
    ∃ k v, p = mk k v ∧ n = offset + (2 + strLen k) + (2 + strLen v) := by
  obtain ⟨slice, -, h⟩ := bind_eq_ok.mp h
  obtain ⟨⟨k, c⟩, hkey, h⟩ := bind_eq_ok.mp h
  obtain ⟨slice, -, h⟩ := bind_eq_ok.mp h
  obtain ⟨⟨v, c⟩, hval, heq⟩ := bind_eq_ok.mp h
  cases heq
  obtain ⟨-, rfl⟩ := Utf8String.decode_writes hkey
  obtain ⟨-, rfl⟩ := Utf8String.decode_writes hval
  exact ⟨k, v, rfl, rfl⟩

end Values

/-- A property takes at least the bytes it is written in. -/
theorem parseProperty_size {s : Bytes} {p : Property} {n : Nat}
    (h : parseProperty true s = .ok (p, n)) : p.encodeValidated.length ≤ n := by
  unfold parseProperty at h
  obtain ⟨⟨id, offset⟩, hid, h⟩ := bind_eq_ok.mp h
  have hpos : 0 < offset := (VariableByteInteger.decode_bound hid).2.1
  have hbyte : ∀ {mk : UInt8 → Property}, (∀ v, (mk v).encodeValue = [v]) →
      byteValue s offset mk = .ok (p, n) → p.encodeValidated.length ≤ n := by
    rintro mk hmk h
    obtain ⟨v, rfl, rfl⟩ := byteValue_ok h
    rw [Property.encodeValidated, List.length_cons, hmk, List.length_singleton]
    omega
  have htwo : ∀ {mk : UInt16 → Property}, (∀ v, (mk v).encodeValue = TwoByteInteger.encode v) →
      twoByteValue s offset mk = .ok (p, n) → p.encodeValidated.length ≤ n := by
    rintro mk hmk h
    obtain ⟨v, rfl, rfl⟩ := twoByteValue_ok h
    rw [Property.encodeValidated, List.length_cons, hmk, TwoByteInteger.encode_length]
    omega
  have hfour : ∀ {mk : UInt32 → Property}, (∀ v, (mk v).encodeValue = FourByteInteger.encode v) →
      fourByteValue s offset mk = .ok (p, n) → p.encodeValidated.length ≤ n := by
    rintro mk hmk h
    obtain ⟨v, rfl, rfl⟩ := fourByteValue_ok h
    rw [Property.encodeValidated, List.length_cons, hmk, FourByteInteger.encode_length]
    omega
  have htext : ∀ {mk : String → Property},
      (∀ v, (mk v).encodeValue = BinaryData.encode (strBytes v)) →
      textValue true s offset mk = .ok (p, n) → p.encodeValidated.length ≤ n := by
    rintro mk hmk h
    obtain ⟨v, rfl, rfl⟩ := textValue_ok h
    rw [Property.encodeValidated, List.length_cons, hmk, BinaryData.encode_length, strLen]
    omega
  have hbinary : ∀ {mk : Bytes → Property}, (∀ v, (mk v).encodeValue = BinaryData.encode v) →
      binaryValue s offset mk = .ok (p, n) → p.encodeValidated.length ≤ n := by
    rintro mk hmk h
    obtain ⟨v, rfl, rfl⟩ := binaryValue_ok h
    rw [Property.encodeValidated, List.length_cons, hmk, BinaryData.encode_length]
    omega
  dsimp only at h
  split at h
  next => cases h
  next kind hkind =>
    cases kind <;> dsimp only at h
    case payloadFormatIndicator | requestProblemInformation | requestResponseInformation
        | maximumQoS | retainAvailable | wildcardSubscriptionAvailable
        | subscriptionIdentifierAvailable | sharedSubscriptionAvailable =>
      exact hbyte (fun _ => rfl) h
    case serverKeepAlive | receiveMaximum | topicAliasMaximum | topicAlias =>
      exact htwo (fun _ => rfl) h
    case messageExpiryInterval | sessionExpiryInterval | willDelayInterval | maximumPacketSize =>
      exact hfour (fun _ => rfl) h
    case contentType | responseTopic | assignedClientIdentifier | authenticationMethod
        | responseInformation | serverReference | reasonString =>
      exact htext (fun _ => rfl) h
    case correlationData | authenticationData => exact hbinary (fun _ => rfl) h
    case subscriptionIdentifier =>
      obtain ⟨v, rfl, hn⟩ := vbiValue_ok h
      rw [Property.encodeValidated, List.length_cons]
      exact Nat.le_trans (by rw [Property.encodeValue]; omega) hn
    case userProperty =>
      obtain ⟨k, v, rfl, rfl⟩ := pairValue_ok h
      rw [Property.encodeValidated, List.length_cons, Property.encodeValue, List.length_append,
        BinaryData.encode_length, BinaryData.encode_length, strLen, strLen]
      omega

theorem check_eq_ok {α : Type} {x : Except ParseError α} {a : α} :
    Decode.check x = .ok a ↔ x = .ok a := by
  cases x with
  | error e => exact ⟨(fun h => nomatch h), (fun h => nomatch h)⟩
  | ok b => exact ⟨fun h => congrArg _ (Except.ok.inj h), fun h => congrArg _ (Except.ok.inj h)⟩

theorem parseNextProperty_writes {s : Bytes} {p : Property} {n : Nat}
    (h : parseNextProperty true s = .ok (p, n)) :
    propertyValue p = .ok () ∧ p.encodeValidated.length ≤ n := by
  obtain ⟨⟨p', n'⟩, hparse, h⟩ := bind_eq_ok.mp h
  obtain ⟨hvalue, heq⟩ := check_bind_eq_ok.mp h
  cases heq
  exact ⟨check_eq_ok.mp hvalue, parseProperty_size hparse⟩

/-- Checked values are short enough for the writer. -/
theorem Property.encodedLen_of_value (strict : Bool) {p : Property} (h : propertyValue p = .ok ()) :
    p.encodedLen strict = .ok p.encodeValidated.length := by
  have hlen : ∃ n, p.valueLen = .ok n := by
    have hbinary : ∀ {len : Nat}, len ≤ u16Max → binaryLen len = .ok (2 + len) :=
      fun h => if_neg (Nat.not_lt.mpr h)
    cases p <;> simp only [propertyValue, rejectIf_eq_ok, validateString_eq_ok, validateTopic_eq_ok,
      check_bind_eq_ok, Property.valueLen] at h ⊢
    case userProperty =>
      rw [hbinary h.1.1, hbinary h.2.1]
      exact ⟨_, rfl⟩
    case contentType | authenticationMethod | responseInformation | serverReference | reasonString =>
      exact ⟨_, hbinary h.1⟩
    case responseTopic | assignedClientIdentifier => exact ⟨_, hbinary h.1.1⟩
    case correlationData | authenticationData => exact ⟨_, hbinary (Nat.not_lt.mp h)⟩
    all_goals exact ⟨_, rfl⟩
  obtain ⟨n, hn⟩ := hlen
  unfold Property.encodedLen
  rw [h, hn, Property.valueLen_ok hn, Property.encodeValidated, List.length_cons, Nat.add_comm]
  cases strict <;> rfl

theorem PropertyEncoder.new_writes (strict : Bool) {ps : Properties}
    (h : ∀ p ∈ ps, propertyValue p = .ok ()) :
    PropertyEncoder.new strict ps = .ok ⟨ps, (ps.flatMap Property.encodeValidated).length⟩ := by
  have hloop : ∀ (ps : Properties) (start : Nat), (∀ p ∈ ps, propertyValue p = .ok ()) →
      bodyLenLoop strict ps start = .ok (start + (ps.flatMap Property.encodeValidated).length) := by
    intro ps
    induction ps with
    | nil => exact fun start _ => rfl
    | cons p ps ih =>
      intro start h
      obtain ⟨hp, hps⟩ := List.forall_mem_cons.mp h
      rw [bodyLenLoop, Property.encodedLen_of_value strict hp, ok_bind, ih _ hps, List.flatMap_cons,
        List.length_append, Nat.add_assoc]
  unfold PropertyEncoder.new
  rw [hloop ps 0 h, Nat.zero_add]
  rfl

theorem encodeProperitiesHdr_writes {ps : Properties} (h : ∀ p ∈ ps, propertyValue p = .ok ()) :
    encodeProperitiesHdr true ps = .ok (propertySection ps) := by
  unfold encodeProperitiesHdr
  rw [PropertyEncoder.new_writes true h]
  rfl

theorem parsePropertiesHdr_writes {s : Bytes} {ps : Properties} {n : Nat}
    (h : parsePropertiesHdr true s = .ok (ps, n)) :
    (∀ p ∈ ps, propertyValue p = .ok ()) ∧ (propertySection ps).length ≤ n := by
  obtain ⟨len, offset, hlen, rfl, -, hprops⟩ := parsePropertiesHdr_consumed h
  obtain ⟨hvalues, hsum⟩ := readMany_size (fun p => propertyValue p = .ok ())
    (fun p => p.encodeValidated.length) parseNextProperty_writes hprops
  refine ⟨hvalues, ?_⟩
  obtain ⟨hbound, hpos, -⟩ := VariableByteInteger.decode_bound hlen
  have hbody : (ps.flatMap Property.encodeValidated).length ≤ len := by
    rw [List.length_flatMap]
    omega
  have hprefix := VariableByteInteger.encode_length_le (Nat.lt_of_le_of_lt hbody hbound) hpos
  unfold propertySection
  rw [List.length_append]
  omega

/-- The codec of a property section, in both builds: checked values are written with the
announced number of bytes and read back, and the reader takes the declared section and looks at
nothing behind it. -/
theorem property_section_codec (strict : Bool) :
    (∀ ps : Properties, (∀ p ∈ ps, propertyValue p = .ok ()) →
      ∃ e, PropertyEncoder.new strict ps = .ok e ∧ e.encodeInto.length = e.encodedLen ∧
        (e.encodedLen < 268435456 → ∀ r,
          parsePropertiesHdr strict (e.encodeInto ++ r) = .ok (ps, e.encodedLen))) ∧
    ∀ b : Bytes, (∀ p, parsePropertiesHdr strict b ≠ .error (.panic p)) ∧
      (∀ ps n, parsePropertiesHdr strict b = .ok (ps, n) →
        ∃ len offset, parseVbi strict b = .ok (len, offset) ∧ n = offset + len ∧ n ≤ b.length) ∧
      ∀ len offset, parseVbi strict b = .ok (len, offset) → offset + len ≤ b.length → ∀ c,
        parsePropertiesHdr strict (b.take (offset + len) ++ c) = parsePropertiesHdr strict b := by
  refine ⟨fun ps hps => ?_, fun b => ⟨fun p h => ?_, fun ps n h => ?_, fun len offset hvbi hlen =>
    parsePropertiesHdr_cut hvbi hlen⟩⟩
  · have hnew := PropertyEncoder.new_writes strict hps
    refine ⟨_, hnew, (PropertyEncoder.encodedLen_eq hnew).symm, fun hsize r => ?_⟩
    rw [PropertyEncoder.encodedLen_eq hnew] at hsize ⊢
    exact propertySection_reads strict hps (Nat.le_of_lt_succ hsize) r
  · rcases (parsePropertiesHdr_local strict).sound b with ⟨_, ⟨error, rfl⟩, herr⟩ | ⟨_, hok, -⟩
    · cases h.symm.trans herr
    · cases h.symm.trans hok
  · obtain ⟨len, offset, hvbi, hn, hle, -⟩ := parsePropertiesHdr_consumed h
    exact ⟨len, offset, hvbi, hn, hle⟩

end FlowSdk
