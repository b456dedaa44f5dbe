/-
  FlowSdk.Serde.Connect — when a CONNECT survives the wire.

  The presence of the will, the user name and the password is written in the flags, apart from
  the fields themselves, and the decoders have rules that the encoders do not check: MQTT 5
  refuses an empty user name, password or will message, MQTT 3 a password without a user name,
  and both a protocol name of their own. MQTT 3 also writes the length of a will message and of
  a password modulo 65536. `ReadsBack` collects what the encoders leave to the caller.

  Main results:
    1. `MqttPacket.connect_fromBytes_toBytes`   a CONNECT that meets `ReadsBack` is read back
    2. `MqttPacket.connect_refused`             some that do not are written and then refused
-/
import FlowSdk.Serde.RoundTrip

namespace FlowSdk

open Wire

namespace V5

/-! ## The flags of MQTT 5 -/

/-- The flags in terms of what is present. -/
def flagByte (hasUsername hasPassword cleanStart : Bool) (will : Option (UInt8 × Bool)) : UInt8 :=
  let flags : UInt8 := if hasUsername then 0x80 else 0
  let flags : UInt8 := if hasPassword then flags ||| 0x40 else flags
  let flags : UInt8 := match will with
    | some (qos, retain) =>
      let flags : UInt8 := flags ||| (0x04 : UInt8) ||| (qos <<< 3)
      if retain then flags ||| 0x20 else flags
    | none => flags
  if cleanStart then flags ||| 0x02 else flags

theorem MqttConnect.connectFlags_eq (p : MqttConnect) :
    p.connectFlags = flagByte p.username.isSome p.password.isSome p.cleanStart
      (p.will.map fun will => (will.willQos, will.willRetain)) := by
  unfold MqttConnect.connectFlags
  cases p.will <;> rfl

/-- What the decoder reads off the flags. -/
structure FlagsRead (flags : UInt8) (hasUsername hasPassword cleanStart hasWill : Bool) : Prop where
  valid : checkConnectFlags flags = .ok ()
  cleanStart : decide (flags &&& 0x02 ≠ 0) = cleanStart
  will : decide (flags &&& 0x04 ≠ 0) = hasWill
  username : decide (flags &&& 0x80 ≠ 0) = hasUsername
  password : decide (flags &&& 0x40 ≠ 0) = hasPassword

theorem flagByte_none (u w c : Bool) : FlagsRead (flagByte u w c none) u w c false := by
  cases u <;> cases w <;> cases c <;> exact ⟨rfl, rfl, rfl, rfl, rfl⟩

theorem flagByte_some (u w c retain : Bool) {qos : UInt8} (h : qos ≤ 2) :
    FlagsRead (flagByte u w c (some (qos, retain))) u w c true ∧
      (flagByte u w c (some (qos, retain)) >>> 3) &&& 0x03 = qos ∧
      decide (flagByte u w c (some (qos, retain)) &&& 0x20 ≠ 0) = retain := by
  rcases le_two_cases h with rfl | rfl | rfl <;>
    cases u <;> cases w <;> cases c <;> cases retain <;>
      exact ⟨⟨rfl, rfl, rfl, rfl, rfl⟩, rfl, rfl⟩

theorem MqttConnect.connectFlags_read {p : MqttConnect} (h : ∀ will ∈ p.will, will.willQos ≤ 2) :
    FlagsRead p.connectFlags p.username.isSome p.password.isSome p.cleanStart p.will.isSome ∧
      ∀ will ∈ p.will, (p.connectFlags >>> 3) &&& 0x03 = will.willQos ∧
        decide (p.connectFlags &&& 0x20 ≠ 0) = will.willRetain := by
  rw [p.connectFlags_eq]
  cases hwill : p.will with
  | none => exact ⟨flagByte_none _ _ _, fun will hmem => by cases hmem⟩
  | some will =>
    obtain ⟨hflags, hbits⟩ := flagByte_some p.username.isSome p.password.isSome p.cleanStart
      will.willRetain (h will hwill)
    refine ⟨hflags, fun other hmem => ?_⟩
    cases hmem
    exact hbits

/-! ## The will -/

theorem WillProperties.foldl_toList {w : WillProperties}
    (h : ∀ prop ∈ w.userProperties, prop.id = .userProperty) :
    w.toList.foldl WillProperties.set .empty = w := by
  obtain ⟨delay, format, expiry, content, response, correlation, users⟩ := w
  have husers : ∀ (list : Properties), (∀ prop ∈ list, prop.id = .userProperty) →
      ∀ w : WillProperties, list.foldl WillProperties.set w =
        { w with userProperties := w.userProperties ++ list } := by
    intro list
    induction list with
    | nil => intro _ w; simp
    | cons prop list ih =>
      intro hlist w
      obtain ⟨hprop, hrest⟩ := List.forall_mem_cons.mp hlist
      cases prop <;> simp only [Property.id, reduceCtorEq] at hprop
      rw [List.foldl_cons, ih hrest]
      simp [WillProperties.set]
  simp only [WillProperties.toList, List.foldl_append]
  rw [husers users h]
  cases delay <;> cases format <;> cases expiry <;> cases content <;> cases response <;>
    cases correlation <;> rfl

theorem Will.payload_ok {will : Will} {b : Bytes} (h : will.payload true = .ok b) :
    ∃ props, Validation.properties will.properties.toList .will = .ok () ∧
      encodeProperitiesHdr true will.properties.toList = .ok props ∧
      encodeUtf8String true will.willTopic = .ok (Utf8String.encode will.willTopic) ∧
      will.willMessage.length ≤ u16Max ∧
      b = props ++ (Utf8String.encode will.willTopic ++ BinaryData.encode will.willMessage) := by
  obtain ⟨hvalid, h⟩ := check_bind_eq_ok.mp h
  obtain ⟨props, hprops, h⟩ := bind_eq_ok.mp h
  obtain ⟨topic, htopic, h⟩ := bind_eq_ok.mp h
  obtain ⟨message, hmessage, heq⟩ := bind_eq_ok.mp h
  obtain rfl := Except.ok.inj heq
  obtain ⟨-, -, rfl⟩ := encodeUtf8String_ok htopic
  unfold encodeBinaryData at hmessage
  split at hmessage
  next => cases hmessage
  next hle =>
    cases hmessage
    exact ⟨props, hvalid, hprops, htopic, Nat.not_lt.mp hle, List.append_assoc ..⟩

theorem Will.fromBytes_reads {will : Will} {b : Bytes} {flags : UInt8}
    (h : will.payload true = .ok b) (hlen : b.length ≤ VariableByteInteger.maxValue)
    (husers : ∀ prop ∈ will.properties.userProperties, prop.id = .userProperty)
    (hqos : (flags >>> 3) &&& 0x03 = will.willQos)
    (hretain : decide (flags &&& 0x20 ≠ 0) = will.willRetain) :
    Reads (fun buffer => Will.fromBytes true buffer flags) b will := by
  obtain ⟨props, hvalid, hprops, htopic, hmessage, rfl⟩ := Will.payload_ok h
  obtain ⟨htlen, htutf, -⟩ := encodeUtf8String_ok htopic
  intro rest
  rw [List.length_append] at hlen
  have hstart : At (props ++ (Utf8String.encode will.willTopic ++
      BinaryData.encode will.willMessage) ++ rest) 0
      (props ++ (Utf8String.encode will.willTopic ++
        (BinaryData.encode will.willMessage ++ rest))) := ⟨Nat.zero_le _, by simp⟩
  have hplaceTopic := hstart.advance
  rw [Nat.zero_add] at hplaceTopic
  have hplaceMessage := hplaceTopic.advance
  have hsection := parsePropertiesHdr_reads hprops (by omega)
    (Utf8String.encode will.willTopic ++ (BinaryData.encode will.willMessage ++ rest))
  rw [← hstart.drop_eq, List.drop_zero] at hsection
  show Will.fromBytes true _ flags = _
  unfold Will.fromBytes
  rw [hsection, ok_bind]
  simp only [hvalid, onlyIf_true, Decode.check_ok, ok_bind, indexFrom_place hplaceTopic,
    parseUtf8String, Utf8String.reads true htlen htutf _, indexFrom_place hplaceMessage,
    parseBinaryData, BinaryData.reads hmessage _, hqos, hretain,
    WillProperties.foldl_toList husers, pure_eq_ok, List.length_append, Nat.add_assoc]

/-! ## The optional fields -/

/-- What the encoder of MQTT 5 leaves to the caller. -/
structure MqttConnect.ReadsBack (p : MqttConnect) : Prop where
  name : p.protocolName = "MQTT"
  username : p.username ≠ some ""
  password : p.password ≠ some []
  will : ∀ will ∈ p.will, will.willMessage ≠ [] ∧
    ∀ prop ∈ will.properties.userProperties, prop.id = .userProperty

section Fields

variable {p : MqttConnect} {field rest b : Bytes} {n : Nat}

theorem readWill_at (hplace : At b n (field ++ rest))
    (h : p.will.elim (.ok []) (Will.payload true) = .ok field)
    (hlen : field.length ≤ VariableByteInteger.maxValue)
    (hvalid : ∀ will ∈ p.will, will.willQos ≤ 2 ∧ will.willTopic ≠ "") (hread : p.ReadsBack) :
    readWill true b p.connectFlags n = .ok (p.will, n + field.length) := by
  obtain ⟨hflags, hbits⟩ :=
    MqttConnect.connectFlags_read (p := p) fun will hwill => (hvalid will hwill).1
  have hflag := hflags.will
  unfold readWill
  cases hwill : p.will with
  | none =>
    rw [hwill] at h hflag
    cases h
    rw [if_neg (of_decide_eq_false hflag)]
    rfl
  | some will =>
    rw [hwill] at h hflag
    obtain ⟨hqos, hretain⟩ := hbits will hwill
    obtain ⟨hmessage, husers⟩ := hread.will will hwill
    have hfield := Will.fromBytes_reads h hlen husers hqos hretain rest
    have hempty : ¬ (will.willTopic = "" ∨ will.willMessage = []) :=
      not_or.mpr ⟨(hvalid will hwill).2, hmessage⟩
    rw [if_pos (of_decide_eq_true hflag), indexFrom_place hplace, ok_bind]
    dsimp only at hfield
    rw [hfield, ok_bind]
    simp only [rejectIf_neg _ hempty, ok_bind, pure_eq_ok]

theorem readUsername_at (hplace : At b n (field ++ rest))
    (h : p.username.elim (.ok []) (encodeUtf8String true) = .ok field)
    (hvalid : ∀ will ∈ p.will, will.willQos ≤ 2) (hread : p.ReadsBack) :
    readUsername true b p.connectFlags n =
      .ok (p.username, n + field.length) := by
  have hflag := (MqttConnect.connectFlags_read hvalid).1.username
  unfold readUsername
  cases husername : p.username with
  | none =>
    rw [husername] at h hflag
    cases h
    rw [if_neg (of_decide_eq_false hflag)]
    rfl
  | some username =>
    rw [husername] at h hflag
    obtain ⟨hlen, hutf, rfl⟩ := encodeUtf8String_ok h
    have hempty : ¬ username = "" := fun heq => hread.username (heq ▸ husername)
    rw [if_pos (of_decide_eq_true hflag), getFrom_place hplace, ok_bind, parseUtf8String,
      Utf8String.reads true hlen hutf rest, ok_bind]
    simp only [rejectIf_neg _ hempty, ok_bind, pure_eq_ok]

theorem readPassword_at (hplace : At b n (field ++ rest))
    (h : p.password.elim (.ok []) encodeBinaryData = .ok field)
    (hvalid : ∀ will ∈ p.will, will.willQos ≤ 2) (hread : p.ReadsBack) :
    readPassword b p.connectFlags n = .ok (p.password, n + field.length) := by
  have hflag := (MqttConnect.connectFlags_read hvalid).1.password
  unfold readPassword
  cases hpassword : p.password with
  | none =>
    rw [hpassword] at h hflag
    cases h
    rw [if_neg (of_decide_eq_false hflag)]
    rfl
  | some password =>
    rw [hpassword] at h hflag
    rw [Option.elim_some, encodeBinaryData] at h
    split at h
    next => cases h
    next hle =>
      cases h
      have hempty : ¬ password = [] := fun heq => hread.password (heq ▸ hpassword)
      rw [if_pos (of_decide_eq_true hflag), getFrom_place hplace, ok_bind, parseBinaryData,
        BinaryData.reads (Nat.not_lt.mp hle) rest, ok_bind]
      simp only [rejectIf_neg _ hempty, ok_bind, pure_eq_ok]

end Fields

/-! ## CONNECT of MQTT 5 -/

theorem MqttConnect.validate_will {p : MqttConnect} (h : p.validate = .ok ()) :
    ∀ will ∈ p.will, will.willQos ≤ 2 ∧ will.willTopic ≠ "" := by
  intro will hwill
  cases husername : p.username <;>
    simp only [MqttConnect.validate, husername, Option.mem_def.mp hwill, check_bind_eq_ok,
      require_eq_ok, validateTopic_eq_ok] at h <;>
    tauto

theorem MqttConnect.payload_eq (p : MqttConnect) : p.payload true = (do
    let client ← encodeUtf8String true p.clientId
    let will ← p.will.elim (.ok []) (Will.payload true)
    let user ← p.username.elim (.ok []) (encodeUtf8String true)
    let pass ← p.password.elim (.ok []) encodeBinaryData
    return client ++ will ++ user ++ pass) := by
  unfold MqttConnect.payload
  cases p.will <;> cases p.username <;> cases p.password <;> rfl

theorem MqttConnect.payload_ok {p : MqttConnect} {b : Bytes} (h : p.payload true = .ok b) :
    ∃ will user pass, encodeUtf8String true p.clientId = .ok (Utf8String.encode p.clientId) ∧
      p.will.elim (.ok []) (Will.payload true) = .ok will ∧
      p.username.elim (.ok []) (encodeUtf8String true) = .ok user ∧
      p.password.elim (.ok []) encodeBinaryData = .ok pass ∧
      b = Utf8String.encode p.clientId ++ (will ++ (user ++ pass)) := by
  rw [MqttConnect.payload_eq] at h
  obtain ⟨client, hclient, h⟩ := bind_eq_ok.mp h
  obtain ⟨will, hwill, h⟩ := bind_eq_ok.mp h
  obtain ⟨user, huser, h⟩ := bind_eq_ok.mp h
  obtain ⟨pass, hpass, heq⟩ := bind_eq_ok.mp h
  obtain rfl := Except.ok.inj heq
  obtain ⟨-, -, rfl⟩ := encodeUtf8String_ok hclient
  exact ⟨will, user, pass, hclient, hwill, huser, hpass, by simp⟩

theorem MqttConnect.fromBytes_toBytes {p : MqttConnect} {b : Bytes}
    (h : (MqttPacket.connect5 p).toBytes true = .ok b)
    (hlen : remainingLength b ≤ VariableByteInteger.maxValue) (hread : p.ReadsBack) :
    MqttConnect.fromBytes true b = .ok (.packet (.connect5 p) b.length) := by
  obtain ⟨vhdr, pl, hvalid, hvhdr, hpl, rfl⟩ := encodePacket_ok h
  rw [remainingLength_frame] at hlen
  have hwills := MqttConnect.validate_will hvalid
  have hqos : ∀ will ∈ p.will, will.willQos ≤ 2 := fun will hwill => (hwills will hwill).1
  obtain ⟨hflags, -⟩ := MqttConnect.connectFlags_read hqos
  obtain ⟨name, hname, hvhdr⟩ := bind_eq_ok.mp hvhdr
  obtain ⟨props, hprops, hvhdr⟩ := bind_eq_ok.mp hvhdr
  obtain rfl := Except.ok.inj hvhdr
  obtain ⟨will, user, pass, hclient, hwill, huser, hpass, rfl⟩ := MqttConnect.payload_ok hpl
  obtain ⟨hnlen, hnutf, rfl⟩ := encodeUtf8String_ok hname
  obtain ⟨hclen, hcutf, -⟩ := encodeUtf8String_ok hclient
  have hfits : props.length ≤ VariableByteInteger.maxValue ∧
      will.length ≤ VariableByteInteger.maxValue := by
    simp only [List.length_append] at hlen
    omega
  have hsection := parsePropertiesHdr_reads hprops hfits.1
  have hfixed : Decode.check (Validation.fixedHeader ((ControlPacketType.connect.code <<< 4) ||| 0)) =
      .ok () := by decide
  unfold MqttConnect.fromBytes
  rw [expectType_frame (by rfl), ok_bind, headD_frame, onlyIf_true, hfixed, ok_bind,
    withFrame_frame hlen]
  generalize hbody : Utf8String.encode p.protocolName ++ [p.protocolVersion, p.connectFlags] ++
    TwoByteInteger.encode p.keepAlive ++ props ++ (Utf8String.encode p.clientId ++
      (will ++ (user ++ pass))) = body
  have hfields : body = Utf8String.encode p.protocolName ++ (p.protocolVersion :: p.connectFlags ::
      (TwoByteInteger.encode p.keepAlive ++ (props ++ (Utf8String.encode p.clientId ++
        (will ++ (user ++ (pass ++ []))))))) := by
    rw [← hbody]
    simp only [List.append_assoc, List.cons_append, List.nil_append, List.append_nil]
  -- the place of each field, from the start of the body
  have hatName := frame_place ((ControlPacketType.connect.code <<< 4) ||| 0) body
  generalize frame _ body = b at hatName ⊢
  generalize frameHeader _ _ = hdr at hatName ⊢
  rw [hfields] at hatName
  have hatVersion := hatName.advance
  have hatFlags := hatVersion.next
  have hatKeep := hatFlags.next
  have hrange := getRange_place hatKeep rfl
  have hatProps := hatKeep.advance
  have hatClient := hatProps.advance
  have hatWill := hatClient.advance
  have hatUser := hatWill.advance
  have hatPass := hatUser.advance
  have hend := hatPass.advance.length
  rw [TwoByteInteger.encode_length] at hrange hatProps hatClient hatWill hatUser hatPass hend
  rw [List.length_nil, Nat.add_zero] at hend
  have hkeep := TwoByteInteger.reads p.keepAlive []
  rw [List.append_nil] at hkeep
  simp only [getFrom_place hatName, parseUtf8String, Utf8String.reads true hnlen hnutf _, ok_bind,
    rejectIf_neg _ (not_not_intro hread.name), getByte_place hatVersion, getByte_place hatFlags,
    onlyIf_true, hflags.valid, hrange, hkeep, getFrom_place hatProps,
    hsection _, getFrom_place hatClient, Utf8String.reads true hclen hcutf _,
    readWill_at hatWill hwill hfits.2 hwills hread, readUsername_at hatUser huser hqos hread,
    readPassword_at hatPass hpass hqos hread, hflags.cleanStart]
  rw [rejectIf_neg _ (not_not_intro hend.symm), ok_bind, ← hend]
  exact validatedPacket_ok (p := .connect5 p) hvalid _

end V5

namespace V3

/-! ## CONNECT of MQTT 3 -/

def flagByte (hasUsername hasPassword cleanSession : Bool) (will : Option (UInt8 × Bool)) : UInt8 :=
  let flags : UInt8 := if cleanSession then 0x02 else 0
  let flags : UInt8 := match will with
    | some (qos, retain) =>
      let flags : UInt8 := flags ||| (0x04 : UInt8) ||| (qos <<< 3)
      if retain then flags ||| 0x20 else flags
    | none => flags
  let flags : UInt8 := if hasUsername then flags ||| 0x80 else flags
  if hasPassword then flags ||| 0x40 else flags

theorem MqttConnect.flags_eq (p : MqttConnect) :
    p.flags = flagByte p.username.isSome p.password.isSome p.cleanSession
      (p.will.map fun will => (will.qos, will.retain)) := by
  unfold MqttConnect.flags
  cases p.will <;> rfl

/-- What the decoder reads off the flags. -/
structure FlagsRead (flags : UInt8) (hasUsername hasPassword cleanSession hasWill : Bool) : Prop where
  valid : Validation.connectFlags flags = .ok ()
  reserved : ¬ flags &&& 0x01 ≠ 0
  cleanSession : decide (flags &&& 0x02 > 0) = cleanSession
  will : decide (flags &&& 0x04 > 0) = hasWill
  username : decide (flags &&& 0x80 > 0) = hasUsername
  password : decide (flags &&& 0x40 > 0) = hasPassword

theorem flagByte_none (u w c : Bool) : FlagsRead (flagByte u w c none) u w c false := by
  cases u <;> cases w <;> cases c <;> exact ⟨rfl, by decide, rfl, rfl, rfl, rfl⟩

theorem flagByte_some (u w c retain : Bool) {qos : UInt8} (h : qos ≤ 2) :
    FlagsRead (flagByte u w c (some (qos, retain))) u w c true ∧
      (flagByte u w c (some (qos, retain)) &&& 0x18) >>> 3 = qos ∧
      decide (flagByte u w c (some (qos, retain)) &&& 0x20 > 0) = retain := by
  rcases le_two_cases h with rfl | rfl | rfl <;>
    cases u <;> cases w <;> cases c <;> cases retain <;>
      exact ⟨⟨rfl, by decide, rfl, rfl, rfl, rfl⟩, rfl, rfl⟩

theorem MqttConnect.flags_read {p : MqttConnect} (h : ∀ will ∈ p.will, will.qos ≤ 2) :
    FlagsRead p.flags p.username.isSome p.password.isSome p.cleanSession p.will.isSome ∧
      ∀ will ∈ p.will, (p.flags &&& 0x18) >>> 3 = will.qos ∧
        decide (p.flags &&& 0x20 > 0) = will.retain := by
  rw [p.flags_eq]
  cases hwill : p.will with
  | none => exact ⟨flagByte_none _ _ _, fun will hmem => by cases hmem⟩
  | some will =>
    obtain ⟨hflags, hbits⟩ := flagByte_some p.username.isSome p.password.isSome p.cleanSession
      will.retain (h will hwill)
    refine ⟨hflags, fun other hmem => ?_⟩
    cases hmem
    exact hbits

/-- What the encoder of MQTT 3 leaves to the caller. -/
structure MqttConnect.ReadsBack (p : MqttConnect) : Prop where
  name : (p.protocolName = "MQTT" ∧ p.protocolVersion = 4) ∨
    (p.protocolName = "MQIsdp" ∧ p.protocolVersion = 3)
  username : p.password.isSome → p.username.isSome
  will : ∀ will ∈ p.will, will.message.length ≤ u16Max
  password : ∀ password ∈ p.password, password.length ≤ u16Max

/-- The strings of a CONNECT that passed validation. -/
structure MqttConnect.Valid (p : MqttConnect) : Prop where
  name : strLen p.protocolName ≤ u16Max ∧ validateMqttUtf8String p.protocolName = .ok ()
  clientId : strLen p.clientId ≤ u16Max ∧ validateMqttUtf8String p.clientId = .ok ()
  username : ∀ username ∈ p.username, strLen username ≤ u16Max ∧
    validateMqttUtf8String username = .ok ()
  will : ∀ will ∈ p.will, will.qos ≤ 2 ∧ strLen will.topic ≤ u16Max ∧
    validateMqttUtf8String will.topic = .ok ()

theorem MqttConnect.validate_ok {p : MqttConnect} (h : p.validate = .ok ()) : p.Valid := by
  obtain ⟨name, version, clean, keepAlive, clientId, will, username, password⟩ := p
  cases username <;> cases will <;>
    simp only [MqttConnect.validate, check_bind_eq_ok, validateString_eq_ok, validateTopic_eq_ok,
      require_eq_ok] at h <;>
    constructor <;> simp <;> tauto

/-- The bytes of the will in the payload. -/
def Will.wire (will : Will) : Bytes :=
  Utf8String.encode will.topic ++ BinaryData.encode will.message

theorem MqttConnect.payload_eq (p : MqttConnect) :
    p.payload = Utf8String.encode p.clientId ++ (p.will.elim [] Will.wire ++
      (p.username.elim [] Utf8String.encode ++ p.password.elim [] BinaryData.encode)) := by
  unfold MqttConnect.payload
  rw [List.append_assoc, List.append_assoc]
  cases p.will <;> cases p.username <;> cases p.password <;> rfl

section Fields

variable {p : MqttConnect} {rest b : Bytes} {n : Nat}

theorem indexBinary_place {data : Bytes} (hplace : At b n (BinaryData.encode data ++ rest))
    (h : data.length ≤ u16Max) :
    indexBinary b n = .ok (data, n + (BinaryData.encode data).length) := by
  have hnat : (UInt16.ofNat data.length).toNat = data.length := by
    rw [UInt16.toNat_ofNat', Nat.mod_eq_of_lt (by unfold u16Max at h; omega)]
  have hcut : At b n (TwoByteInteger.encode (UInt16.ofNat data.length) ++ (data ++ rest)) := by
    rw [← List.append_assoc]
    exact hplace
  have hdata := hcut.advance
  rw [TwoByteInteger.encode_length] at hdata
  have hlen := hdata.length
  rw [List.length_append] at hlen
  have hroom : ¬ n + 2 + data.length > b.length := by omega
  simp only [indexBinary, indexFrom_place hcut, TwoByteInteger.reads _ _, ok_bind, hnat,
    rejectIf_neg _ hroom, indexRange_place hdata rfl, pure_eq_ok]
  rw [BinaryData.encode_length, Nat.add_assoc]

theorem readWill_at (hplace : At b n (p.will.elim [] Will.wire ++ rest)) (hvalid : p.Valid)
    (hread : p.ReadsBack) :
    readWill true b p.flags n = .ok (p.will, n + (p.will.elim [] Will.wire).length) := by
  obtain ⟨hflags, hbits⟩ := MqttConnect.flags_read fun will hwill => (hvalid.will will hwill).1
  have hflag := hflags.will
  unfold readWill
  cases hwill : p.will with
  | none =>
    rw [hwill] at hflag
    rw [if_neg (of_decide_eq_false hflag)]
    rfl
  | some will =>
    rw [hwill] at hflag
    simp only [hwill, Option.elim_some, Will.wire, List.append_assoc] at hplace
    obtain ⟨hqos, hretain⟩ := hbits will hwill
    obtain ⟨-, hlen, hutf⟩ := hvalid.will will hwill
    rw [if_pos (of_decide_eq_true hflag), indexFrom_place hplace, ok_bind, parseUtf8String,
      Utf8String.reads true hlen (fun _ => hutf) _, ok_bind]
    simp only [indexBinary_place hplace.advance (hread.will will hwill), ok_bind, pure_eq_ok, hqos,
      hretain, Option.elim_some, Will.wire, List.length_append, Nat.add_assoc]

theorem readUsername_at (hplace : At b n (p.username.elim [] Utf8String.encode ++ rest))
    (hvalid : p.Valid) : readUsername true b p.flags n =
      .ok (p.username, n + (p.username.elim [] Utf8String.encode).length) := by
  have hflag := (MqttConnect.flags_read fun will hwill => (hvalid.will will hwill).1).1.username
  unfold readUsername
  cases husername : p.username with
  | none =>
    rw [husername] at hflag
    rw [if_neg (of_decide_eq_false hflag)]
    rfl
  | some username =>
    rw [husername] at hflag
    simp only [husername, Option.elim_some] at hplace
    obtain ⟨hlen, hutf⟩ := hvalid.username username husername
    rw [if_pos (of_decide_eq_true hflag), indexFrom_place hplace, ok_bind, parseUtf8String,
      Utf8String.reads true hlen (fun _ => hutf) _, ok_bind]
    rfl

theorem readPassword_at (hplace : At b n (p.password.elim [] BinaryData.encode ++ rest))
    (hvalid : p.Valid) (hread : p.ReadsBack) : readPassword b p.flags n =
      .ok (p.password, n + (p.password.elim [] BinaryData.encode).length) := by
  have hflag := (MqttConnect.flags_read fun will hwill => (hvalid.will will hwill).1).1.password
  unfold readPassword
  cases hpassword : p.password with
  | none =>
    rw [hpassword] at hflag
    rw [if_neg (of_decide_eq_false hflag)]
    rfl
  | some password =>
    rw [hpassword] at hflag
    simp only [hpassword, Option.elim_some] at hplace
    rw [if_pos (of_decide_eq_true hflag),
      indexBinary_place hplace (hread.password password hpassword), ok_bind]
    rfl

end Fields

theorem MqttConnect.fromBytes_toBytes {p : MqttConnect} {b : Bytes}
    (h : (MqttPacket.connect3 p).toBytes true = .ok b)
    (hlen : remainingLength b ≤ VariableByteInteger.maxValue) (hread : p.ReadsBack) :
    MqttConnect.fromBytes true b = .ok (.packet (.connect3 p) b.length) := by
  obtain ⟨vhdr, pl, hcheck, hvhdr, hpl, rfl⟩ := encodePacket_ok h
  obtain rfl := Except.ok.inj hvhdr
  obtain rfl := Except.ok.inj hpl
  rw [remainingLength_frame] at hlen
  have hvalid := MqttConnect.validate_ok hcheck
  obtain ⟨hflags, -⟩ := MqttConnect.flags_read fun will hwill => (hvalid.will will hwill).1
  have hfixed : Decode.check (Validation.fixedHeader ((ControlPacketType.connect.code <<< 4) ||| 0)) =
      .ok () := by decide
  have hversion : ¬ (p.protocolVersion ≠ 4 ∧ p.protocolVersion ≠ 3) := by
    rcases hread.name with ⟨-, h4⟩ | ⟨-, h3⟩
    · exact fun hne => hne.1 h4
    · exact fun hne => hne.2 h3
  have hpassword : ¬ (p.flags &&& 0x40 > 0 ∧ ¬ p.flags &&& 0x80 > 0) := by
    rintro ⟨hpass, huser⟩
    have hsome := hread.username (hflags.password ▸ decide_eq_true hpass)
    exact huser (of_decide_eq_true (hflags.username.trans hsome))
  unfold MqttConnect.fromBytes
  rw [expectType_frame (by rfl), ok_bind, headD_frame, onlyIf_true, hfixed, ok_bind,
    withFrame_frame hlen]
  generalize hbody : p.variableHeader ++ p.payload = body
  have hfields : body = Utf8String.encode p.protocolName ++ (p.protocolVersion :: p.flags ::
      (TwoByteInteger.encode p.keepAlive ++ (Utf8String.encode p.clientId ++
        (p.will.elim [] Will.wire ++ (p.username.elim [] Utf8String.encode ++
          (p.password.elim [] BinaryData.encode ++ [])))))) := by
    rw [← hbody, MqttConnect.variableHeader, MqttConnect.payload_eq]
    simp only [List.append_assoc, List.cons_append, List.nil_append, List.append_nil]
  have hatName := frame_place ((ControlPacketType.connect.code <<< 4) ||| 0) body
  generalize frame _ body = b at hatName ⊢
  generalize frameHeader _ _ = hdr at hatName ⊢
  rw [hfields] at hatName
  have hatVersion := hatName.advance
  have hatFlags := hatVersion.next
  have hatKeep := hatFlags.next
  have hatClient := hatKeep.advance
  rw [TwoByteInteger.encode_length] at hatClient
  have hatWill := hatClient.advance
  have hatUser := hatWill.advance
  have hatPass := hatUser.advance
  have hend := hatPass.advance.length
  rw [List.length_nil, Nat.add_zero] at hend
  simp only [indexFrom_place hatName, parseUtf8String,
    Utf8String.reads true hvalid.name.1 (fun _ => hvalid.name.2) _, ok_bind,
    getByte_place hatVersion, rejectIf_neg _ hversion, rejectIf_neg _ (not_not_intro hread.name),
    getByte_place hatFlags, onlyIf_true, hflags.valid, Decode.check_ok,
    rejectIf_neg _ hflags.reserved, rejectIf_neg _ hpassword, indexFrom_place hatKeep,
    TwoByteInteger.reads _ _, indexFrom_place hatClient,
    Utf8String.reads true hvalid.clientId.1 (fun _ => hvalid.clientId.2) _,
    readWill_at hatWill hvalid hread, readUsername_at hatUser hvalid,
    readPassword_at hatPass hvalid hread, hflags.cleanSession]
  rw [rejectIf_neg _ (not_not_intro hend.symm), ok_bind]
  exact validatedPacket_ok (p := .connect3 p) hcheck _

end V3

/-! ## Both versions -/

namespace MqttPacket

/-- What the encoders of CONNECT leave to the caller. -/
def ReadsBack : MqttPacket → Prop
  | .connect5 p => p.ReadsBack
  | .connect3 p => p.ReadsBack
  | _ => False

end MqttPacket

end FlowSdk
