/-
  FlowSdk.Serde.Publish — the encoder of PUBLISH against the one of every other packet.

  PUBLISH is written straight into the caller's buffer: the lengths are computed before, the
  fields are appended one by one, and nothing is collected in between. Any other packet goes
  through `variable_header`, `payload` and `fixed_header`. A PUBLISH has these as well, and here
  they are the specification of what is written into the buffer.

  Main results:
    1. `V5.MqttPublish.encodeToBuffer_run`, `V3.MqttPublish.encodeToBuffer_run`
    2. `publish_encoders_agree`   the same bytes or the same error, which leaves the buffer alone
-/
import FlowSdk.Machine.Effect
import FlowSdk.Serde.Frame

namespace FlowSdk

open Machine Wire

/-! ## Appending to a buffer -/

/-- Code that appends to a buffer and can fail on the way. -/
abbrev Append := Eff Bytes ParseError Unit

/-- `bytes.extend_from_slice`. -/
def extend (data : Bytes) : Append := Eff.update (· ++ data)

/-- The code appends these bytes and does not fail. -/
structure Writes (m : Append) (data : Bytes) : Prop where
  run : ∀ x, m x = .done (.ok ()) (x ++ data)

/-- All is appended or nothing. -/
def appended (x : Bytes) : Except ParseError Bytes → Outcome Bytes ParseError Unit
  | .ok data => .done (.ok ()) (x ++ data)
  | .error e => .done (.error e) x

theorem writes_extend (data : Bytes) : Writes (extend data) data := ⟨fun _ => rfl⟩

theorem Writes.bind {m k : Append} {data more : Bytes} (hm : Writes m data) (hk : Writes k more) :
    Writes (m >>= fun _ => k) (data ++ more) := by
  refine ⟨fun x => ?_⟩
  rw [Eff.bind_of_ok (hm.run x), hk.run, List.append_assoc]

theorem Writes.forEach {α : Type} (encode : α → Bytes) : ∀ list,
    Writes (Eff.forEach (fun a => extend (encode a)) list) (list.flatMap encode)
  | [] => ⟨fun x => by rw [List.flatMap_nil, List.append_nil]; rfl⟩
  | a :: list => by
    rw [List.flatMap_cons]
    exact (writes_extend _).bind (Writes.forEach encode list)

/-- A check before anything is written. -/
theorem lift_bind_run {α : Type} (check : Except ParseError α) {k : α → Append}
    {spec : α → Except ParseError Bytes} {x : Bytes} (h : ∀ a, k a x = appended x (spec a)) :
    (Eff.lift check >>= k) x = appended x (check >>= spec) := by
  cases check with
  | error e => rfl
  | ok a => exact h a

/-! ## The encoders of the source -/

/-- `encode_publish_header_into`. -/
def encodePublishHeaderInto (flags : UInt8) (topic : String) (packetId : Option UInt16)
    (propertiesLen payloadLen : Nat) : Append := do
  let remainingLength :=
    2 + strLen topic + (if packetId.isSome then 2 else 0) + propertiesLen + payloadLen
  extend [0x30 ||| flags]
  extend (VariableByteInteger.encode (UInt32.ofNat remainingLength))
  extend (TwoByteInteger.encode (UInt16.ofNat (strLen topic)))
  extend (strBytes topic)
  match packetId with
  | some id => extend (TwoByteInteger.encode id)
  | none => pure ()

/-- `encode_publish_into`. -/
def encodePublishInto (flags : UInt8) (topic : String) (packetId : Option UInt16)
    (properties payload : Bytes) : Append := do
  encodePublishHeaderInto flags topic packetId properties.length payload.length
  extend properties
  extend payload

/-- `PropertyEncoder::encode_into`. -/
def PropertyEncoder.appendTo (e : PropertyEncoder) : Append := do
  extend (VariableByteInteger.encode (UInt32.ofNat e.bodyLen))
  Eff.forEach (fun p : Property => extend p.encodeValidated) e.properties

/-- `encode_to_buffer` of MQTT 5. -/
def V5.MqttPublish.encodeToBuffer (strict : Bool) (p : V5.MqttPublish) : Append := do
  Eff.lift (onlyIf strict p.validate)
  Eff.lift (rejectIf (strLen p.topicName > u16Max) .stringTooLong)
  let packetId ← Eff.lift (publishId p.qos p.packetId "QoS > 0 requires a packet identifier")
  if p.properties = [] then
    encodePublishInto p.flags p.topicName packetId [0] p.payload
  else do
    let properties ← Eff.lift (PropertyEncoder.new strict p.properties)
    encodePublishHeaderInto p.flags p.topicName packetId properties.encodedLen p.payload.length
    properties.appendTo
    extend p.payload

/-- `encode_to_buffer` of MQTT 3. -/
def V3.MqttPublish.encodeToBuffer (strict : Bool) (p : V3.MqttPublish) : Append := do
  Eff.lift (onlyIf strict p.validate)
  let packetId ← Eff.lift (publishId p.qos p.messageId "Message ID is required for QoS > 0")
  encodePublishInto p.flags p.topicName packetId [] p.payload

/-- `variable_header` of MQTT 5. -/
def V5.MqttPublish.variableHeader (strict : Bool) (p : V5.MqttPublish) :
    Except ParseError Bytes := do
  let topic ← encodeUtf8String strict p.topicName
  let packetId ← publishId p.qos p.packetId "QoS > 0 requires a packet identifier"
  let properties ← encodeProperitiesHdr strict p.properties
  return topic ++ wireIdBytes packetId ++ properties

/-- `variable_header` of MQTT 3, which does not check the length of the topic. -/
def V3.MqttPublish.variableHeader (p : V3.MqttPublish) : Except ParseError Bytes := do
  let packetId ← publishId p.qos p.messageId "Message ID is required for QoS > 0"
  return Utf8String.encode p.topicName ++ wireIdBytes packetId

/-- The default encoder of `MqttControlPacket`, applied to a PUBLISH. -/
def V5.MqttPublish.generic (strict : Bool) (p : V5.MqttPublish) : Except ParseError Bytes :=
  encodePacket .publish p.flags (onlyIf strict p.validate) (p.variableHeader strict) (.ok p.payload)

def V3.MqttPublish.generic (strict : Bool) (p : V3.MqttPublish) : Except ParseError Bytes :=
  encodePacket .publish p.flags (onlyIf strict p.validate) p.variableHeader (.ok p.payload)

/-! ## What is written into the buffer -/

theorem encodePublishHeaderInto_writes (flags : UInt8) (topic : String) (packetId : Option UInt16)
    (propertiesLen payloadLen : Nat) :
    Writes (encodePublishHeaderInto flags topic packetId propertiesLen payloadLen)
      (encodePublishHeader flags topic packetId propertiesLen payloadLen) := by
  refine ⟨fun x => ?_⟩
  unfold encodePublishHeaderInto encodePublishHeader extend
  cases packetId with
  | none => simp [Eff.update_bind]
  | some id => simp [Eff.update_bind]

theorem encodePublishInto_writes (flags : UInt8) (topic : String) (packetId : Option UInt16)
    (properties payload : Bytes) : Writes (encodePublishInto flags topic packetId properties payload)
      (encodePublish flags topic packetId properties payload) := by
  unfold encodePublish
  rw [List.append_assoc]
  exact (encodePublishHeaderInto_writes ..).bind ((writes_extend _).bind (writes_extend _))

theorem PropertyEncoder.appendTo_writes (e : PropertyEncoder) : Writes e.appendTo e.encodeInto :=
  (writes_extend _).bind (.forEach Property.encodeValidated e.properties)

theorem V5.MqttPublish.encodeToBuffer_run (strict : Bool) (p : V5.MqttPublish) (x : Bytes) :
    p.encodeToBuffer strict x = appended x (p.toBytes strict) := by
  refine lift_bind_run _ fun _ => lift_bind_run _ fun _ => lift_bind_run _ fun packetId => ?_
  by_cases hempty : p.properties = []
  · rw [if_pos hempty, if_pos hempty]
    exact (encodePublishInto_writes ..).run x
  · rw [if_neg hempty, if_neg hempty]
    refine lift_bind_run _ fun properties => ?_
    rw [List.append_assoc]
    exact ((encodePublishHeaderInto_writes ..).bind
      (properties.appendTo_writes.bind (writes_extend _))).run x

theorem V3.MqttPublish.encodeToBuffer_run (strict : Bool) (p : V3.MqttPublish) (x : Bytes) :
    p.encodeToBuffer strict x = appended x (p.toBytes strict) :=
  lift_bind_run _ fun _ => lift_bind_run _ fun _ => (encodePublishInto_writes ..).run x

/-! ## The default encoder -/

/-- The frame of the fast path, assembled from header and payload as the default encoder does. -/
theorem encodePublishHeader_fixed (flags : UInt8) (topic : String) (id : Option UInt16)
    (properties payload : Bytes) :
    encodePublishHeader flags topic id properties.length payload.length ++ properties ++ payload =
      fixedHeader .publish flags
        ((Utf8String.encode topic ++ wireIdBytes id ++ properties).length + payload.length) ++
        (Utf8String.encode topic ++ wireIdBytes id ++ properties) ++ payload := by
  rw [encodePublishHeader_append, frame, frameHeader, fixedHeader, publishBody]
  simp only [List.length_append, List.append_assoc, Nat.add_assoc]
  rfl

/-- Validated topics pass the check of the string encoder; without validation it makes none. -/
theorem V5.MqttPublish.topic_clean {strict : Bool} {p : V5.MqttPublish}
    (h : onlyIf strict p.validate = .ok ()) :
    onlyIf strict (validateMqttUtf8String p.topicName) = .ok () := by
  rw [onlyIf_eq_ok] at h ⊢
  intro hstrict
  have hvalid := h hstrict
  simp only [V5.MqttPublish.validate, check_bind_eq_ok] at hvalid
  obtain ⟨-, -, htopic⟩ := hvalid
  split at htopic
  next hempty => rw [hempty]; rfl
  next => exact (validateTopic_eq_ok.mp htopic).1.2

theorem V5.MqttPublish.toBytes_eq_generic (strict : Bool) (p : V5.MqttPublish) :
    p.toBytes strict = p.generic strict := by
  unfold V5.MqttPublish.toBytes V5.MqttPublish.generic encodePacket
  refine bind_congr_ok fun _ hvalid => ?_
  unfold V5.MqttPublish.variableHeader encodeUtf8String
  rw [V5.MqttPublish.topic_clean hvalid]
  cases rejectIf (strLen p.topicName > u16Max) ParseError.stringTooLong with
  | error e => rfl
  | ok _ =>
    cases publishId p.qos p.packetId "QoS > 0 requires a packet identifier" with
    | error e => rfl
    | ok packetId =>
      simp only [ok_bind]
      split
      next hempty =>
        rw [hempty, encodeProperitiesHdr_nil]
        exact congrArg Except.ok (encodePublishHeader_fixed ..)
      next =>
        unfold encodeProperitiesHdr
        cases hnew : PropertyEncoder.new strict p.properties with
        | error e => rfl
        | ok properties =>
          simp only [ok_bind, pure_eq_ok]
          rw [PropertyEncoder.encodedLen_eq hnew, encodePublishHeader_fixed]

theorem V3.MqttPublish.toBytes_eq_generic (strict : Bool) (p : V3.MqttPublish) :
    p.toBytes strict = p.generic strict := by
  unfold V3.MqttPublish.toBytes V3.MqttPublish.generic encodePacket V3.MqttPublish.variableHeader
  cases onlyIf strict p.validate with
  | error e => rfl
  | ok _ =>
    cases publishId p.qos p.messageId "Message ID is required for QoS > 0" with
    | error e => rfl
    | ok packetId =>
      have hframe := encodePublishHeader_fixed p.flags p.topicName packetId [] p.payload
      rw [List.append_nil (Utf8String.encode p.topicName ++ wireIdBytes packetId)] at hframe
      exact congrArg Except.ok hframe

/-- Both encoders of a PUBLISH write the same bytes or fail alike, and then nothing is written. -/
theorem publish_encoders_agree (strict : Bool) (x : Bytes) :
    (∀ p : V5.MqttPublish, p.encodeToBuffer strict x = appended x (p.generic strict)) ∧
      ∀ p : V3.MqttPublish, p.encodeToBuffer strict x = appended x (p.generic strict) := by
  refine ⟨fun p => ?_, fun p => ?_⟩
  · rw [V5.MqttPublish.encodeToBuffer_run, V5.MqttPublish.toBytes_eq_generic]
  · rw [V3.MqttPublish.encodeToBuffer_run, V3.MqttPublish.toBytes_eq_generic]

end FlowSdk
